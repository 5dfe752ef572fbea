import RemoteBSP.Toolbusd.RequestManager

/-!
# The life of a request

What clients see of a request manager is a log: the submissions, the repetitions and the ends of
requests, each with its key. For one key the log is that of requests one after another (`Lives`),
each of which is repeated at most as often as the configuration says, with the timeout between, and
ends once if it ends at all. The pending request of a key is the one whose end the log does not
have. `request_lifecycle` says this of every run.
-/

namespace RemoteBSP.Toolbusd

/-- A call of a request manager. -/
inductive RequestCall
  | submit (request : Packet)
  | acceptResponse (response : Packet)
  | poll
  | cancel (sessionId requestId : UInt32)
deriving DecidableEq, Repr

/-- How a request ends: by its response, by the last deadline, or by its client. -/
inductive RequestEnd
  | matched (response : Packet)
  | timedOut
  | cancelled
deriving DecidableEq, Repr

/-- What the log says of a request. -/
inductive Moment
  | submitted (packet : Packet)
  | retried (packet : Option Packet)
  | ended (how : RequestEnd)
deriving DecidableEq, Repr

/-- An entry of the log, about one request. -/
structure LogEntry where
  /-- The time of the call that has written the entry. -/
  time : ℤ
  /-- The session and the ID of the request. -/
  requestKey : UInt64
  /-- What has happened to the request. -/
  moment : Moment
deriving DecidableEq, Repr

/-- A request manager and the log of its calls. -/
structure RequestLog where
  /-- The request manager behind the calls. -/
  manager : RequestManager
  /-- What has been written down of the calls, in their order. -/
  log : List LogEntry := []

/-- An event of `poll` in the log. -/
def RequestEvent.entry (now : ℤ) (event : RequestEvent) : LogEntry where
  time := now
  requestKey := RequestManager.key event.sessionId event.requestId
  moment :=
    match event.type with
    | .retry => .retried event.packet
    | .timedOut => .ended .timedOut

namespace RequestManager

/-- The entries that a submission adds to the log. -/
def submitEntries (now : ℤ) : Except RequestManagerException Submission → List LogEntry
  | .ok submission =>
    [⟨now, key submission.packet.header.sessionId submission.requestId,
      .submitted submission.packet⟩]
  | .error _ => []

/-- The entries that a response adds to the log. -/
def responseEntries (now : ℤ) : ResponseResult → List LogEntry
  | ⟨.matched, some response⟩ =>
    [⟨now, key response.header.sessionId response.header.requestId, .ended (.matched response)⟩]
  | _ => []

/-- A call: the entries that it adds to the log, and the request manager behind it. -/
def call (manager : RequestManager) (now : ℤ) : RequestCall → List LogEntry × RequestManager
  | .submit request =>
    (submitEntries now (manager.submit request now).1, (manager.submit request now).2)
  | .acceptResponse response =>
    (responseEntries now (manager.acceptResponse response now).1,
      (manager.acceptResponse response now).2)
  | .poll => ((manager.poll now).1.map (RequestEvent.entry now), (manager.poll now).2)
  | .cancel sessionId requestId =>
    (if (manager.cancel sessionId requestId).1 then
        [⟨now, key sessionId requestId, .ended .cancelled⟩]
      else [],
      (manager.cancel sessionId requestId).2)

end RequestManager

/-- A call with its time, written down. -/
def RequestLog.call (history : RequestLog) (call : ℤ × RequestCall) : RequestLog where
  manager := (history.manager.call call.1 call.2).2
  log := history.log ++ (history.manager.call call.1 call.2).1

/-- Calls one after the other, each written down at its time. -/
def RequestLog.run (history : RequestLog) (calls : List (ℤ × RequestCall)) : RequestLog :=
  calls.foldl RequestLog.call history

/-- What the log says of one key. -/
def RequestLog.ofKey (log : List LogEntry) (requestKey : UInt64) : List (ℤ × Moment) :=
  (log.filter fun entry => entry.requestKey = requestKey).map fun entry =>
    (entry.time, entry.moment)

/-! ## Requests -/

/-- A request, from its submission to its end. -/
structure RequestLife where
  /-- The request as it was sent. -/
  packet : Packet
  /-- The time of its submission. -/
  since : ℤ
  /-- The times at which it was sent again. -/
  retries : List ℤ
  /-- When it ended and how, if it has. -/
  ending : Option (ℤ × RequestEnd)
deriving DecidableEq, Repr

/-- What the log says of a request in the course of its life. -/
def RequestLife.moments (life : RequestLife) : List (ℤ × Moment) :=
  (life.since, .submitted life.packet) ::
    (life.retries.map fun time => (time, .retried (some life.packet))) ++
      (life.ending.map fun ending => (ending.1, .ended ending.2)).toList

/-- The log of a request that is repeated once more. -/
theorem RequestLife.moments_retried (packet : Packet) (since : ℤ) (retries : List ℤ) (now : ℤ) :
    (⟨packet, since, retries ++ [now], none⟩ : RequestLife).moments =
      (⟨packet, since, retries, none⟩ : RequestLife).moments ++
        [(now, .retried (some packet))] := by
  unfold RequestLife.moments
  simp

/-- The log of a request that ends. -/
theorem RequestLife.moments_ended (packet : Packet) (since : ℤ) (retries : List ℤ) (now : ℤ)
    (how : RequestEnd) :
    (⟨packet, since, retries, some (now, how)⟩ : RequestLife).moments =
      (⟨packet, since, retries, none⟩ : RequestLife).moments ++ [(now, .ended how)] := by
  unfold RequestLife.moments
  simp

/-- When a request has been sent last. -/
def RequestLife.lastSent (life : RequestLife) : ℤ := life.retries.getLast?.getD life.since

/-- A response answers a request: the session, the request ID and the command are the same. So is
the object, unless the request has created it. -/
structure Answers (request response : Packet) : Prop where
  /-- The packet is a response. -/
  type : response.header.messageType = .response
  /-- It is for the session of the request. -/
  sessionId : response.header.sessionId = request.header.sessionId
  /-- It has the ID of the request. -/
  requestId : response.header.requestId = request.header.requestId
  /-- It has the command of the request. -/
  command : response.header.command = request.header.command
  /-- The object of an answer to a request that creates none. -/
  object : ¬ RequestManager.createsObject request →
    response.header.objectId = request.header.objectId
  /-- It names the object that the request has created. -/
  created : RequestManager.createsObject request →
    response.header.flags &&& kErrorResponseFlag = 0 →
      request.header.objectId = 0 ∧ response.header.objectId ≠ 0
  /-- The object of an answer that says that none has been created. -/
  refused : RequestManager.createsObject request →
    response.header.flags &&& kErrorResponseFlag ≠ 0 →
      response.header.objectId = request.header.objectId

/-- A request keeps to the configuration, under its key. -/
structure RequestLife.Keeps (config : RequestManagerConfig) (requestKey : UInt64)
    (life : RequestLife) : Prop where
  /-- The key is made of the session and the request ID. -/
  keyed : RequestManager.key life.packet.header.sessionId life.packet.header.requestId = requestKey
  /-- The request ID is not zero. -/
  requestId_ne_zero : life.packet.header.requestId ≠ 0
  /-- The request is not repeated too often. -/
  retries_le : life.retries.length ≤ config.maximumRetries
  /-- The timeout lies between the repetitions. -/
  spaced : (life.since :: life.retries).IsChain fun a b => a + config.timeout ≤ b
  /-- A response that matches answers the request. -/
  answered : ∀ time response, life.ending = some (time, .matched response) →
    Answers life.packet response

/-- A pending request is one that has not ended. -/
def RequestLife.pending (config : RequestManagerConfig) (life : RequestLife) : Pending where
  packet := life.packet
  deadline := life.lastSent + config.timeout
  retriesRemaining := config.maximumRetries - life.retries.length

/-- The log of a key is that of requests one after another. All but the last have ended, and the
last one has ended unless it is pending. -/
def Lives (config : RequestManagerConfig) (requestKey : UInt64) (log : List (ℤ × Moment))
    (pending : Option Pending) : Prop :=
  ∃ (past : List RequestLife) (current : Option RequestLife),
    log = (past ++ current.toList).flatMap RequestLife.moments ∧
      (∀ life ∈ past ++ current.toList, life.Keeps config requestKey) ∧
      (∀ life ∈ past, life.ending.isSome) ∧ (∀ life ∈ current, life.ending = none) ∧
      pending = current.map (RequestLife.pending config)

variable {config : RequestManagerConfig} {requestKey : UInt64} {log : List (ℤ × Moment)}
  {pending : Pending} {now : ℤ}

/-- A submission begins another life under a key that nothing is pending under. -/
theorem Lives.submitted (h : Lives config requestKey log none) {packet : Packet}
    (hkey : RequestManager.key packet.header.sessionId packet.header.requestId = requestKey)
    (hne : packet.header.requestId ≠ 0) :
    Lives config requestKey (log ++ [(now, .submitted packet)])
      (some ⟨packet, now + config.timeout, config.maximumRetries⟩) := by
  obtain ⟨past, current, rfl, hkeeps, hpast, -, hpending⟩ := h
  obtain rfl : current = none := Option.map_eq_none_iff.1 hpending.symm
  refine ⟨past, some ⟨packet, now, [], none⟩, ?_, fun life hmem => ?_, hpast, ?_, rfl⟩
  · rw [Option.toList_none, List.append_nil, List.flatMap_append]
    rfl
  · rcases List.mem_append.1 hmem with hmem | hmem
    · exact hkeeps life (List.mem_append_left _ hmem)
    · rw [List.mem_singleton.1 hmem]
      exact ⟨hkey, hne, Nat.zero_le _, .singleton _, nofun⟩
  · intro life hmem
    rw [← Option.some.inj hmem]

/-- The pending request is the one that has not ended. -/
theorem Lives.exists_current (h : Lives config requestKey log (some pending)) :
    ∃ (past : List RequestLife) (life : RequestLife),
      log = past.flatMap RequestLife.moments ++ life.moments ∧
      (∀ life ∈ past, life.Keeps config requestKey ∧ life.ending.isSome) ∧
      life.Keeps config requestKey ∧ life.ending = none ∧ pending = life.pending config := by
  obtain ⟨past, current, rfl, hkeeps, hpast, hcurrent, hpending⟩ := h
  obtain ⟨life, rfl, rfl⟩ := Option.map_eq_some_iff.1 hpending.symm
  refine ⟨past, life, ?_, fun life' hmem => ⟨hkeeps life' (List.mem_append_left _ hmem),
    hpast life' hmem⟩, hkeeps life (List.mem_append_right _ (List.mem_singleton_self _)),
    hcurrent life rfl, rfl⟩
  rw [List.flatMap_append, Option.toList_some, List.flatMap_singleton]

/-- A repetition belongs to the life of the pending request. -/
theorem Lives.retried (h : Lives config requestKey log (some pending))
    (hdeadline : pending.deadline ≤ now) (hremaining : 0 < pending.retriesRemaining) :
    Lives config requestKey (log ++ [(now, .retried (some pending.packet))])
      (some { pending with
        retriesRemaining := pending.retriesRemaining - 1
        deadline := now + config.timeout }) := by
  obtain ⟨past, life, rfl, hpast, hkeeps, hending, rfl⟩ := h.exists_current
  obtain ⟨packet, since, retries, ending⟩ := life
  dsimp only at hending
  subst hending
  have hlength : retries.length < config.maximumRetries := Nat.lt_of_sub_pos hremaining
  refine ⟨past, some ⟨packet, since, retries ++ [now], none⟩, ?_, fun life hmem => ?_,
    fun life hmem => (hpast life hmem).2, ?_, ?_⟩
  · rw [List.flatMap_append, Option.toList_some, List.flatMap_singleton,
      RequestLife.moments_retried, List.append_assoc]
    rfl
  · rcases List.mem_append.1 hmem with hmem | hmem
    · exact (hpast life hmem).1
    · rw [List.mem_singleton.1 hmem]
      refine ⟨hkeeps.keyed, hkeeps.requestId_ne_zero, ?_, ?_, nofun⟩
      · show (retries ++ [now]).length ≤ config.maximumRetries
        rw [List.length_append]
        exact hlength
      · -- The last repetition is as old as the deadline says.
        show (since :: (retries ++ [now])).IsChain fun a b => a + config.timeout ≤ b
        rw [← List.cons_append, List.isChain_append]
        refine ⟨hkeeps.spaced, .singleton _, fun a ha b hb => ?_⟩
        rw [← Option.some.inj hb]
        rw [List.getLast?_cons] at ha
        rw [← Option.some.inj ha]
        exact hdeadline
  · intro life hmem
    rw [← Option.some.inj hmem]
  · show some _ = some _
    unfold RequestLife.pending RequestLife.lastSent
    simp only [List.getLast?_concat, Option.getD_some, List.length_append, List.length_singleton,
      Nat.sub_sub]

/-- An end belongs to the life of the pending request, and nothing is pending under its key then. -/
theorem Lives.ended (h : Lives config requestKey log (some pending)) {how : RequestEnd}
    (hanswers : ∀ response, how = .matched response → Answers pending.packet response) :
    Lives config requestKey (log ++ [(now, .ended how)]) none := by
  obtain ⟨past, life, rfl, hpast, hkeeps, hending, rfl⟩ := h.exists_current
  obtain ⟨packet, since, retries, ending⟩ := life
  dsimp only at hending
  subst hending
  refine ⟨past ++ [⟨packet, since, retries, some (now, how)⟩], none, ?_, fun life hmem => ?_,
    fun life hmem => ?_, nofun, rfl⟩
  · rw [Option.toList_none, List.append_nil, List.flatMap_append, List.flatMap_singleton,
      RequestLife.moments_ended, List.append_assoc]
  · rw [Option.toList_none, List.append_nil] at hmem
    rcases List.mem_append.1 hmem with hmem | hmem
    · exact (hpast life hmem).1
    · rw [List.mem_singleton.1 hmem]
      refine ⟨hkeeps.keyed, hkeeps.requestId_ne_zero, hkeeps.retries_le, hkeeps.spaced,
        fun time response heq => ?_⟩
      exact hanswers response (Prod.mk.inj (Option.some.inj heq)).2
  · rcases List.mem_append.1 hmem with hmem | hmem
    · exact (hpast life hmem).2
    · rw [List.mem_singleton.1 hmem]
      rfl

/-! ## The calls -/

/-- What the log says of one key after more entries. -/
theorem RequestLog.ofKey_append (log more : List LogEntry) (requestKey : UInt64) :
    RequestLog.ofKey (log ++ more) requestKey =
      RequestLog.ofKey log requestKey ++ RequestLog.ofKey more requestKey := by
  unfold RequestLog.ofKey
  rw [List.filter_append, List.map_append]

/-- An entry says something of its own key only. -/
theorem RequestLog.ofKey_singleton (entry : LogEntry) (requestKey : UInt64) :
    RequestLog.ofKey [entry] requestKey =
      if entry.requestKey = requestKey then [(entry.time, entry.moment)] else [] := by
  unfold RequestLog.ofKey
  rw [List.filter_singleton]
  by_cases h : entry.requestKey = requestKey
  · rw [if_pos h, decide_eq_true h]
    rfl
  · rw [if_neg h, decide_eq_false h]
    rfl

namespace RequestManager

variable {manager : RequestManager} {sessionId requestId : UInt32}

/-- The number that a key stands for: the session above the 32 bits of the request ID. -/
theorem toNat_key (sessionId requestId : UInt32) :
    (key sessionId requestId).toNat = 2^32 * sessionId.toNat + requestId.toNat := by
  have hs := sessionId.toNat_lt
  have hr := requestId.toNat_lt
  have hlt : sessionId.toNat * 2^32 < 2^64 := by omega
  simp only [key, UInt64.toNat_or, UInt64.toNat_shiftLeft, UInt32.toNat_toUInt64,
    UInt64.reduceToNat, Nat.reduceMod, Nat.shiftLeft_eq]
  rw [Nat.mod_eq_of_lt hlt, mul_comm, Nat.two_pow_add_eq_or_of_lt hr]

/-- No two pairs of a session and a request ID share a key. -/
theorem key_inj {s s' r r' : UInt32} : key s r = key s' r' ↔ s = s' ∧ r = r' := by
  refine ⟨fun h => ?_, fun ⟨hs, hr⟩ => by rw [hs, hr]⟩
  have hkey := congrArg UInt64.toNat h
  rw [toNat_key, toNat_key] at hkey
  have hr := r.toNat_lt
  have hr' := r'.toNat_lt
  exact ⟨UInt32.toNat_inj.1 (by omega), UInt32.toNat_inj.1 (by omega)⟩

/-- The upper half of a key is the session. -/
theorem toUInt32_key (sessionId requestId : UInt32) :
    (key sessionId requestId >>> 32).toUInt32 = sessionId := by
  have hs := sessionId.toNat_lt
  have hr := requestId.toNat_lt
  rw [← UInt32.toNat_inj, UInt64.toNat_toUInt32, UInt64.toNat_shiftRight, toNat_key]
  simp only [UInt64.reduceToNat, Nat.reduceMod, Nat.shiftRight_eq_div_pow]
  omega

/-- A request ID that is found is not in use, and neither it nor the next one is zero. -/
theorem allocateFrom_spec (manager : RequestManager) (sessionId : UInt32) (attempts : ℕ)
    {next : UInt32} (hnext : next ≠ 0) :
    (manager.allocateFrom sessionId attempts next).2 ≠ 0 ∧
      ∀ found ∈ (manager.allocateFrom sessionId attempts next).1,
        found ≠ 0 ∧ manager.inUse sessionId found = false := by
  induction attempts generalizing next with
  | zero => exact ⟨hnext, nofun⟩
  | succ attempts ih =>
    have hwrap : (if next + 1 = 0 then 1 else next + 1) ≠ 0 := by
      split
      · decide
      · assumption
    unfold allocateFrom
    dsimp only
    cases huse : manager.inUse sessionId next with
    | true => exact ih hwrap
    | false =>
      refine ⟨hwrap, fun found hfound => ?_⟩
      rw [← Option.some.inj hfound]
      exact ⟨hnext, huse⟩

/-- An ID that is not in use is neither pending nor over. -/
theorem inUse_eq_false_iff : manager.inUse sessionId requestId = false ↔
    manager.pending.lookup (key sessionId requestId) = none ∧
      manager.completed.lookup (key sessionId requestId) = none := by
  unfold inUse
  rw [Bool.or_eq_false_iff, Option.isSome_eq_false_iff, Option.isSome_eq_false_iff,
    Option.isNone_iff_eq_none, Option.isNone_iff_eq_none]

/-- A submission that does not throw gives an ID under which nothing was pending. -/
theorem submit_ok {request : Packet} {now : ℤ} {submission : Submission}
    (hnext : manager.nextRequestId ≠ 0) (h : (manager.submit request now).1 = .ok submission) :
    submission.requestId ≠ 0 ∧
      (manager.expireCompleted now).inUse submission.packet.header.sessionId submission.requestId =
        false ∧
      submission.packet.header.requestId = submission.requestId ∧
      ∃ next, next ≠ 0 ∧ (manager.submit request now).2 = { manager.expireCompleted now with
        nextRequestId := next
        pending := manager.pending.insert
          (key submission.packet.header.sessionId submission.requestId)
          ⟨submission.packet, now + manager.config.timeout, manager.config.maximumRetries⟩ } := by
  have hspec := (manager.expireCompleted now).allocateFrom_spec request.header.sessionId
    4294967295 hnext
  unfold submit at h ⊢
  dsimp only at h ⊢
  split at h
  · cases h
  · next htype =>
    rw [if_neg htype]
    unfold allocateRequestId at h ⊢
    cases hallocate : (manager.expireCompleted now).allocateFrom request.header.sessionId
        4294967295 (manager.expireCompleted now).nextRequestId with
    | mk found next =>
      have hallocate' : (manager.expireCompleted now).allocateFrom request.header.sessionId
        4294967295 manager.nextRequestId = (found, next) := hallocate
      rw [hallocate'] at hspec
      rw [hallocate] at h
      cases found with
      | none => cases h
      | some candidate =>
        obtain ⟨hne, huse⟩ := hspec.2 candidate rfl
        obtain rfl := Except.ok.inj h
        exact ⟨hne, huse, rfl, next, hspec.1, rfl⟩

/-- A submission that fails changes no request. -/
theorem submit_error {request : Packet} {now : ℤ} {exception : RequestManagerException}
    (hnext : manager.nextRequestId ≠ 0) (h : (manager.submit request now).1 = .error exception) :
    ∃ next, next ≠ 0 ∧ (manager.submit request now).2 =
      { manager.expireCompleted now with nextRequestId := next } := by
  have hspec := (manager.expireCompleted now).allocateFrom_spec request.header.sessionId
    4294967295 hnext
  unfold submit at h ⊢
  dsimp only at h ⊢
  split
  · exact ⟨manager.nextRequestId, hnext, rfl⟩
  · next htype =>
    rw [if_neg htype] at h
    unfold allocateRequestId at h ⊢
    cases hallocate : (manager.expireCompleted now).allocateFrom request.header.sessionId
        4294967295 (manager.expireCompleted now).nextRequestId with
    | mk found next =>
      have hallocate' : (manager.expireCompleted now).allocateFrom request.header.sessionId
        4294967295 manager.nextRequestId = (found, next) := hallocate
      rw [hallocate'] at hspec
      rw [hallocate] at h
      cases found with
      | none => exact ⟨next, hspec.1, rfl⟩
      | some candidate => cases h

/-- A response that matches ends its request. Any other leaves the requests alone. -/
theorem acceptResponse_cases (manager : RequestManager) (response : Packet) (now : ℤ) :
    ((manager.acceptResponse response now).1.status ≠ .matched ∧
        (manager.acceptResponse response now).1.response = none ∧
        (manager.acceptResponse response now).2 = manager.expireCompleted now) ∨
      ∃ found, manager.pending.lookup (key response.header.sessionId response.header.requestId) =
          some found ∧
        response.header.messageType = .response ∧
        found.packet.header.command = response.header.command ∧
        objectMatches found.packet response = true ∧
        (manager.acceptResponse response now).1 = ⟨.matched, some response⟩ ∧
        (manager.acceptResponse response now).2 =
          ({ manager.expireCompleted now with
            pending := manager.pending.erase
              (key response.header.sessionId response.header.requestId) }).rememberCompleted
            (key response.header.sessionId response.header.requestId) now := by
  unfold acceptResponse
  dsimp only
  split
  · exact .inl ⟨by simp, rfl, rfl⟩
  · next htype =>
    rw [pending_expireCompleted]
    split
    · split <;> exact .inl ⟨by simp, rfl, rfl⟩
    · next found hfound =>
      split
      · exact .inl ⟨by simp, rfl, rfl⟩
      · next hmatch =>
        rw [not_or, not_not, not_not] at hmatch
        exact .inr ⟨found, hfound, not_not.1 htype, hmatch.1, hmatch.2, rfl, rfl⟩

/-- A response with the object, the key and the command of a request answers it. -/
theorem answers_of_objectMatches {request response : Packet}
    (htype : response.header.messageType = .response)
    (hkey : key request.header.sessionId request.header.requestId =
      key response.header.sessionId response.header.requestId)
    (hcommand : request.header.command = response.header.command)
    (hobject : objectMatches request response = true) : Answers request response := by
  obtain ⟨hsession, hrequest⟩ := key_inj.1 hkey
  unfold objectMatches at hobject
  refine ⟨htype, hsession.symm, hrequest.symm, hcommand.symm, fun hcreates => ?_,
    fun hcreates hflags => ?_, fun hcreates hflags => ?_⟩
  · rw [if_neg hcreates] at hobject
    exact (of_decide_eq_true hobject).symm
  · rw [if_pos hcreates, if_neg (not_not.2 hflags)] at hobject
    exact of_decide_eq_true hobject
  · rw [if_pos hcreates, if_pos hflags] at hobject
    exact of_decide_eq_true hobject

/-- Remembering IDs changes the IDs of the requests that are over, and nothing else. -/
theorem foldl_rememberCompleted (finished : List UInt64) (manager : RequestManager) (now : ℤ) :
    (finished.foldl (fun manager requestKey => manager.rememberCompleted requestKey now)
        manager).config = manager.config ∧
      (finished.foldl (fun manager requestKey => manager.rememberCompleted requestKey now)
        manager).nextRequestId = manager.nextRequestId ∧
      ∀ requestKey, requestKey ∉ finished →
        (finished.foldl (fun manager requestKey => manager.rememberCompleted requestKey now)
          manager).completed.lookup requestKey = manager.completed.lookup requestKey := by
  induction finished generalizing manager with
  | nil => exact ⟨rfl, rfl, fun _ _ => rfl⟩
  | cons first finished ih =>
    obtain ⟨hconfig, hnext, hcompleted⟩ := ih (manager.rememberCompleted first now)
    refine ⟨hconfig, hnext, fun requestKey hmem => ?_⟩
    rw [List.mem_cons, not_or] at hmem
    rw [List.foldl_cons, hcompleted requestKey hmem.2]
    unfold rememberCompleted
    rw [Map.lookup_insert_ite, if_neg hmem.1]

/-- `poll` changes the requests, and remembers the IDs of those that it gives up. -/
theorem poll_spec (manager : RequestManager) (now : ℤ) :
    (manager.poll now).2.config = manager.config ∧
      (manager.poll now).2.nextRequestId = manager.nextRequestId ∧
      ∀ requestKey, (∀ pending, manager.pending.lookup requestKey = some pending →
          givesUp now pending = false) →
        (manager.poll now).2.completed.lookup requestKey =
          (manager.expireCompleted now).completed.lookup requestKey := by
  obtain ⟨hconfig, hnext, hcompleted⟩ := foldl_rememberCompleted
    ((manager.expireCompleted now).pending.filterEntries fun _ => givesUp now).keys
    { manager.expireCompleted now with
      pending := ((manager.expireCompleted now).pending.filterEntries fun _ pending =>
        !givesUp now pending).mapValues ((manager.expireCompleted now).polled now) } now
  refine ⟨hconfig, hnext, fun requestKey hkept => hcompleted requestKey fun hmem => ?_⟩
  rw [← AList.mem_keys, ← AList.lookup_isSome, Map.lookup_filterEntries, pending_expireCompleted,
    Option.isSome_iff_exists] at hmem
  obtain ⟨pending, hgiven⟩ := hmem
  obtain ⟨hlookup, hgives⟩ := Option.filter_eq_some_iff.1 hgiven
  rw [hkept pending hlookup] at hgives
  cases hgives

/-- What the log says of a key after `poll`. -/
theorem ofKey_poll (hkeyed : ∀ requestKey pending,
      manager.pending.lookup requestKey = some pending →
        key pending.packet.header.sessionId pending.packet.header.requestId = requestKey)
    (now : ℤ) (requestKey : UInt64) :
    RequestLog.ofKey ((manager.poll now).1.map (RequestEvent.entry now)) requestKey =
      (((manager.pending.lookup requestKey).bind (pollEvent now requestKey)).map fun event =>
        (now, (event.entry now).moment)).toList := by
  have hevent : ∀ requestKey pending event,
      manager.pending.lookup requestKey = some pending →
      pollEvent now requestKey pending = some event →
      key event.sessionId event.requestId = requestKey := by
    intro requestKey pending event hlookup hevent
    have hkey := hkeyed requestKey pending hlookup
    unfold pollEvent at hevent
    split at hevent
    · rw [← Option.some.inj hevent]
      exact hkey
    · split at hevent
      · rw [← Option.some.inj hevent]
        show key (requestKey >>> 32).toUInt32 pending.packet.header.requestId = requestKey
        rw [← hkey, toUInt32_key]
      · cases hevent
  have hpoll : (manager.poll now).1 =
      manager.pending.entries.filterMap fun entry => pollEvent now entry.1 entry.2 := rfl
  unfold RequestLog.ofKey
  rw [hpoll, List.filter_map, List.map_map]
  have hof := manager.pending.filter_filterMap_entries hevent requestKey
  have hfilter : (manager.pending.entries.filterMap fun entry =>
        pollEvent now entry.1 entry.2).filter
      ((fun entry : LogEntry => decide (entry.requestKey = requestKey)) ∘ RequestEvent.entry now) =
      ((manager.pending.lookup requestKey).bind (pollEvent now requestKey)).toList := hof
  rw [hfilter]
  cases (manager.pending.lookup requestKey).bind (pollEvent now requestKey) <;> rfl

end RequestManager

/-! ## Runs -/

/-- What holds of a request manager and its log after every run. -/
structure RequestLog.Valid (config : RequestManagerConfig) (history : RequestLog) : Prop where
  /-- The configuration is the one that the manager was made with. -/
  config_eq : history.manager.config = config
  /-- The ID to try next is not zero. -/
  next_ne_zero : history.manager.nextRequestId ≠ 0
  /-- A request that is pending is not over. -/
  disjoint : ∀ requestKey pending, history.manager.pending.lookup requestKey = some pending →
    history.manager.completed.lookup requestKey = none
  /-- The log of every key is that of requests one after another. -/
  lives : ∀ requestKey, Lives config requestKey (ofKey history.log requestKey)
    (history.manager.pending.lookup requestKey)

namespace RequestLog

variable {history : RequestLog}

/-- Every pending request has its own key. -/
theorem Valid.keyed (h : Valid config history) (requestKey : UInt64) (pending : Pending)
    (hlookup : history.manager.pending.lookup requestKey = some pending) :
    RequestManager.key pending.packet.header.sessionId pending.packet.header.requestId =
      requestKey := by
  have hlives := h.lives requestKey
  rw [hlookup] at hlives
  obtain ⟨past, life, -, -, hkeeps, -, rfl⟩ := hlives.exists_current
  exact hkeeps.keyed

/-- An ID that is not in the map is not in it after an expiry. -/
theorem lookup_expireCompleted_eq_none {manager : RequestManager} {now : ℤ} {requestKey : UInt64}
    (h : manager.completed.lookup requestKey = none) :
    (manager.expireCompleted now).completed.lookup requestKey = none := by
  unfold RequestManager.expireCompleted
  rw [Map.lookup_filterEntries, h]
  rfl

/-- A request is submitted, or refused. -/
theorem Valid.submit (h : Valid config history) (now : ℤ) (request : Packet) :
    Valid config (history.call (now, .submit request)) := by
  cases hsubmit : (history.manager.submit request now).1 with
  -- A refused request has used up request IDs at most.
  | error exception =>
    obtain ⟨next, hnext, hmanager⟩ := RequestManager.submit_error h.next_ne_zero hsubmit
    have hcall : history.call (now, .submit request) =
        ⟨{ history.manager.expireCompleted now with nextRequestId := next }, history.log⟩ := by
      unfold RequestLog.call RequestManager.call
      dsimp only
      rw [hsubmit, hmanager]
      unfold RequestManager.submitEntries
      rw [List.append_nil]
    rw [hcall]
    exact ⟨h.config_eq, hnext, fun requestKey pending hlookup =>
      lookup_expireCompleted_eq_none (h.disjoint requestKey pending hlookup), h.lives⟩
  | ok submission =>
    obtain ⟨hne, huse, hid, next, hnext, hmanager⟩ :=
      RequestManager.submit_ok h.next_ne_zero hsubmit
    -- The ID is fresh, so that the key is neither pending nor remembered.
    obtain ⟨hpending, hcompleted⟩ := RequestManager.inUse_eq_false_iff.1 huse
    rw [RequestManager.pending_expireCompleted] at hpending
    unfold RequestLog.call RequestManager.call
    dsimp only
    rw [hsubmit, hmanager]
    refine ⟨h.config_eq, hnext, fun requestKey pending hlookup => ?_, fun requestKey => ?_⟩
    · dsimp only at hlookup
      rw [Map.lookup_insert_ite] at hlookup
      split at hlookup
      · next hkey =>
        rw [hkey]
        exact hcompleted
      · exact lookup_expireCompleted_eq_none (h.disjoint requestKey pending hlookup)
    · unfold RequestManager.submitEntries
      dsimp only
      rw [ofKey_append, ofKey_singleton, Map.lookup_insert_ite]
      -- The log of the key begins a new life, and those of the others go on.
      by_cases hkey : requestKey =
          RequestManager.key submission.packet.header.sessionId submission.requestId
      · rw [if_pos hkey.symm, if_pos hkey, h.config_eq]
        have hlives := h.lives requestKey
        rw [hkey, hpending] at hlives
        rw [hkey]
        exact hlives.submitted (by rw [hid]) (by rw [hid]; exact hne)
      · rw [if_neg (Ne.symm hkey), if_neg hkey, List.append_nil]
        exact h.lives requestKey

/-- The end of a pending request is written down under its key. -/
theorem Valid.finish (h : Valid config history) {now : ℤ} {requestKey : UInt64} {pending : Pending}
    (hlookup : history.manager.pending.lookup requestKey = some pending) {how : RequestEnd}
    (hanswers : ∀ response, how = .matched response → Answers pending.packet response)
    (k : UInt64) :
    Lives config k (ofKey (history.log ++ [⟨now, requestKey, .ended how⟩]) k)
      ((history.manager.pending.erase requestKey).lookup k) := by
  rw [ofKey_append, ofKey_singleton, Map.lookup_erase_ite]
  by_cases hkey : k = requestKey
  · rw [if_pos hkey.symm, if_pos hkey, hkey]
    have hlives := h.lives requestKey
    rw [hlookup] at hlives
    exact hlives.ended hanswers
  · rw [if_neg (Ne.symm hkey), if_neg hkey, List.append_nil]
    exact h.lives k

/-- A response keeps the lives in order, whether or not it ends one. -/
theorem Valid.acceptResponse (h : Valid config history) (now : ℤ) (response : Packet) :
    Valid config (history.call (now, .acceptResponse response)) := by
  unfold RequestLog.call RequestManager.call
  dsimp only
  rcases history.manager.acceptResponse_cases response now with
    ⟨hstatus, hresponse, hmanager⟩ | ⟨found, hfound, htype, hcommand, hobject, hresult, hmanager⟩
  -- A response that does not match is not logged.
  · have hentries : RequestManager.responseEntries now
        (history.manager.acceptResponse response now).1 = [] := by
      unfold RequestManager.responseEntries
      split
      · next heq =>
        rw [heq] at hresponse
        cases hresponse
      · rfl
    rw [hentries, hmanager, List.append_nil]
    exact ⟨h.config_eq, h.next_ne_zero, fun requestKey pending hlookup =>
      lookup_expireCompleted_eq_none (h.disjoint requestKey pending hlookup), h.lives⟩
  -- A response that matches ends the life of its request.
  · have hkey := h.keyed _ _ hfound
    rw [hresult, hmanager]
    refine ⟨h.config_eq, h.next_ne_zero, fun requestKey pending hlookup => ?_,
      h.finish hfound fun response' heq => ?_⟩
    · unfold RequestManager.rememberCompleted at hlookup ⊢
      dsimp only at hlookup ⊢
      rw [Map.lookup_erase_ite] at hlookup
      rw [Map.lookup_insert_ite]
      split at hlookup
      · cases hlookup
      · next hother =>
        rw [if_neg hother]
        exact lookup_expireCompleted_eq_none (h.disjoint requestKey pending hlookup)
    · obtain rfl := RequestEnd.matched.inj heq
      exact RequestManager.answers_of_objectMatches htype hkey hcommand hobject

/-- A cancellation keeps the lives in order, whether or not it ends one. -/
theorem Valid.cancel (h : Valid config history) (now : ℤ) (sessionId requestId : UInt32) :
    Valid config (history.call (now, .cancel sessionId requestId)) := by
  unfold RequestLog.call RequestManager.call RequestManager.cancel
  dsimp only
  have hdisjoint : ∀ requestKey pending, (history.manager.pending.erase
      (RequestManager.key sessionId requestId)).lookup requestKey = some pending →
        history.manager.completed.lookup requestKey = none := by
    intro requestKey pending hlookup
    rw [Map.lookup_erase_ite] at hlookup
    split at hlookup
    · cases hlookup
    · exact h.disjoint requestKey pending hlookup
  cases hlookup : history.manager.pending.lookup (RequestManager.key sessionId requestId) with
  | none =>
    rw [Map.erase_of_lookup_eq_none hlookup] at hdisjoint ⊢
    dsimp only [Option.isSome_none]
    rw [if_neg Bool.false_ne_true, List.append_nil]
    exact ⟨h.config_eq, h.next_ne_zero, hdisjoint, h.lives⟩
  | some pending =>
    dsimp only [Option.isSome_some]
    rw [if_pos rfl]
    exact ⟨h.config_eq, h.next_ne_zero, hdisjoint, h.finish hlookup nofun⟩

/-- The timers keep the lives in order, whatever they repeat or give up. -/
theorem Valid.poll (h : Valid config history) (now : ℤ) :
    Valid config (history.call (now, .poll)) := by
  unfold RequestLog.call RequestManager.call
  dsimp only
  have hpending := history.manager.pending_poll now
  obtain ⟨hconfig, hnext, hcompleted⟩ := history.manager.poll_spec now
  refine ⟨hconfig.trans h.config_eq, fun hzero => h.next_ne_zero (hnext.symm.trans hzero),
    fun requestKey pending hlookup => ?_, fun requestKey => ?_⟩
  · dsimp only at hlookup
    rw [hpending, Map.lookup_mapValues, Map.lookup_filterEntries, Option.map_eq_some_iff] at hlookup
    obtain ⟨pending', hfilter, rfl⟩ := hlookup
    obtain ⟨hlookup, hkept⟩ := Option.filter_eq_some_iff.1 hfilter
    -- The request has not been given up, so that its ID is not remembered.
    rw [Bool.not_eq_true'] at hkept
    refine (hcompleted requestKey fun pending heq => ?_).trans
      (lookup_expireCompleted_eq_none (h.disjoint requestKey pending' hlookup))
    rw [← Option.some.inj (hlookup.symm.trans heq)]
    exact hkept
  -- Of each key, the call logs what it does to its pending request.
  · dsimp only
    rw [ofKey_append, RequestManager.ofKey_poll h.keyed, hpending, Map.lookup_mapValues,
      Map.lookup_filterEntries]
    have hlives := h.lives requestKey
    cases hlookup : history.manager.pending.lookup requestKey with
    | none =>
      rw [hlookup] at hlives
      rw [Option.bind_none, Option.map_none, Option.toList_none, List.append_nil]
      exact hlives
    | some pending =>
      rw [hlookup] at hlives
      rw [Option.bind_some, Option.filter_some]
      cases hrepeats : RequestManager.repeats now pending with
      -- The request is sent once more.
      | true =>
        obtain ⟨hdeadline, hremaining⟩ := of_decide_eq_true hrepeats
        have hkept : RequestManager.givesUp now pending = false :=
          decide_eq_false fun hgives => hgives.2 hremaining
        unfold RequestManager.pollEvent
        rw [if_pos hrepeats, hkept, Bool.not_false, if_pos rfl, Option.map_some, Option.map_some]
        unfold RequestManager.polled
        rw [if_pos hrepeats, ← h.config_eq]
        rw [← h.config_eq] at hlives
        exact hlives.retried (not_lt.1 hdeadline) hremaining
      -- The request is given up with its last attempt, or is not due yet.
      | false =>
        unfold RequestManager.pollEvent
        rw [if_neg (by rw [hrepeats]; exact Bool.false_ne_true)]
        cases hgives : RequestManager.givesUp now pending with
        | true => exact hlives.ended nofun
        | false =>
          rw [if_neg Bool.false_ne_true, Option.map_none, Option.toList_none, List.append_nil,
            Bool.not_false, if_pos rfl, Option.map_some]
          unfold RequestManager.polled
          rw [if_neg (by rw [hrepeats]; exact Bool.false_ne_true)]
          exact hlives

/-- Every call keeps what holds of every run. -/
theorem Valid.call (h : Valid config history) (call : ℤ × RequestCall) :
    Valid config (history.call call) := by
  obtain ⟨now, call⟩ := call
  cases call with
  | submit request => exact h.submit now request
  | acceptResponse response => exact h.acceptResponse now response
  | poll => exact h.poll now
  | cancel sessionId requestId => exact h.cancel now sessionId requestId

/-- What holds of every run holds from the start. -/
theorem valid_create (timeout_pos : 0 < config.timeout)
    (duplicateWindow_pos : 0 < config.duplicateWindow) :
    Valid config ⟨.create config timeout_pos duplicateWindow_pos, []⟩ :=
  ⟨rfl, show (1 : UInt32) ≠ 0 by decide, nofun, fun _ => ⟨[], none, rfl, nofun, nofun, nofun, rfl⟩⟩

/-- The log of every run consists of such lives. -/
theorem Valid.run (h : Valid config history) (calls : List (ℤ × RequestCall)) :
    Valid config (history.run calls) := by
  induction calls generalizing history with
  | nil => exact h
  | cons call calls ih => exact ih (h.call call)

/-- In every run the log of every key is that of requests one after another. A request that is
submitted gets an ID that is not in use, a response that matches answers the pending request, and
no request is pending and over at once. -/
theorem request_lifecycle (timeout_pos : 0 < config.timeout)
    (duplicateWindow_pos : 0 < config.duplicateWindow) (calls : List (ℤ × RequestCall)) :
    let history := run ⟨.create config timeout_pos duplicateWindow_pos, []⟩ calls
    (∀ requestKey, ∃ requests : List RequestLife,
        ofKey history.log requestKey = requests.flatMap RequestLife.moments ∧
        (∀ life ∈ requests, life.Keeps config requestKey) ∧
        (∀ life ∈ requests.dropLast, life.ending.isSome)) ∧
      (∀ request now submission, (history.manager.submit request now).1 = .ok submission →
        submission.packet =
            { request with header := { request.header with requestId := submission.requestId } } ∧
          submission.requestId ≠ 0 ∧
          (history.manager.expireCompleted now).inUse request.header.sessionId
            submission.requestId = false) ∧
      (∀ response now, (history.manager.acceptResponse response now).1.status = .matched →
        ∃ pending, history.manager.pending.lookup
            (RequestManager.key response.header.sessionId response.header.requestId) =
              some pending ∧ Answers pending.packet response) ∧
      ∀ requestKey, history.manager.pending.lookup requestKey = none ∨
        history.manager.completed.lookup requestKey = none := by
  have h := (valid_create timeout_pos duplicateWindow_pos).run calls
  refine ⟨fun requestKey => ?_, fun request now submission hsubmit => ?_,
    fun response now hmatched => ?_, fun requestKey => ?_⟩
  -- The lives of a key are those that are over and the current one.
  · obtain ⟨past, current, hlog, hkeeps, hpast, -⟩ := h.lives requestKey
    refine ⟨past ++ current.toList, hlog, hkeeps, fun life hmem => ?_⟩
    cases current with
    | none =>
      rw [Option.toList_none, List.append_nil] at hmem
      exact hpast life (List.mem_of_mem_dropLast hmem)
    | some current =>
      rw [Option.toList_some, List.dropLast_concat] at hmem
      exact hpast life hmem
  -- The manager numbers the packet with an ID that is not in use.
  · have hspec := RequestManager.submit_spec
      (run ⟨.create config timeout_pos duplicateWindow_pos, []⟩ calls).manager request now
    rw [hsubmit] at hspec
    obtain ⟨hne, huse, -⟩ := RequestManager.submit_ok h.next_ne_zero hsubmit
    rw [hspec.1] at huse
    exact ⟨hspec.1, hne, huse⟩
  -- A match compares the key, the type, the command and the object.
  · rcases RequestManager.acceptResponse_cases
      (run ⟨.create config timeout_pos duplicateWindow_pos, []⟩ calls).manager response now with
      ⟨hstatus, -⟩ | ⟨found, hfound, htype, hcommand, hobject, -⟩
    · exact absurd hmatched hstatus
    · exact ⟨found, hfound,
        RequestManager.answers_of_objectMatches htype (h.keyed _ _ hfound) hcommand hobject⟩
  · cases hlookup : AList.lookup requestKey
      (run ⟨.create config timeout_pos duplicateWindow_pos, []⟩ calls).manager.pending with
    | none => exact .inl rfl
    | some pending => exact .inr (h.disjoint requestKey pending hlookup)

/-- A `PING` that is repeated once, and whose answer comes twice. -/
def repeatedPing : List (ℤ × RequestCall) :=
  let request : Packet := ⟨{ command := Command.ping, sessionId := 1 }, []⟩
  let response : Packet :=
    ⟨{ messageType := .response, command := Command.ping, sessionId := 1, requestId := 1 }, []⟩
  [(0, .submit request), (750000000, .poll), (800000000, .acceptResponse response),
    (900000000, .acceptResponse response)]

/-- The log of a request that is repeated once. -/
theorem request_lifecycle_repeated_ping :
    ∃ requests : List RequestLife,
      ofKey (run ⟨.create {} (by decide) (by decide), []⟩ repeatedPing).log
          (RequestManager.key 1 1) = requests.flatMap RequestLife.moments ∧
        (∀ life ∈ requests, life.Keeps {} (RequestManager.key 1 1)) ∧
        ∀ life ∈ requests.dropLast, life.ending.isSome :=
  (request_lifecycle (by decide) (by decide) repeatedPing).1 (RequestManager.key 1 1)

end RequestLog

end RemoteBSP.Toolbusd
