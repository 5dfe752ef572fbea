import RemoteBSP.Toolbusd.ErrorPath

/-!
# The slots of the clients

As long as no request is rejected or fails to be sent, and the request IDs do not run out, every
client that has submitted a request holds one slot of the tables, under a key of its own
(`Serves`): its request is pending, or there is a response to it from its node, or it has been given
up. Every step keeps that (`Routed.step`): no two clients get the same key, and what arrives for one
of them leaves the slots of the others alone.
-/

namespace RemoteBSP.Toolbusd

/-! ## Request IDs -/

namespace RequestManager

/-- The next ID is taken if it is not in use. -/
theorem allocateFrom_free {manager : RequestManager} {sessionId next : UInt32} (attempts : ℕ)
    (h : manager.inUse sessionId next = false) :
    manager.allocateFrom sessionId (attempts + 1) next =
      (some next, if next + 1 = 0 then 1 else next + 1) := by
  unfold allocateFrom
  dsimp only
  rw [h]
  rfl

/-- A request gets the next ID if that is not in use. -/
theorem submit_next (manager : RequestManager) (request : Packet) (now : ℤ)
    (htype : request.header.messageType = .request)
    (h : (manager.expireCompleted now).inUse request.header.sessionId manager.nextRequestId =
      false) :
    (∃ submission, (manager.submit request now).1 = .ok submission ∧
        submission.requestId = manager.nextRequestId) ∧
      (manager.submit request now).2.nextRequestId =
        if manager.nextRequestId + 1 = 0 then 1 else manager.nextRequestId + 1 := by
  have hallocate : (manager.expireCompleted now).allocateFrom request.header.sessionId 4294967295
      (manager.expireCompleted now).nextRequestId = (some manager.nextRequestId,
        if manager.nextRequestId + 1 = 0 then 1 else manager.nextRequestId + 1) :=
    allocateFrom_free 4294967294 h
  unfold submit allocateRequestId
  dsimp only
  rw [if_neg (not_not.2 htype), hallocate]
  exact ⟨⟨_, rfl, rfl⟩, rfl⟩

/-- A request that is repeated may be repeated less often then. -/
theorem polled_cases (manager : RequestManager) (now : ℤ) (pending : Pending) :
    manager.polled now pending = pending ∨
      (manager.polled now pending).retriesRemaining < pending.retriesRemaining := by
  unfold polled
  split
  · next hrepeats =>
    have hremaining := (of_decide_eq_true hrepeats).2
    exact .inr (Nat.sub_lt hremaining Nat.one_pos)
  · exact .inl rfl

end RequestManager

namespace Daemon

/-- The two exceptions by which a request is refused. -/
def Refusal (exception : DaemonError) : Prop :=
  exception = .invalidArgument "本地客户端只能提交请求消息" ∨
    exception = .runtimeError "目标节点尚未发现或已经离线"

/-- What `handle_client` submits: a request indeed, for a node that is online and has been assigned
its ID. -/
def Submits (daemon : Daemon) (nodeId : UInt32) (request : Packet) : Prop :=
  request.header.messageType = .request ∧
    ∃ node, daemon.nodes.findByNodeId nodeId = some node ∧ node.online = true ∧
      node.assigned = true

/-- A request that is submitted gets the next ID, if that is not in use. Any other packet is
refused. -/
theorem submitRequest_next (daemon : Daemon) (nodeId : UInt32) (request : Packet) (now : ℤ)
    (h : (daemon.requests.expireCompleted now).inUse daemon.sessionId
      daemon.requests.nextRequestId = false) :
    (¬ daemon.Submits nodeId request ∧
        ∃ exception, daemon.submitRequest nodeId request now = (.error exception, daemon) ∧
          Refusal exception) ∨
      daemon.Submits nodeId request ∧ ∃ submission,
        (daemon.submitRequest nodeId request now).1 = .ok submission ∧
        submission.requestId = daemon.requests.nextRequestId ∧
        (daemon.submitRequest nodeId request now).2.requests.nextRequestId =
          if daemon.requests.nextRequestId + 1 = 0 then 1
          else daemon.requests.nextRequestId + 1 := by
  unfold submitRequest Submits
  split
  -- A packet that is no request, or for a node that is away, is refused.
  · next htype => exact .inl ⟨fun hsubmits => htype hsubmits.1, _, rfl, .inl rfl⟩
  · next htype =>
    dsimp only
    cases daemon.nodes.findByNodeId nodeId with
    | none =>
      refine .inl ⟨?_, _, rfl, .inr rfl⟩
      rintro ⟨-, node, hnode, -⟩
      cases hnode
    | some node =>
      dsimp only
      split
      · next haway =>
        refine .inl ⟨?_, _, rfl, .inr rfl⟩
        rintro ⟨-, node', hnode, honline, hassigned⟩
        rw [Option.some.inj hnode, honline, hassigned] at haway
        simp at haway
      -- The node is there, and the manager takes the next ID.
      · next hthere =>
        rw [not_or, Bool.not_eq_true', Bool.not_eq_true', Bool.not_eq_false, Bool.not_eq_false]
          at hthere
        obtain ⟨⟨submission, hok, hid⟩, hnext⟩ := daemon.requests.submit_next
          { request with header := { request.header with sessionId := daemon.sessionId } } now
          (not_not.1 htype) h
        cases hresult : daemon.requests.submit
            { request with
              header := { request.header with sessionId := daemon.sessionId } } now with
        | mk result requests =>
          rw [hresult] at hok hnext
          dsimp only at hok hnext
          subst hok
          exact .inr ⟨⟨not_not.1 htype, node, rfl, hthere⟩, submission, rfl, hid, hnext⟩

/-! ## Slots -/

variable {daemon daemon' : Daemon} {requestKey : UInt64}

/-- A request is pending, and has been sent to a target. -/
structure Outstanding (daemon : Daemon) (requestKey : UInt64) (pending : Pending)
    (target : UInt32) : Prop where
  /-- The manager still tries to have the request answered. -/
  pending : daemon.requests.pending.lookup requestKey = some pending
  /-- It has been sent to the target. -/
  requestCanIds : daemon.requestCanIds.lookup requestKey = some target
  /-- No response waits to be fetched. -/
  responses : daemon.responses.lookup requestKey = none
  /-- It has not been given up. -/
  timedOut : requestKey ∉ daemon.timedOut

/-- There is a response to a request. -/
structure Replied (daemon : Daemon) (requestKey : UInt64) (response : Packet) : Prop where
  /-- The manager has finished with the request. -/
  pending : daemon.requests.pending.lookup requestKey = none
  /-- The response waits to be fetched by the client. -/
  responses : daemon.responses.lookup requestKey = some response
  /-- The request has not been given up. -/
  timedOut : requestKey ∉ daemon.timedOut

/-- A request has been given up. -/
structure GivenUp (daemon : Daemon) (requestKey : UInt64) : Prop where
  /-- The manager has finished with the request. -/
  pending : daemon.requests.pending.lookup requestKey = none
  /-- Where it has been sent to is forgotten. -/
  requestCanIds : daemon.requestCanIds.lookup requestKey = none
  /-- No response waits, for none has come in time. -/
  responses : daemon.responses.lookup requestKey = none
  /-- The request stands among those that have timed out. -/
  timedOut : requestKey ∈ daemon.timedOut

/-- What the tables hold for a client that has not been answered. -/
inductive Serves (daemon : Daemon) (heard : List (UInt32 × Packet)) (nodeId : UInt32)
    (submission : Submission) : Prop
  /-- The request is pending with the packet of the client. -/
  | outstanding (pending : Pending) (hpacket : pending.packet = submission.packet)
    (h : daemon.Outstanding submission.key pending (kNodeRequestBaseCanId + nodeId))
  /-- There is a response to it from its node. -/
  | replied (response : Packet) (hheard : (kNodeResponseBaseCanId + nodeId, response) ∈ heard)
    (hanswers : Answers submission.packet response) (h : daemon.Replied submission.key response)
  /-- The request has timed out, and its client is still to be told. -/
  | givenUp (h : daemon.GivenUp submission.key)

/-- A client is served on if the tables have the same entries for its key. -/
theorem Serves.of_same {heard heard' : List (UInt32 × Packet)} {nodeId : UInt32}
    {submission : Submission} (h : daemon.Serves heard nodeId submission)
    (hpending : daemon'.requests.pending.lookup submission.key =
      daemon.requests.pending.lookup submission.key)
    (hcanIds : daemon'.requestCanIds.lookup submission.key =
      daemon.requestCanIds.lookup submission.key)
    (hresponses : daemon'.responses.lookup submission.key =
      daemon.responses.lookup submission.key)
    (htimedOut : submission.key ∈ daemon'.timedOut ↔ submission.key ∈ daemon.timedOut)
    (hheard : ∀ packet ∈ heard, packet ∈ heard') : daemon'.Serves heard' nodeId submission := by
  cases h with
  | outstanding pending hpacket h =>
    exact .outstanding pending hpacket ⟨hpending.trans h.pending, hcanIds.trans h.requestCanIds,
      hresponses.trans h.responses, fun hmem => h.timedOut (htimedOut.1 hmem)⟩
  | replied response hmem hanswers h =>
    exact .replied response (hheard _ hmem) hanswers ⟨hpending.trans h.pending,
      hresponses.trans h.responses, fun hmem => h.timedOut (htimedOut.1 hmem)⟩
  | givenUp h =>
    exact .givenUp ⟨hpending.trans h.pending, hcanIds.trans h.requestCanIds,
      hresponses.trans h.responses, htimedOut.2 h.timedOut⟩

/-- A section that leaves the tables alone serves the same clients. -/
theorem Serves.keeps {heard : List (UInt32 × Packet)} {nodeId : UInt32} {submission : Submission}
    (h : daemon.Serves heard nodeId submission) (hkeeps : KeepsTables daemon daemon')
    (more : List (UInt32 × Packet)) : daemon'.Serves (heard ++ more) nodeId submission :=
  h.of_same (by rw [hkeeps.pending]) (by rw [hkeeps.requestCanIds]) (by rw [hkeeps.responses])
    (by rw [hkeeps.timedOut]) fun _ => List.mem_append_left _

/-- A response serves its own client, and every other one is served as before. -/
theorem Serves.replies {heard : List (UInt32 × Packet)} {nodeId : UInt32} {submission : Submission}
    (h : daemon.Serves heard nodeId submission) {identifier : UInt32} {response : Packet}
    (hreplies : Replies daemon daemon' identifier response)
    (hkey : keyOf submission.packet = submission.key) :
    daemon'.Serves (heard ++ [(identifier, response)]) nodeId submission := by
  obtain ⟨found, hfound, htype, hcommand, hobject⟩ := hreplies.found
  by_cases hsame : submission.key = keyOf response
  · cases h with
    | outstanding pending hpacket h =>
      -- The request has been sent to the node from which the response comes.
      have htarget := hreplies.target
      rw [← hsame, h.requestCanIds] at htarget
      have hnode : nodeId = identifier - kNodeResponseBaseCanId :=
        (UInt32.add_right_inj _).1 (Option.some.inj htarget)
      have hidentifier : kNodeResponseBaseCanId + nodeId = identifier := by
        rw [hnode, UInt32.add_comm, UInt32.sub_add_cancel]
      rw [← hsame, h.pending] at hfound
      rw [← Option.some.inj hfound, hpacket] at hcommand hobject
      refine .replied response ?_ ?_ ⟨?_, ?_, hreplies.timedOut ▸ h.timedOut⟩
      · rw [hidentifier]
        exact List.mem_append_right _ (List.mem_singleton_self _)
      · exact RequestManager.answers_of_objectMatches htype (hkey.trans hsame) hcommand hobject
      · rw [hreplies.pending, Map.lookup_erase_ite, if_pos hsame]
      · rw [hreplies.responses, Map.lookup_insert_ite, if_pos hsame]
    | replied response' hheard hanswers h =>
      rw [← hsame, h.pending] at hfound
      cases hfound
    | givenUp h =>
      rw [← hsame, h.pending] at hfound
      cases hfound
  · refine h.of_same ?_ (by rw [hreplies.requestCanIds]) ?_ (by rw [hreplies.timedOut])
      fun _ => List.mem_append_left _
    · rw [hreplies.pending, Map.lookup_erase_ite, if_neg hsame]
    · rw [hreplies.responses, Map.lookup_insert_ite, if_neg hsame]

/-- The timers repeat the request of a client or give it up, and serve the client on. -/
theorem Serves.polls {heard : List (UInt32 × Packet)} {nodeId : UInt32} {submission : Submission}
    (h : daemon.Serves heard nodeId submission) {retries : List (Packet × UInt32)} {now : ℤ}
    (hpolls : Polls daemon daemon' retries now) : daemon'.Serves heard nodeId submission := by
  -- A key under which nothing is pending is none that the timers touch.
  have hnone : daemon.requests.pending.lookup submission.key = none →
      daemon'.requests.pending.lookup submission.key = none ∧
        daemon'.requestCanIds.lookup submission.key =
          daemon.requestCanIds.lookup submission.key ∧
        (submission.key ∈ daemon'.timedOut ↔ submission.key ∈ daemon.timedOut) := by
    intro hnone
    have hkept : ¬ ∃ pending, daemon.requests.pending.lookup submission.key = some pending ∧
        RequestManager.givesUp now pending = true := by
      rintro ⟨pending, hlookup, -⟩
      rw [hnone] at hlookup
      cases hlookup
    refine ⟨?_, ?_, ?_⟩
    · rw [hpolls.pending, hnone]
      rfl
    · rw [hpolls.requestCanIds, if_neg hkept]
    · rw [hpolls.timedOut, or_iff_left hkept]
  cases h with
  | outstanding pending hpacket h =>
    -- A pending request is given up with its last attempt, and otherwise stays pending.
    cases hgives : RequestManager.givesUp now pending with
    | true =>
      have hgiven : ∃ pending, daemon.requests.pending.lookup submission.key = some pending ∧
        RequestManager.givesUp now pending = true := ⟨pending, h.pending, hgives⟩
      refine .givenUp ⟨?_, ?_, hpolls.responses ▸ h.responses,
        (hpolls.timedOut _).2 (.inr hgiven)⟩
      · rw [hpolls.pending, h.pending, Option.filter_some, hgives]
        rfl
      · rw [hpolls.requestCanIds, if_pos hgiven]
    | false =>
      have hkept : ¬ ∃ pending, daemon.requests.pending.lookup submission.key = some pending ∧
          RequestManager.givesUp now pending = true := by
        rintro ⟨pending', hlookup, hgives'⟩
        rw [h.pending] at hlookup
        rw [← Option.some.inj hlookup, hgives] at hgives'
        cases hgives'
      refine .outstanding (daemon.requests.polled now pending)
        ((RequestManager.packet_polled _ _ _).trans hpacket)
        ⟨?_, ?_, hpolls.responses ▸ h.responses, fun hmem => ?_⟩
      · rw [hpolls.pending, h.pending, Option.filter_some, hgives]
        rfl
      · rw [hpolls.requestCanIds, if_neg hkept]
        exact h.requestCanIds
      · rcases (hpolls.timedOut _).1 hmem with hold | hnew
        · exact h.timedOut hold
        · exact hkept hnew
  | replied response hheard hanswers hreplied =>
    -- A request that is not pending any more keeps its response or its place among the timeouts.
    obtain ⟨hpending, hcanIds, htimedOut⟩ := hnone hreplied.pending
    exact (Serves.replied response hheard hanswers hreplied).of_same
      (hpending.trans hreplied.pending.symm) hcanIds (by rw [hpolls.responses]) htimedOut
      fun _ => id
  | givenUp hgiven =>
    obtain ⟨hpending, hcanIds, htimedOut⟩ := hnone hgiven.pending
    exact (Serves.givenUp hgiven).of_same (hpending.trans hgiven.pending.symm) hcanIds
      (by rw [hpolls.responses]) htimedOut fun _ => id

/-- Where a client is that has submitted a request: it is served, or it has been answered. -/
inductive Stands (daemon : Daemon) (heard : List (UInt32 × Packet)) (nodeId : UInt32)
    (submission : Submission) : ClientPhase → Prop
  /-- The request is to be sent. -/
  | sending (h : daemon.Serves heard nodeId submission) :
      Stands daemon heard nodeId submission .sending
  /-- The client has submitted a request and waits for its end. -/
  | waiting (h : daemon.Serves heard nodeId submission) :
      Stands daemon heard nodeId submission .waiting
  /-- The client knows that there is no response. -/
  | timedOut : Stands daemon heard nodeId submission (.answered .timedOut)
  /-- The client has got a response from its node. -/
  | replied (response : Packet) (hheard : (kNodeResponseBaseCanId + nodeId, response) ∈ heard)
      (hanswers : Answers submission.packet response) :
      Stands daemon heard nodeId submission (.answered (.ok response))

/-- A client stands where it did if it is served on. -/
theorem Stands.serve {heard heard' : List (UInt32 × Packet)} {nodeId : UInt32}
    {submission : Submission} {phase : ClientPhase}
    (h : daemon.Stands heard nodeId submission phase)
    (hserves : daemon.Serves heard nodeId submission → daemon'.Serves heard' nodeId submission)
    (hheard : ∀ packet ∈ heard, packet ∈ heard') :
    daemon'.Stands heard' nodeId submission phase := by
  cases h with
  | sending hserved => exact .sending (hserves hserved)
  | waiting hserved => exact .waiting (hserves hserved)
  | timedOut => exact .timedOut
  | replied response hmem hanswers => exact .replied response (hheard _ hmem) hanswers

end Daemon

namespace Host

/-! ## Runs -/

/-- How many requests have been submitted. -/
def submitted (host : Host) : ℕ := host.clients.countP (·.submission.isSome)

/-- The step of a client that sends its request is not one in which that fails, or is rejected. -/
def succeeds (host : Host) : HostOp → Bool
  | .client index outcome =>
    match host.clients[index]? with
    | some ⟨nodeId, some submission, .sending⟩ =>
      (sendRequest host.daemon nodeId submission outcome).1 = .waiting
    | _ => true
  | _ => true

/-- What holds in every run in which the requests are sent. -/
structure Routed (host : Host) : Prop where
  /-- The key of a request is that of its packet. -/
  keyed : ∀ client ∈ host.clients, ∀ submission ∈ client.submission,
    Daemon.keyOf submission.packet = submission.key ∧
      submission.packet.header.sessionId = host.daemon.sessionId
  /-- The request IDs are given out in order. -/
  used : ∀ client ∈ host.clients, ∀ submission ∈ client.submission,
    submission.requestId.toNat < host.daemon.requests.nextRequestId.toNat
  /-- The next request ID is the number of the request. -/
  next : host.daemon.requests.nextRequestId.toNat = host.submitted + 1
  /-- No two requests have the same key. -/
  distinct : host.clients.Pairwise fun a b => ∀ submission ∈ a.submission,
    ∀ submission' ∈ b.submission, submission.key ≠ submission'.key
  /-- The tables have entries for the clients only that have not been answered. -/
  free : ∀ requestKey, (∀ client ∈ host.clients, ∀ submission ∈ client.submission,
    submission.key = requestKey → ∃ answer, client.phase = .answered answer) →
      host.daemon.Free requestKey
  /-- No ID is remembered that has not been given out. -/
  unused : ∀ requestKey, (∀ client ∈ host.clients, ∀ submission ∈ client.submission,
    submission.key ≠ requestKey) → host.daemon.requests.completed.lookup requestKey = none
  /-- A client whose request has not been submitted has been answered. -/
  refused : ∀ client ∈ host.clients, client.submission = none →
    ∃ exception, client.phase = .answered (.error exception) ∧ Daemon.Refusal exception
  /-- The others are served, or have been answered. -/
  stands : ∀ client ∈ host.clients, ∀ submission ∈ client.submission,
    host.daemon.Stands host.heard client.nodeId submission client.phase

variable {host : Host}

/-- Nothing has happened at the start. -/
theorem routed_start (mode : CanMode) (sessionId : UInt32) (hsession : sessionId ≠ 0) :
    (start mode sessionId hsession).Routed :=
  ⟨nofun, nofun, rfl, .nil, fun _ _ => ⟨rfl, rfl, rfl, Finset.notMem_empty _⟩, fun _ _ => rfl,
    nofun, nofun⟩

/-- An entry of the tables is that of a client that is served. -/
theorem Routed.owner (h : host.Routed) {requestKey : UInt64}
    (hne : ¬ host.daemon.Free requestKey) :
    ∃ client ∈ host.clients, ∃ submission ∈ client.submission, submission.key = requestKey ∧
      host.daemon.Serves host.heard client.nodeId submission := by
  by_contra hnone
  refine hne (h.free requestKey fun client hclient submission hsubmission hkey => ?_)
  have hstands := h.stands client hclient submission hsubmission
  generalize hphase : client.phase = phase at hstands
  cases hstands with
  | sending hserves | waiting hserves =>
    exact absurd ⟨client, hclient, submission, hsubmission, hkey, hserves⟩ hnone
  | timedOut => exact ⟨_, rfl⟩
  | replied response hheard hanswers => exact ⟨_, rfl⟩

/-- A pending request stands under the key of its own packet. -/
theorem Routed.pending_keyed (h : host.Routed) (requestKey : UInt64) (pending : Pending)
    (hlookup : host.daemon.requests.pending.lookup requestKey = some pending) :
    Daemon.keyOf pending.packet = requestKey := by
  have hne : ¬ host.daemon.Free requestKey := fun hfree =>
    absurd (hfree.pending.symm.trans hlookup) nofun
  obtain ⟨client, hclient, submission, hsubmission, rfl, hserves⟩ := h.owner hne
  cases hserves with
  | outstanding pending' hpacket hopen =>
    rw [← Option.some.inj (hopen.pending.symm.trans hlookup), hpacket]
    exact (h.keyed client hclient submission hsubmission).1
  | replied response hheard hanswers hreplied =>
    exact absurd (hreplied.pending.symm.trans hlookup) nofun
  | givenUp hgiven => exact absurd (hgiven.pending.symm.trans hlookup) nofun

/-- The daemon does something that changes no client, and serves all of them on. -/
theorem Routed.daemon (h : host.Routed) {daemon : Daemon} {retries : List (Packet × UInt32)}
    {heard : List (UInt32 × Packet)}
    (hsession : daemon.sessionId = host.daemon.sessionId)
    (hnext : daemon.requests.nextRequestId = host.daemon.requests.nextRequestId)
    (hfree : ∀ requestKey, host.daemon.Free requestKey → daemon.Free requestKey ∧
      (host.daemon.requests.completed.lookup requestKey = none →
        daemon.requests.completed.lookup requestKey = none))
    (hserves : ∀ client ∈ host.clients, ∀ submission ∈ client.submission,
      host.daemon.Serves host.heard client.nodeId submission →
        daemon.Serves heard client.nodeId submission)
    (hheard : ∀ packet ∈ host.heard, packet ∈ heard) :
    Routed ⟨daemon, host.clients, retries, heard⟩ where
  keyed client hclient submission hsubmission := by
    rw [hsession]
    exact h.keyed client hclient submission hsubmission
  used client hclient submission hsubmission := by
    rw [hnext]
    exact h.used client hclient submission hsubmission
  next := by
    rw [hnext]
    exact h.next
  distinct := h.distinct
  free requestKey hanswered := (hfree requestKey (h.free requestKey hanswered)).1
  unused requestKey hnone :=
    (hfree requestKey (h.free requestKey fun client hclient submission hsubmission hkey =>
      absurd hkey (hnone client hclient submission hsubmission))).2 (h.unused requestKey hnone)
  refused := h.refused
  stands client hclient submission hsubmission :=
    (h.stands client hclient submission hsubmission).serve
      (hserves client hclient submission hsubmission) hheard

/-- Clients stay routed when the daemon leaves its tables alone. -/
theorem Routed.keeps (h : host.Routed) {daemon : Daemon} (hkeeps : host.daemon.KeepsTables daemon)
    (retries : List (Packet × UInt32)) (more : List (UInt32 × Packet)) :
    Routed ⟨daemon, host.clients, retries, host.heard ++ more⟩ :=
  h.daemon hkeeps.sessionId hkeeps.nextRequestId
    (fun requestKey hfree => ⟨hfree.keeps hkeeps, hkeeps.completed requestKey⟩)
    (fun _ _ _ _ hserves => hserves.keeps hkeeps more) fun _ => List.mem_append_left _

/-- A request ID that is small enough does not wrap around. -/
theorem toNat_add_one {next : UInt32} {count : ℕ} (h : next.toNat = count + 1)
    (hleft : count + 1 < 2^32 - 1) : (next + 1).toNat = next.toNat + 1 := by
  rw [UInt32.toNat_add, UInt32.toNat_one]
  omega

/-- The next request ID is not in use. -/
theorem Routed.fresh (h : host.Routed) {client : Client} (hclient : client ∈ host.clients)
    {submission : Submission} (hsubmission : submission ∈ client.submission) :
    submission.key ≠
      RequestManager.key host.daemon.sessionId host.daemon.requests.nextRequestId := by
  intro hkey
  have hid := (RequestManager.key_inj.1 hkey).2
  have hlt := h.used client hclient submission hsubmission
  rw [hid] at hlt
  exact lt_irrefl _ hlt

/-- A client comes with a request that is refused. -/
theorem Routed.refuse (h : host.Routed) (nodeId : UInt32) {exception : DaemonError}
    (hrefusal : Daemon.Refusal exception) :
    Routed { host with
      clients := host.clients ++ [⟨nodeId, none, .answered (.error exception)⟩] } := by
  have hmem : ∀ client ∈ host.clients ++ [(⟨nodeId, none, .answered (.error exception)⟩ : Client)],
      ∀ submission ∈ client.submission, client ∈ host.clients := by
    intro client hclient submission hsubmission
    rcases List.mem_append.1 hclient with hold | hnew
    · exact hold
    · rw [List.mem_singleton.1 hnew] at hsubmission
      cases hsubmission
  refine ⟨fun client hclient submission hsubmission => ?_,
    fun client hclient submission hsubmission => ?_, ?_, ?_, fun requestKey hanswered => ?_,
    fun requestKey hnone => ?_, fun client hclient hsubmission => ?_,
    fun client hclient submission hsubmission => ?_⟩
  · exact h.keyed client (hmem client hclient submission hsubmission) submission hsubmission
  · exact h.used client (hmem client hclient submission hsubmission) submission hsubmission
  · show _ = List.countP _ _ + 1
    rw [List.countP_append]
    exact h.next
  · exact List.pairwise_append.2 ⟨h.distinct, List.pairwise_singleton _ _,
      fun a ha b hb submission hsubmission submission' hsubmission' => by
        rw [List.mem_singleton.1 hb] at hsubmission'
        cases hsubmission'⟩
  · exact h.free requestKey fun client hclient => hanswered client (List.mem_append_left _ hclient)
  · exact h.unused requestKey fun client hclient => hnone client (List.mem_append_left _ hclient)
  · rcases List.mem_append.1 hclient with hold | hnew
    · exact h.refused client hold hsubmission
    · rw [List.mem_singleton.1 hnew]
      exact ⟨exception, rfl, hrefusal⟩
  · exact h.stands client (hmem client hclient submission hsubmission) submission hsubmission

/-- A request enters the tables under the next ID, to be sent to a node. -/
structure Enters (daemon daemon' : Daemon) (nodeId : UInt32) (submission : Submission) : Prop where
  /-- The request has the session of the daemon. -/
  session : submission.packet.header.sessionId = daemon.sessionId
  /-- The packet carries the ID of the submission. -/
  packetId : submission.packet.header.requestId = submission.requestId
  /-- This is the ID that was the next one. -/
  id : submission.requestId = daemon.requests.nextRequestId
  /-- The request is pending now, besides those that were. -/
  pending : ∃ pending, pending.packet = submission.packet ∧
    daemon'.requests.pending = daemon.requests.pending.insert submission.key pending
  /-- It goes to the request identifier of the node. -/
  requestCanIds : daemon'.requestCanIds =
    daemon.requestCanIds.insert submission.key (kNodeRequestBaseCanId + nodeId)
  /-- No ID is remembered as over that was not. -/
  completed : ∀ requestKey, daemon.requests.completed.lookup requestKey = none →
    daemon'.requests.completed.lookup requestKey = none
  /-- The ID after it is the next one, where zero is left out. -/
  next : daemon'.requests.nextRequestId = if daemon.requests.nextRequestId + 1 = 0 then 1
    else daemon.requests.nextRequestId + 1
  /-- The responses that wait for their clients are not touched. -/
  responses : daemon'.responses = daemon.responses
  /-- The requests that have timed out are not touched. -/
  timedOut : daemon'.timedOut = daemon.timedOut
  /-- The daemon goes on in its own session. -/
  sessionId : daemon'.sessionId = daemon.sessionId

namespace Enters

variable {daemon daemon' : Daemon} {nodeId : UInt32} {submission : Submission}

/-- The key of the request has been that of the next ID. -/
theorem key (h : Enters daemon daemon' nodeId submission) : submission.key =
    RequestManager.key daemon.sessionId daemon.requests.nextRequestId := by
  unfold Submission.key
  rw [h.session, h.id]

/-- It is the key of the packet. -/
theorem keyOf_packet (h : Enters daemon daemon' nodeId submission) :
    Daemon.keyOf submission.packet = submission.key := by
  unfold Daemon.keyOf Submission.key
  rw [h.packetId]

/-- The other requests are pending as they were. -/
theorem lookup_pending (h : Enters daemon daemon' nodeId submission) {requestKey : UInt64}
    (hne : requestKey ≠ submission.key) : daemon'.requests.pending.lookup requestKey =
      daemon.requests.pending.lookup requestKey := by
  obtain ⟨pending, -, hpending⟩ := h.pending
  rw [hpending, Map.lookup_insert_ite, if_neg hne]

/-- They go where they have gone. -/
theorem lookup_requestCanIds (h : Enters daemon daemon' nodeId submission) {requestKey : UInt64}
    (hne : requestKey ≠ submission.key) :
    daemon'.requestCanIds.lookup requestKey = daemon.requestCanIds.lookup requestKey := by
  rw [h.requestCanIds, Map.lookup_insert_ite, if_neg hne]

/-- The tables get no entry for any other key. -/
theorem free (h : Enters daemon daemon' nodeId submission) {requestKey : UInt64}
    (hne : requestKey ≠ submission.key) (hfree : daemon.Free requestKey) :
    daemon'.Free requestKey where
  pending := (h.lookup_pending hne).trans hfree.pending
  requestCanIds := (h.lookup_requestCanIds hne).trans hfree.requestCanIds
  responses := h.responses ▸ hfree.responses
  timedOut := h.timedOut ▸ hfree.timedOut

/-- A client with another key is served on. -/
theorem others (h : Enters daemon daemon' nodeId submission) {other : Submission}
    (hne : other.key ≠ submission.key) {heard : List (UInt32 × Packet)} {nodeId' : UInt32}
    (hserves : daemon.Serves heard nodeId' other) : daemon'.Serves heard nodeId' other :=
  hserves.of_same (h.lookup_pending hne) (h.lookup_requestCanIds hne) (by rw [h.responses])
    (by rw [h.timedOut]) fun _ hmem => hmem

/-- The client itself is served, if the tables have had no entry for its key. -/
theorem serves (h : Enters daemon daemon' nodeId submission) (hfree : daemon.Free submission.key)
    (heard : List (UInt32 × Packet)) : daemon'.Serves heard nodeId submission := by
  obtain ⟨pending, hpacket, hpending⟩ := h.pending
  refine .outstanding pending hpacket
    ⟨?_, ?_, h.responses ▸ hfree.responses, h.timedOut ▸ hfree.timedOut⟩
  · rw [hpending, Map.lookup_insert_ite, if_pos rfl]
  · rw [h.requestCanIds, Map.lookup_insert_ite, if_pos rfl]

end Enters

/-- A client comes with a request that is submitted under the next ID. -/
theorem Routed.submit (h : host.Routed) {nodeId : UInt32} {submission : Submission}
    {daemon : Daemon} (henters : Enters host.daemon daemon nodeId submission)
    (hleft : host.submitted + 1 < 2^32 - 1) :
    Routed { host with
      daemon := daemon
      clients := host.clients ++ [⟨nodeId, some submission, .sending⟩] } := by
  -- The new key is that of no other client, and the tables have no entry for it.
  have hfresh : ∀ client ∈ host.clients, ∀ submission' ∈ client.submission,
      submission'.key ≠ submission.key := by
    intro client hclient submission' hsubmission'
    rw [henters.key]
    exact h.fresh hclient hsubmission'
  have hfree : host.daemon.Free submission.key :=
    h.free _ fun client hclient submission' hsubmission' heq =>
      absurd heq (hfresh client hclient submission' hsubmission')
  -- The IDs do not wrap around.
  have hnext : daemon.requests.nextRequestId.toNat =
      host.daemon.requests.nextRequestId.toNat + 1 := by
    have hadd := toNat_add_one h.next hleft
    have hne : host.daemon.requests.nextRequestId + 1 ≠ 0 := by
      intro hzero
      rw [hzero] at hadd
      exact absurd hadd (Nat.succ_ne_zero _).symm
    rw [henters.next, if_neg hne, hadd]
  have hcases : ∀ client ∈ host.clients ++ [(⟨nodeId, some submission, .sending⟩ : Client)],
      client ∈ host.clients ∨ client = ⟨nodeId, some submission, .sending⟩ := by
    intro client hclient
    rwa [List.mem_append, List.mem_singleton] at hclient
  refine ⟨fun client hclient submission' hsubmission' => ?_,
    fun client hclient submission' hsubmission' => ?_, ?_, ?_, fun requestKey hanswered => ?_,
    fun requestKey hnone => ?_, fun client hclient hnone => ?_,
    fun client hclient submission' hsubmission' => ?_⟩
  · -- The keys are those of the packets.
    show _ ∧ _ = daemon.sessionId
    rw [henters.sessionId]
    rcases hcases client hclient with hold | rfl
    · exact h.keyed client hold submission' hsubmission'
    · obtain rfl := Option.some.inj hsubmission'
      exact ⟨henters.keyOf_packet, henters.session⟩
  · -- The IDs lie below the next one.
    show submission'.requestId.toNat < daemon.requests.nextRequestId.toNat
    rw [hnext]
    rcases hcases client hclient with hold | rfl
    · exact (h.used client hold submission' hsubmission').trans (Nat.lt_succ_self _)
    · obtain rfl := Option.some.inj hsubmission'
      rw [henters.id]
      exact Nat.lt_succ_self _
  · show daemon.requests.nextRequestId.toNat = List.countP _ _ + 1
    rw [hnext, h.next, List.countP_append]
    rfl
  · -- The keys differ.
    refine List.pairwise_append.2 ⟨h.distinct, List.pairwise_singleton _ _,
      fun a ha b hb submission₁ hsubmission₁ submission₂ hsubmission₂ => ?_⟩
    rw [List.mem_singleton.1 hb] at hsubmission₂
    rw [← Option.some.inj hsubmission₂]
    exact hfresh a ha submission₁ hsubmission₁
  · -- The new client has not been answered, so that a key without a client is another one.
    have hne : requestKey ≠ submission.key := by
      rintro rfl
      obtain ⟨answer, hphase⟩ := hanswered _ (List.mem_append_right _ (List.mem_singleton_self _))
        submission rfl rfl
      cases hphase
    exact henters.free hne (h.free requestKey fun client hclient =>
      hanswered client (List.mem_append_left _ hclient))
  · exact henters.completed _ (h.unused requestKey fun client hclient =>
      hnone client (List.mem_append_left _ hclient))
  · rcases hcases client hclient with hold | rfl
    · exact h.refused client hold hnone
    · cases hnone
  · rcases hcases client hclient with hold | rfl
    · exact (h.stands client hold submission' hsubmission').serve
        (henters.others (hfresh client hold submission' hsubmission')) fun _ => id
    · obtain rfl := Option.some.inj hsubmission'
      exact .sending (henters.serves hfree host.heard)

/-- A client's request is refused, or submitted under the next ID. -/
theorem Routed.submitRequest_cases (h : host.Routed) (nodeId : UInt32) (request : Packet)
    (now : ℤ) :
    (¬ host.daemon.Submits nodeId request ∧
        ∃ exception, host.daemon.submitRequest nodeId request now =
          (.error exception, host.daemon) ∧ Daemon.Refusal exception) ∨
      host.daemon.Submits nodeId request ∧ ∃ submission daemon,
        host.daemon.submitRequest nodeId request now = (.ok submission, daemon) ∧
        Enters host.daemon daemon nodeId submission ∧
        submission.packet = { request with
          header := { request.header with
            sessionId := host.daemon.sessionId
            requestId := submission.requestId } } := by
  have hfresh : host.daemon.Free
      (RequestManager.key host.daemon.sessionId host.daemon.requests.nextRequestId) :=
    h.free _ fun client hclient submission hsubmission hkey =>
      absurd hkey (h.fresh hclient hsubmission)
  have huse : (host.daemon.requests.expireCompleted now).inUse host.daemon.sessionId
      host.daemon.requests.nextRequestId = false :=
    RequestManager.inUse_eq_false_iff.2 ⟨hfresh.pending, Daemon.completed_expireCompleted now
      (h.unused _ fun client hclient submission hsubmission => h.fresh hclient hsubmission)⟩
  have hne : host.daemon.requests.nextRequestId ≠ 0 := by
    intro hzero
    have hnext := h.next
    rw [hzero] at hnext
    exact absurd hnext (Nat.succ_ne_zero _).symm
  rcases host.daemon.submitRequest_next nodeId request now huse with
    hrefused | ⟨hsubmits, submission, hok, hid, hnext⟩
  · exact .inl hrefused
  · obtain ⟨hsession, hpacketId, hpacket, -, requests, -, hpending, hcompleted, -, hdaemon⟩ :=
      Daemon.submitRequest_ok hne hok
    rw [hdaemon] at hnext
    refine .inr ⟨hsubmits, submission, _, Prod.ext hok hdaemon,
      ⟨hsession, hpacketId, hid, ⟨_, ?_, hpending⟩, rfl, fun requestKey hnone => ?_, hnext, rfl,
        rfl, rfl⟩, hpacket⟩
    · rfl
    · show requests.completed.lookup requestKey = none
      rw [hcompleted]
      exact Daemon.completed_expireCompleted now hnone

/-- The client that comes has submitted its request, unless that is refused. -/
theorem Routed.clients_connect (h : host.Routed) (nodeId : UInt32) (request : Packet) (now : ℤ) :
    ∃ client, (host.connect nodeId request now).clients = host.clients ++ [client] ∧
      client.nodeId = nodeId ∧
      (client.submission = none ↔ ¬ host.daemon.Submits nodeId request) ∧
      ∀ submission ∈ client.submission, submission.packet = { request with
        header := { request.header with
          sessionId := host.daemon.sessionId
          requestId := submission.requestId } } := by
  unfold Host.connect
  rcases h.submitRequest_cases nodeId request now with ⟨hnot, exception, hrefused, -⟩ |
    ⟨hsubmits, submission, daemon, hresult, -, hpacket⟩
  · rw [hrefused]
    exact ⟨_, rfl, rfl, iff_of_true rfl hnot, nofun⟩
  · rw [hresult]
    refine ⟨_, rfl, rfl, iff_of_false (by simp) (not_not.2 hsubmits), fun submission' hmem => ?_⟩
    rw [← Option.some.inj hmem]
    exact hpacket

/-- A client comes, and there are still IDs. -/
theorem Routed.connect (h : host.Routed) (nodeId : UInt32) (request : Packet) (now : ℤ)
    (hleft : (host.connect nodeId request now).submitted < 2^32 - 1) :
    (host.connect nodeId request now).Routed := by
  unfold Host.connect at hleft ⊢
  rcases h.submitRequest_cases nodeId request now with ⟨-, exception, hrefused, hrefusal⟩ |
    ⟨-, submission, daemon, hresult, henters, -⟩
  · rw [hrefused]
    exact h.refuse nodeId hrefusal
  · rw [hresult] at hleft ⊢
    dsimp only at hleft ⊢
    have hcount : host.submitted + 1 < 2^32 - 1 := by
      have hsubmitted : (List.countP (·.submission.isSome)
        (host.clients ++ [(⟨nodeId, some submission, .sending⟩ : Client)])) < 2^32 - 1 := hleft
      rw [List.countP_append] at hsubmitted
      exact hsubmitted
    exact h.submit henters hcount

/-- The clients behind a step of one of them. -/
theorem mem_set_iff {clients : List Client} {index : ℕ} {client client' other : Client}
    (hclient : clients[index]? = some client) (hmem : other ∈ clients.set index client') :
    other = client' ∨ ∃ i, i ≠ index ∧ clients[i]? = some other := by
  obtain ⟨i, hi⟩ := List.mem_iff_getElem?.1 hmem
  by_cases heq : index = i
  · subst heq
    rw [List.getElem?_set_self (List.getElem?_eq_some_iff.1 hclient).1] at hi
    exact .inl (Option.some.inj hi).symm
  · rw [List.getElem?_set_ne heq] at hi
    exact .inr ⟨i, Ne.symm heq, hi⟩

/-- A client before a step of one of them is this one, or stands there behind the step. -/
theorem mem_set_of_mem {clients : List Client} {index : ℕ} {client other : Client}
    (hclient : clients[index]? = some client) (hmem : other ∈ clients) (client' : Client) :
    other = client ∨ other ∈ clients.set index client' := by
  obtain ⟨i, hi⟩ := List.mem_iff_getElem?.1 hmem
  by_cases heq : index = i
  · subst heq
    exact .inl (Option.some.inj (hi.symm.trans hclient))
  · exact .inr (List.mem_of_getElem? ((List.getElem?_set_ne heq).trans hi))

/-- The requests of the clients stay behind a step of a client that keeps its own. -/
theorem submissions_set {clients : List Client} {index : ℕ} {client client' : Client}
    (hclient : clients[index]? = some client)
    (hsubmission : client'.submission = client.submission) :
    (clients.set index client').map Client.submission = clients.map Client.submission := by
  obtain ⟨hlt, rfl⟩ := List.getElem?_eq_some_iff.1 hclient
  rw [List.map_set, hsubmission]
  have hself := List.set_getElem_self (show index < (clients.map Client.submission).length by
    rw [List.length_map]
    exact hlt)
  rw [List.getElem_map] at hself
  exact hself

/-- The requests of two clients never share a key. -/
theorem Routed.key_ne (h : host.Routed) {i j : ℕ} {a b : Client} (ha : host.clients[i]? = some a)
    (hb : host.clients[j]? = some b) (hne : i ≠ j) {s t : Submission} (hs : s ∈ a.submission)
    (ht : t ∈ b.submission) : s.key ≠ t.key := by
  obtain ⟨hi, rfl⟩ := List.getElem?_eq_some_iff.1 ha
  obtain ⟨hj, rfl⟩ := List.getElem?_eq_some_iff.1 hb
  rcases Nat.lt_or_gt_of_ne hne with hlt | hgt
  · exact List.pairwise_iff_getElem.1 h.distinct i j hi hj hlt s hs t ht
  · exact fun heq => List.pairwise_iff_getElem.1 h.distinct j i hj hi hgt t ht s hs heq.symm

/-- No table has an entry for a client that has been answered. -/
theorem Routed.free_of_answered (h : host.Routed) {index : ℕ} {nodeId : UInt32}
    {submission : Submission} {answer : Answer}
    (hclient : host.clients[index]? = some ⟨nodeId, some submission, .answered answer⟩) :
    host.daemon.Free submission.key := by
  refine h.free submission.key fun client hmem submission' hsubmission' hkey => ?_
  obtain ⟨i, hi⟩ := List.mem_iff_getElem?.1 hmem
  by_cases heq : i = index
  · subst heq
    rw [← Option.some.inj (hclient.symm.trans hi)]
    exact ⟨answer, rfl⟩
  · exact absurd hkey (h.key_ne hi hclient heq hsubmission' rfl)

/-- A client takes a step that touches the entries of its own key only. -/
theorem Routed.set (h : host.Routed) {index : ℕ} {nodeId : UInt32} {submission : Submission}
    {phase phase' : ClientPhase} {daemon : Daemon}
    (hclient : host.clients[index]? = some ⟨nodeId, some submission, phase⟩)
    (hsession : daemon.sessionId = host.daemon.sessionId)
    (hrequests : daemon.requests = host.daemon.requests)
    (hothers : ∀ requestKey, requestKey ≠ submission.key →
      daemon.requestCanIds.lookup requestKey = host.daemon.requestCanIds.lookup requestKey ∧
        daemon.responses.lookup requestKey = host.daemon.responses.lookup requestKey ∧
        (requestKey ∈ daemon.timedOut ↔ requestKey ∈ host.daemon.timedOut))
    (hfree : ∀ answer, phase' = .answered answer → daemon.Free submission.key)
    (hstands : daemon.Stands host.heard nodeId submission phase') :
    Routed { host with
      daemon := daemon
      clients := host.clients.set index ⟨nodeId, some submission, phase'⟩ } := by
  have hlt := (List.getElem?_eq_some_iff.1 hclient).1
  have hmem : (⟨nodeId, some submission, phase⟩ : Client) ∈ host.clients :=
    List.mem_of_getElem? hclient
  have hnew : (⟨nodeId, some submission, phase'⟩ : Client) ∈
      host.clients.set index ⟨nodeId, some submission, phase'⟩ :=
    List.mem_of_getElem? (List.getElem?_set_self hlt)
  -- A client behind the step is this one, or has stood where it stands.
  have hcases : ∀ client ∈ host.clients.set index ⟨nodeId, some submission, phase'⟩,
      client = ⟨nodeId, some submission, phase'⟩ ∨
        client ∈ host.clients ∧ ∀ submission' ∈ client.submission,
          submission'.key ≠ submission.key := by
    intro client hclient'
    rcases mem_set_iff hclient hclient' with rfl | ⟨i, hne, hi⟩
    · exact .inl rfl
    · exact .inr ⟨List.mem_of_getElem? hi, fun submission' hsubmission' =>
        h.key_ne hi hclient hne hsubmission' rfl⟩
  have hkept : ∀ client ∈ host.clients, client = ⟨nodeId, some submission, phase⟩ ∨
      client ∈ host.clients.set index ⟨nodeId, some submission, phase'⟩ :=
    fun client hclient' => mem_set_of_mem hclient hclient' _
  -- The step changes no submission, so that the keys stay as they are.
  have hsame : (host.clients.set index ⟨nodeId, some submission, phase'⟩).map Client.submission =
      host.clients.map Client.submission := submissions_set hclient rfl
  refine ⟨fun client hclient' submission' hsubmission' => ?_,
    fun client hclient' submission' hsubmission' => ?_, ?_, ?_, fun requestKey hanswered => ?_,
    fun requestKey hnone => ?_, fun client hclient' hnone => ?_,
    fun client hclient' submission' hsubmission' => ?_⟩
  · dsimp only
    rw [hsession]
    rcases hcases client hclient' with rfl | ⟨hold, -⟩
    · exact h.keyed _ hmem submission' hsubmission'
    · exact h.keyed client hold submission' hsubmission'
  · dsimp only
    rw [hrequests]
    rcases hcases client hclient' with rfl | ⟨hold, -⟩
    · exact h.used _ hmem submission' hsubmission'
    · exact h.used client hold submission' hsubmission'
  · dsimp only
    rw [hrequests]
    have hcount : List.countP _ ((host.clients.set index _).map Client.submission) =
        List.countP _ (host.clients.map Client.submission) :=
      congrArg (List.countP Option.isSome) hsame
    rw [List.countP_map, List.countP_map] at hcount
    exact h.next.trans (congrArg Nat.succ hcount.symm)
  · have hdistinct : (host.clients.map Client.submission).Pairwise fun x y =>
        ∀ s ∈ x, ∀ t ∈ y, s.key ≠ t.key := List.pairwise_map.2 h.distinct
    rw [← hsame] at hdistinct
    exact List.pairwise_map.1 hdistinct
  -- A key that is answered now is that of this client, or was answered before.
  · by_cases hkey : requestKey = submission.key
    · obtain ⟨answer, hphase⟩ := hanswered _ hnew submission rfl hkey.symm
      rw [hkey]
      exact hfree answer hphase
    · have hold := h.free requestKey fun client hclient' submission' hsubmission' heq => by
        rcases hkept client hclient' with rfl | hkept
        · obtain rfl := Option.some.inj hsubmission'
          exact absurd heq.symm hkey
        · exact hanswered client hkept submission' hsubmission' heq
      obtain ⟨hcanIds, hresponses, htimedOut⟩ := hothers requestKey hkey
      exact ⟨hrequests ▸ hold.pending, hcanIds.trans hold.requestCanIds,
        hresponses.trans hold.responses, fun hmem => hold.timedOut (htimedOut.1 hmem)⟩
  · dsimp only
    rw [hrequests]
    refine h.unused requestKey fun client hclient' submission' hsubmission' => ?_
    rcases hkept client hclient' with rfl | hkept
    · exact hnone _ hnew submission' hsubmission'
    · exact hnone client hkept submission' hsubmission'
  · rcases hcases client hclient' with rfl | ⟨hold, -⟩
    · cases hnone
    · exact h.refused client hold hnone
  · rcases hcases client hclient' with rfl | ⟨hold, hne⟩
    · obtain rfl := Option.some.inj hsubmission'
      exact hstands
    · obtain ⟨hcanIds, hresponses, htimedOut⟩ :=
        hothers submission'.key (hne submission' hsubmission')
      refine (h.stands client hold submission' hsubmission').serve (fun hserves => ?_) fun _ => id
      exact hserves.of_same (by rw [hrequests]) hcanIds hresponses htimedOut fun _ => id

/-- A client takes a step in which its request is not rejected, and does not fail to be sent. -/
theorem Routed.clientStep (h : host.Routed) {index : ℕ} {outcome : SendOutcome}
    (hsucceeds : host.succeeds (.client index outcome) = true) :
    (host.clientStep index outcome).Routed := by
  unfold Host.clientStep
  unfold succeeds at hsucceeds
  cases hclient : host.clients[index]? with
  | none => exact h
  | some client =>
    obtain ⟨nodeId, submission, phase⟩ := client
    cases submission with
    | none => exact h
    | some submission =>
      dsimp only at hsucceeds ⊢
      rw [hclient] at hsucceeds
      have hstands := h.stands _ (List.mem_of_getElem? hclient) submission rfl
      dsimp only at hstands
      cases hstands with
      -- The request is sent, and the client waits for it.
      | sending hserves =>
        have hkeeps := host.daemon.keepsTables_sendRequest nodeId submission outcome
        have hphase : (advance host.daemon nodeId submission outcome .sending).1 = .waiting :=
          of_decide_eq_true hsucceeds
        have hsent := h.keeps hkeeps host.retries []
        rw [List.append_nil] at hsent
        rw [hphase]
        have hserved := hserves.keeps hkeeps []
        rw [List.append_nil] at hserved
        exact hsent.set hclient rfl rfl (fun _ _ => ⟨rfl, rfl, Iff.rfl⟩) nofun (.waiting hserved)
      | waiting hserves =>
        rcases advance_waiting host.daemon nodeId submission outcome with
          ⟨-, hadvance⟩ | ⟨response, hresponse, hadvance⟩ | ⟨hresponse, htimedOut, hadvance⟩
        -- Nothing has come for the client.
        · rw [hadvance]
          exact h.set hclient rfl rfl (fun _ _ => ⟨rfl, rfl, Iff.rfl⟩) nofun (.waiting hserves)
        -- The response is handed to the client, and its key is free again.
        · rw [hadvance]
          cases hserves with
          | outstanding pending hpacket hopen =>
            exact absurd (hopen.responses.symm.trans hresponse) nofun
          | givenUp hgiven => exact absurd (hgiven.responses.symm.trans hresponse) nofun
          | replied response' hheard hanswers hreplied =>
            obtain rfl := Option.some.inj (hreplied.responses.symm.trans hresponse)
            refine h.set hclient rfl rfl (fun requestKey hne => ?_) (fun _ _ => ?_)
              (.replied response' hheard hanswers)
            · exact ⟨(Map.lookup_erase_ite _ _ _).trans (if_neg hne),
                (Map.lookup_erase_ite _ _ _).trans (if_neg hne), Iff.rfl⟩
            · exact ⟨hreplied.pending, (Map.lookup_erase_ite _ _ _).trans (if_pos rfl),
                (Map.lookup_erase_ite _ _ _).trans (if_pos rfl), hreplied.timedOut⟩
        -- The client is told of the timeout, and its key is free again.
        · rw [hadvance]
          cases hserves with
          | outstanding pending hpacket hopen => exact absurd htimedOut hopen.timedOut
          | replied response' hheard hanswers hreplied => exact absurd htimedOut hreplied.timedOut
          | givenUp hgiven =>
            refine h.set hclient rfl rfl (fun requestKey hne => ⟨rfl, rfl, ?_⟩) (fun _ _ => ?_)
              .timedOut
            · exact (Finset.mem_erase).trans (and_iff_right hne)
            · exact ⟨hgiven.pending, hgiven.requestCanIds, hgiven.responses,
                Finset.notMem_erase _ _⟩
      -- A client with its answer takes no step any more.
      | timedOut =>
        exact h.set hclient rfl rfl (fun _ _ => ⟨rfl, rfl, Iff.rfl⟩)
          (fun _ _ => h.free_of_answered hclient) .timedOut
      | replied response hheard hanswers =>
        exact h.set hclient rfl rfl (fun _ _ => ⟨rfl, rfl, Iff.rfl⟩)
          (fun _ _ => h.free_of_answered hclient) (.replied response hheard hanswers)

/-- A step in which no request is rejected or fails to be sent. -/
theorem Routed.step (h : host.Routed) {op : HostOp} (hsucceeds : host.succeeds op = true)
    (hleft : (host.step op).1.submitted < 2^32 - 1) : (host.step op).1.Routed := by
  cases op with
  | connect nodeId request now => exact h.connect nodeId request now hleft
  | client index outcome => exact h.clientStep hsucceeds
  | discover =>
    unfold Host.step
    -- A discovery goes out, and the tables stay.
    dsimp only
    split
    · exact h
    · rw [control_eq]
      have hcontrol := Daemon.keepsTables_control host
        (host.daemon.sendDiscovery.1.map some, host.daemon.sendDiscovery.2)
      have hsent := h.keeps (host.daemon.keepsTables_sendDiscovery.trans hcontrol) host.retries []
      rw [List.append_nil] at hsent
      exact hsent
  | hear message now =>
    unfold Host.step
    dsimp only
    -- A message touches the tables only when it completes a request.
    split
    · exact h
    · rw [control_eq]
      have hcontrol := Daemon.keepsTables_control
        { host with heard := host.heard ++ completed host.daemon message now }
        (host.daemon.receive message now)
      rcases host.daemon.tables_receive message now with hkeeps | ⟨response, hcompleted, hreplies⟩
      · exact h.keeps (hkeeps.trans hcontrol) _ _
      · -- The key of the response is remembered, but it is that of a client.
        have hother : ∀ requestKey, host.daemon.Free requestKey →
            requestKey ≠ Daemon.keyOf response := by
          rintro requestKey hfree rfl
          exact absurd (hfree.requestCanIds.symm.trans hreplies.target) nofun
        rw [hcompleted] at hcontrol ⊢
        have hreplied : Routed ⟨(host.daemon.receive message now).2, host.clients, host.retries,
            host.heard ++ [(message.identifier, response)]⟩ := by
          refine h.daemon hreplies.sessionId hreplies.nextRequestId (fun requestKey hfree =>
            ⟨hfree.replies hreplies, hreplies.completed requestKey (hother requestKey hfree)⟩)
            (fun client hclient submission hsubmission hserves => ?_)
            fun _ => List.mem_append_left _
          exact hserves.replies hreplies (h.keyed client hclient submission hsubmission).1
        have hsent := hreplied.keeps hcontrol host.retries []
        rw [List.append_nil] at hsent
        exact hsent
  | timers now =>
    unfold Host.step
    dsimp only
    -- The timers touch the keys of pending requests only, and these are keys of clients.
    split
    · exact h
    · have hpolls := Daemon.polls_processRequestTimers h.pending_keyed now
      refine h.daemon hpolls.sessionId hpolls.nextRequestId
        (fun requestKey hfree => ⟨hfree.polls hpolls,
          hpolls.completed requestKey fun pending hlookup => ?_⟩)
        (fun _ _ _ _ hserves => hserves.polls hpolls) fun _ => id
      exact absurd (hfree.pending.symm.trans hlookup) nofun
  | resend failed =>
    -- Nor do retries, events and reads of a stream touch the tables.
    obtain ⟨hclients, hheard, -, -⟩ := host.resend_spec failed
    have hsent := h.keeps (Daemon.keepsTables_resend host failed) (host.resend failed).2.retries []
    rw [List.append_nil, ← hheard, ← hclients] at hsent
    exact hsent
  | nextEvent nodeId =>
    have htaken := h.keeps (host.daemon.keepsTables_nextEvent nodeId) host.retries []
    rw [List.append_nil] at htaken
    exact htaken
  | readUartStream nodeId objectId maximumLength =>
    have htaken := h.keeps (host.daemon.keepsTables_readUartStream nodeId objectId maximumLength)
      host.retries []
    rw [List.append_nil] at htaken
    exact htaken

end Host

end RemoteBSP.Toolbusd
