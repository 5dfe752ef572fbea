import RemoteBSP.Toolbusd.Clients

/-!
# The tables of the daemon

What each section of the daemon does to the tables by which the threads find each other: the pending
requests, where they have been sent to, the responses and the requests that have been given up. All
but six sections leave them alone (`KeepsTables`). A response takes a request from the pending ones
to the responses (`Replies`), and the timers take it to those that have been given up (`Polls`).
-/

namespace RemoteBSP.Toolbusd

namespace Daemon

/-- The tables are the same, but for the IDs of old requests that are forgotten. -/
structure KeepsTables (daemon daemon' : Daemon) : Prop where
  /-- The same requests are pending. -/
  pending : daemon'.requests.pending = daemon.requests.pending
  /-- No ID is remembered that was not. -/
  completed : ∀ requestKey, daemon.requests.completed.lookup requestKey = none →
    daemon'.requests.completed.lookup requestKey = none
  /-- The next request will be given the same ID. -/
  nextRequestId : daemon'.requests.nextRequestId = daemon.requests.nextRequestId
  /-- The request manager waits and repeats as before. -/
  config : daemon'.requests.config = daemon.requests.config
  /-- The pending requests have been sent to where they had been. -/
  requestCanIds : daemon'.requestCanIds = daemon.requestCanIds
  /-- The same responses wait for their clients. -/
  responses : daemon'.responses = daemon.responses
  /-- The same requests have been given up. -/
  timedOut : daemon'.timedOut = daemon.timedOut
  /-- The clients have the same session. -/
  sessionId : daemon'.sessionId = daemon.sessionId

/-- Where nothing changes, the tables are kept. -/
theorem KeepsTables.refl (daemon : Daemon) : KeepsTables daemon daemon :=
  ⟨rfl, fun _ h => h, rfl, rfl, rfl, rfl, rfl, rfl⟩

/-- What keeps the tables twice keeps them. -/
theorem KeepsTables.trans {daemon daemon' daemon'' : Daemon} (h : KeepsTables daemon daemon')
    (h' : KeepsTables daemon' daemon'') : KeepsTables daemon daemon'' where
  pending := h'.pending.trans h.pending
  completed requestKey hnone := h'.completed requestKey (h.completed requestKey hnone)
  nextRequestId := h'.nextRequestId.trans h.nextRequestId
  config := h'.config.trans h.config
  requestCanIds := h'.requestCanIds.trans h.requestCanIds
  responses := h'.responses.trans h.responses
  timedOut := h'.timedOut.trans h.timedOut
  sessionId := h'.sessionId.trans h.sessionId

/-- Sending a packet leaves the tables alone. -/
theorem keepsTables_sendPacket (daemon : Daemon) (packet : Packet) (canId : UInt32)
    (admitted : Bool) : KeepsTables daemon (daemon.sendPacket packet canId admitted).2 := by
  unfold sendPacket
  split
  · exact .refl daemon
  · split <;> exact ⟨rfl, fun _ h => h, rfl, rfl, rfl, rfl, rfl, rfl⟩

/-- Looking for nodes leaves the tables alone. -/
theorem keepsTables_sendDiscovery (daemon : Daemon) :
    KeepsTables daemon daemon.sendDiscovery.2 :=
  ⟨rfl, fun _ h => h, rfl, rfl, rfl, rfl, rfl, rfl⟩

/-- Taking an event leaves the tables alone. -/
theorem keepsTables_nextEvent (daemon : Daemon) (nodeId : UInt32) :
    KeepsTables daemon (daemon.nextEvent nodeId).2 := by
  unfold nextEvent
  split
  · exact ⟨rfl, fun _ h => h, rfl, rfl, rfl, rfl, rfl, rfl⟩
  · exact .refl daemon

/-- Taking bytes of a stream leaves the tables alone. -/
theorem keepsTables_readUartStream (daemon : Daemon) (nodeId objectId : UInt32)
    (maximumLength : ℕ) :
    KeepsTables daemon (daemon.readUartStream nodeId objectId maximumLength).2 := by
  unfold readUartStream
  dsimp only
  split
  · exact .refl daemon
  · split
    · exact .refl daemon
    · exact ⟨rfl, fun _ h => h, rfl, rfl, rfl, rfl, rfl, rfl⟩

/-- An assignment leaves the tables alone. -/
theorem keepsTables_assign (daemon : Daemon) (uuid : NodeUuid) (nodeId : UInt32) :
    KeepsTables daemon (daemon.assign uuid nodeId).2 := by
  unfold assign
  dsimp only
  split <;> exact ⟨rfl, fun _ h => h, rfl, rfl, rfl, rfl, rfl, rfl⟩

/-- An assignment behind a discovery leaves the tables alone. -/
theorem keepsTables_assignDiscovered (daemon : Daemon) (update : NodeUpdate) (uuid : NodeUuid) :
    KeepsTables daemon (daemon.assignDiscovered update uuid).2 := by
  unfold assignDiscovered
  split
  · split
    · exact .refl daemon
    · have hnext : KeepsTables daemon { daemon with nextNodeId := daemon.nextNodeId + 1 } :=
        ⟨rfl, fun _ h => h, rfl, rfl, rfl, rfl, rfl, rfl⟩
      exact hnext.trans (keepsTables_assign _ _ _)
  · split
    · exact .refl daemon
    · split
      · exact keepsTables_assign _ _ _
      · exact .refl daemon

/-- The IDs of old requests are forgotten. -/
theorem completed_expireCompleted {manager : RequestManager} {requestKey : UInt64} (now : ℤ)
    (h : manager.completed.lookup requestKey = none) :
    (manager.expireCompleted now).completed.lookup requestKey = none := by
  unfold RequestManager.expireCompleted
  rw [Map.lookup_filterEntries, h]
  rfl

/-! ## Responses -/

/-- The key of the request that a response is for. -/
def keyOf (packet : Packet) : UInt64 :=
  RequestManager.key packet.header.sessionId packet.header.requestId

/-- A response takes a pending request to the responses. -/
structure Replies (daemon daemon' : Daemon) (identifier : UInt32) (response : Packet) : Prop where
  /-- The request is pending, and the response matches it. -/
  found : ∃ found, daemon.requests.pending.lookup (keyOf response) = some found ∧
    response.header.messageType = .response ∧
    found.packet.header.command = response.header.command ∧
    RequestManager.objectMatches found.packet response = true
  /-- The request has been sent to the node from which the response comes. -/
  target : daemon.requestCanIds.lookup (keyOf response) =
    some (kNodeRequestBaseCanId + (identifier - kNodeResponseBaseCanId))
  /-- The request is not pending any more, and the others are. -/
  pending : daemon'.requests.pending = daemon.requests.pending.erase (keyOf response)
  /-- Its ID is remembered, and no other. -/
  completed : ∀ requestKey, requestKey ≠ keyOf response →
    daemon.requests.completed.lookup requestKey = none →
      daemon'.requests.completed.lookup requestKey = none
  /-- The next request will be given the same ID. -/
  nextRequestId : daemon'.requests.nextRequestId = daemon.requests.nextRequestId
  /-- The request manager waits and repeats as before. -/
  config : daemon'.requests.config = daemon.requests.config
  /-- The pending requests have been sent to where they had been. -/
  requestCanIds : daemon'.requestCanIds = daemon.requestCanIds
  /-- The response waits for its client, beside the others. -/
  responses : daemon'.responses = daemon.responses.insert (keyOf response) response
  /-- The same requests have been given up. -/
  timedOut : daemon'.timedOut = daemon.timedOut
  /-- The clients have the same session. -/
  sessionId : daemon'.sessionId = daemon.sessionId

/-- A response replies to a request, or leaves the tables alone. -/
theorem tables_handleResponse (daemon : Daemon) (identifier : UInt32) (packet : Packet) (now : ℤ) :
    KeepsTables daemon (daemon.handleResponse identifier packet now) ∨
      Replies daemon (daemon.handleResponse identifier packet now) identifier packet := by
  unfold handleResponse
  dsimp only
  split
  · exact .inl (.refl daemon)
  · split
    · exact .inl (.refl daemon)
    · next htarget =>
      rcases daemon.requests.acceptResponse_cases packet now with
        ⟨hstatus, -, hmanager⟩ | ⟨found, hfound, htype, hcommand, hobject, hresult, hmanager⟩
      · rw [hmanager]
        have hkeeps : KeepsTables daemon { daemon with
            requests := daemon.requests.expireCompleted now } :=
          ⟨rfl, fun _ => completed_expireCompleted now, rfl, rfl, rfl, rfl, rfl, rfl⟩
        split
        · next heq =>
          rw [heq] at hstatus
          exact absurd rfl hstatus
        · exact .inl hkeeps
      · rw [hresult, hmanager]
        refine .inr ⟨⟨found, hfound, htype, hcommand, hobject⟩, not_not.1 htarget, rfl,
          fun requestKey hne hnone => ?_, rfl, rfl, rfl, rfl, rfl, rfl⟩
        show (AList.insert (keyOf packet) _ _).lookup requestKey = none
        rw [Map.lookup_insert_ite, if_neg hne]
        exact completed_expireCompleted now hnone

/-- A packet replies to a request, or leaves the tables alone. -/
theorem tables_handlePacket (daemon : Daemon) (identifier : UInt32) (packet : Packet) (now : ℤ) :
    KeepsTables daemon (daemon.handlePacket identifier packet now).2 ∨
      Replies daemon (daemon.handlePacket identifier packet now).2 identifier packet := by
  unfold handlePacket
  split
  · left
    unfold handleDiscoveryResponse
    split
    · exact .refl daemon
    · next update nodes haccept =>
      split
      · exact ⟨rfl, fun _ h => h, rfl, rfl, rfl, rfl, rfl, rfl⟩
      · next identity hidentity =>
        dsimp only
        have hnodes : ∀ nodes, KeepsTables daemon { daemon with nodes := nodes } := fun _ =>
          ⟨rfl, fun _ h => h, rfl, rfl, rfl, rfl, rfl, rfl⟩
        exact (hnodes _).trans (keepsTables_assignDiscovered _ _ _)
  · split
    · left
      unfold handleHeartbeat
      split
      · exact .refl daemon
      · exact ⟨rfl, fun _ h => h, rfl, rfl, rfl, rfl, rfl, rfl⟩
    · split
      · left
        unfold handleEvent
        dsimp only
        split
        · exact .refl daemon
        · exact ⟨rfl, fun _ h => h, rfl, rfl, rfl, rfl, rfl, rfl⟩
      · exact daemon.tables_handleResponse identifier packet now

/-- A message replies to a request, or leaves the tables alone. -/
theorem tables_receive (daemon : Daemon) (message : CanMessage) (now : ℤ) :
    KeepsTables daemon (daemon.receive message now).2 ∨
      ∃ response, Host.completed daemon message now = [(message.identifier, response)] ∧
        Replies daemon (daemon.receive message now).2 message.identifier response := by
  unfold receive Host.completed
  by_cases hnode : (!message.extendedIdentifier) = true ∧ (fromResponses message.identifier ∨
      fromEvents message.identifier ∨ provisional message.identifier)
  · rw [if_pos hnode, if_pos hnode]
    unfold handleCanMessage arrived
    cases haccept : daemon.reassembler.accept message.identifier message.data now with
    | mk result reassembler =>
      have hopen : KeepsTables daemon { daemon with reassembler := reassembler } :=
        ⟨rfl, fun _ h => h, rfl, rfl, rfl, rfl, rfl, rfl⟩
      dsimp only
      split
      · exact .inl hopen
      · next bytes =>
        cases hdecode : decode bytes with
        | error exception => exact .inl hopen
        | ok packet =>
          dsimp only
          rcases tables_handlePacket { daemon with reassembler := reassembler } message.identifier
            packet now with hkeeps | hreplies
          · exact .inl (hopen.trans hkeeps)
          · refine .inr ⟨packet, ?_, hreplies.found, hreplies.target, hreplies.pending,
              hreplies.completed, hreplies.nextRequestId, hreplies.config, hreplies.requestCanIds,
              hreplies.responses, hreplies.timedOut, hreplies.sessionId⟩
            rw [hdecode]
            rfl
      · exact .inl hopen
  · rw [if_neg hnode]
    exact .inl (.refl daemon)

/-! ## Timers -/

/-- The timers repeat the requests that are due, and give up those that cannot be repeated. -/
structure Polls (daemon daemon' : Daemon) (retries : List (Packet × UInt32)) (now : ℤ) :
    Prop where
  /-- The requests that are given up are pending no more, and the others are, with later deadlines
  where they are repeated. -/
  pending : ∀ requestKey, daemon'.requests.pending.lookup requestKey =
    ((daemon.requests.pending.lookup requestKey).filter fun pending =>
      !RequestManager.givesUp now pending).map (daemon.requests.polled now)
  /-- The IDs of the requests that are given up are remembered, and no others. -/
  completed : ∀ requestKey, (∀ pending, daemon.requests.pending.lookup requestKey = some pending →
      RequestManager.givesUp now pending = false) →
    daemon.requests.completed.lookup requestKey = none →
      daemon'.requests.completed.lookup requestKey = none
  /-- The next request will be given the same ID. -/
  nextRequestId : daemon'.requests.nextRequestId = daemon.requests.nextRequestId
  /-- The request manager waits and repeats as before. -/
  config : daemon'.requests.config = daemon.requests.config
  /-- Where the other requests have been sent to. -/
  requestCanIds : ∀ requestKey, daemon'.requestCanIds.lookup requestKey =
    if ∃ pending, daemon.requests.pending.lookup requestKey = some pending ∧
        RequestManager.givesUp now pending = true then none
    else daemon.requestCanIds.lookup requestKey
  /-- The same responses wait for their clients. -/
  responses : daemon'.responses = daemon.responses
  /-- The requests that are given up join those that had been. -/
  timedOut : ∀ requestKey, requestKey ∈ daemon'.timedOut ↔ requestKey ∈ daemon.timedOut ∨
    ∃ pending, daemon.requests.pending.lookup requestKey = some pending ∧
      RequestManager.givesUp now pending = true
  /-- The clients have the same session. -/
  sessionId : daemon'.sessionId = daemon.sessionId
  /-- The requests that are sent again are pending. -/
  retries : ∀ retry ∈ retries, ∃ requestKey pending,
    daemon.requests.pending.lookup requestKey = some pending ∧ retry.1 = pending.packet

/-- Whether an event gives up the request of a key. -/
def givesUpKey (requestKey : UInt64) (event : RequestEvent) : Prop :=
  event.type = .timedOut ∧ RequestManager.key event.sessionId event.requestId = requestKey

/-- What the events do to the tables. -/
theorem tables_handleRequestEvents (events : List RequestEvent)
    (retries : List (Packet × UInt32) × Daemon) :
    (events.foldl handleRequestEvent retries).2.requests = retries.2.requests ∧
      (events.foldl handleRequestEvent retries).2.responses = retries.2.responses ∧
      (events.foldl handleRequestEvent retries).2.sessionId = retries.2.sessionId ∧
      (∀ requestKey, requestKey ∈ (events.foldl handleRequestEvent retries).2.timedOut ↔
        requestKey ∈ retries.2.timedOut ∨ ∃ event ∈ events, givesUpKey requestKey event) ∧
      ∀ requestKey, ((∃ event ∈ events, givesUpKey requestKey event) →
          (events.foldl handleRequestEvent retries).2.requestCanIds.lookup requestKey = none) ∧
        (¬ (∃ event ∈ events, givesUpKey requestKey event) →
          (events.foldl handleRequestEvent retries).2.requestCanIds.lookup requestKey =
            retries.2.requestCanIds.lookup requestKey) := by
  induction events generalizing retries with
  | nil => exact ⟨rfl, rfl, rfl, fun _ => by simp, fun _ => ⟨by simp, fun _ => rfl⟩⟩
  | cons event events ih =>
    rw [List.foldl_cons]
    obtain ⟨hrequests, hresponses, hsession, htimedOut, hcanIds⟩ :=
      ih (handleRequestEvent retries event)
    cases htype : event.type with
    -- A retry touches no table.
    | retry =>
      have hsame : (handleRequestEvent retries event).2 = retries.2 := by
        unfold handleRequestEvent
        rw [htype]
        cases event.packet with
        | none => rfl
        | some packet =>
          dsimp only
          split <;> rfl
      have hnot : ∀ requestKey, ¬ givesUpKey requestKey event := fun _ h =>
        absurd (htype.symm.trans h.1) nofun
      rw [hsame] at hrequests hresponses hsession htimedOut hcanIds
      refine ⟨hrequests, hresponses, hsession, fun requestKey => ?_, fun requestKey => ?_⟩
      · rw [htimedOut requestKey]
        simp only [List.mem_cons, exists_eq_or_imp, hnot requestKey, false_or]
      · simp only [List.mem_cons, exists_eq_or_imp, hnot requestKey, false_or]
        exact hcanIds requestKey
    -- A request that has timed out leaves its CAN ID, and is marked.
    | timedOut =>
      have hnext : (handleRequestEvent retries event).2 = { retries.2 with
          timedOut := insert (RequestManager.key event.sessionId event.requestId) retries.2.timedOut
          requestCanIds := retries.2.requestCanIds.erase
            (RequestManager.key event.sessionId event.requestId) } := by
        unfold handleRequestEvent
        rw [htype]
      have hgives : ∀ requestKey, givesUpKey requestKey event ↔
          RequestManager.key event.sessionId event.requestId = requestKey := fun _ =>
        ⟨And.right, fun h => ⟨htype, h⟩⟩
      rw [hnext] at hrequests hresponses hsession htimedOut hcanIds
      refine ⟨hrequests, hresponses, hsession, fun requestKey => ?_, fun requestKey => ?_⟩
      · rw [htimedOut requestKey, Finset.mem_insert]
        simp only [List.mem_cons, exists_eq_or_imp, hgives requestKey]
        tauto
      · simp only [List.mem_cons, exists_eq_or_imp, hgives requestKey]
        obtain ⟨herased, hkept⟩ := hcanIds requestKey
        dsimp only at hkept
        rw [Map.lookup_erase_ite] at hkept
        by_cases hkey : RequestManager.key event.sessionId event.requestId = requestKey
        · refine ⟨fun _ => ?_, fun hnone => absurd (.inl hkey) hnone⟩
          by_cases hlater : ∃ event ∈ events, givesUpKey requestKey event
          · exact herased hlater
          · rw [hkept hlater, if_pos hkey.symm]
        · rw [if_neg (Ne.symm hkey)] at hkept
          refine ⟨fun hsome => herased (hsome.resolve_left hkey), fun hnone => ?_⟩
          exact hkept fun hlater => hnone (.inr hlater)

/-- The events of `poll` that give up the request of a key. -/
theorem exists_givesUpKey_iff {manager : RequestManager}
    (hkeyed : ∀ requestKey pending, manager.pending.lookup requestKey = some pending →
      keyOf pending.packet = requestKey) (now : ℤ) (requestKey : UInt64) :
    (∃ event ∈ (manager.poll now).1, givesUpKey requestKey event) ↔
      ∃ pending, manager.pending.lookup requestKey = some pending ∧
        RequestManager.givesUp now pending = true := by
  -- An event that gives up a request is that of its own key.
  constructor
  · rintro ⟨event, hmem, htype, hkey⟩
    obtain ⟨⟨k, pending⟩, hentry, hevent⟩ := List.mem_filterMap.1 hmem
    have hlookup := (Map.mem_entries_iff manager.pending k pending).1 hentry
    unfold RequestManager.pollEvent at hevent
    split at hevent
    · rw [← Option.some.inj hevent] at htype
      cases htype
    · split at hevent
      · next hgives =>
        rw [← Option.some.inj hevent] at hkey
        have hsame : k = requestKey := by
          rw [← hkey, ← hkeyed k pending hlookup]
          unfold keyOf
          rw [RequestManager.toUInt32_key]
        exact ⟨pending, hsame ▸ hlookup, hgives⟩
      · cases hevent
  -- A request that is given up has its event.
  · rintro ⟨pending, hlookup, hgives⟩
    have hrepeats : RequestManager.repeats now pending = false := by
      refine decide_eq_false fun hrepeats => ?_
      exact (of_decide_eq_true hgives).2 hrepeats.2
    refine ⟨⟨.timedOut, (requestKey >>> 32).toUInt32, pending.packet.header.requestId, none⟩,
      List.mem_filterMap.2 ⟨⟨requestKey, pending⟩,
        (Map.mem_entries_iff manager.pending requestKey pending).2 hlookup, ?_⟩, rfl, ?_⟩
    · show RequestManager.pollEvent now requestKey pending = _
      unfold RequestManager.pollEvent
      rw [hrepeats, hgives]
      rfl
    · show RequestManager.key (requestKey >>> 32).toUInt32 pending.packet.header.requestId =
        requestKey
      rw [← hkeyed requestKey pending hlookup]
      unfold keyOf
      rw [RequestManager.toUInt32_key]

/-- The timers poll the request manager. -/
theorem polls_processRequestTimers {daemon : Daemon}
    (hkeyed : ∀ requestKey pending, daemon.requests.pending.lookup requestKey = some pending →
      keyOf pending.packet = requestKey) (now : ℤ) :
    Polls daemon (daemon.processRequestTimers now).2 (daemon.processRequestTimers now).1 now := by
  obtain ⟨hrequests, hresponses, hsession, htimedOut, hcanIds⟩ :=
    tables_handleRequestEvents (daemon.requests.poll now).1
      ([], { daemon with requests := (daemon.requests.poll now).2 })
  obtain ⟨hconfig, hnext, hcompleted⟩ := daemon.requests.poll_spec now
  have hmanager := daemon.requests_processRequestTimers now
  refine ⟨fun requestKey => ?_, fun requestKey hkept hnone => ?_, ?_, ?_, fun requestKey => ?_,
    hresponses, fun requestKey => ?_, hsession, fun retry hmem => retry_pending hmem⟩
  · rw [hmanager, RequestManager.pending_poll, Map.lookup_mapValues, Map.lookup_filterEntries]
    rfl
  · rw [hmanager, hcompleted requestKey hkept]
    exact completed_expireCompleted now hnone
  · rw [hmanager, hnext]
  · rw [hmanager, hconfig]
  · have hkeys := exists_givesUpKey_iff hkeyed now requestKey
    obtain ⟨herased, hkept⟩ := hcanIds requestKey
    rw [hkeys] at herased hkept
    split
    · next hgives => exact herased hgives
    · next hkeeps => exact hkept hkeeps
  · rw [← exists_givesUpKey_iff hkeyed now requestKey]
    exact htimedOut requestKey

/-! ## Clients -/

/-- A request that is refused changes no table, but that old IDs may be forgotten. -/
theorem submitRequest_error {daemon : Daemon} {nodeId : UInt32} {request : Packet} {now : ℤ}
    {exception : DaemonError} (hnext : daemon.requests.nextRequestId ≠ 0)
    (h : (daemon.submitRequest nodeId request now).1 = .error exception) :
    ∃ requests : RequestManager, requests.pending = daemon.requests.pending ∧
      requests.nextRequestId ≠ 0 ∧
      (∀ requestKey, daemon.requests.completed.lookup requestKey = none →
        requests.completed.lookup requestKey = none) ∧
      (daemon.submitRequest nodeId request now).2 = { daemon with requests := requests } := by
  unfold submitRequest at h ⊢
  split
  · exact ⟨daemon.requests, rfl, hnext, fun _ => id, rfl⟩
  · next htype =>
    rw [if_neg htype] at h
    dsimp only at h ⊢
    cases hnode : daemon.nodes.findByNodeId nodeId with
    | none => exact ⟨daemon.requests, rfl, hnext, fun _ => id, rfl⟩
    | some node =>
      rw [hnode] at h
      dsimp only at h ⊢
      split
      · exact ⟨daemon.requests, rfl, hnext, fun _ => id, rfl⟩
      · next honline =>
        rw [if_neg honline] at h
        cases hsubmit : daemon.requests.submit
            { request with
              header := { request.header with sessionId := daemon.sessionId } } now with
        | mk result requests =>
          rw [hsubmit] at h
          cases result with
          | ok submission => cases h
          -- Only the manager changes anything when it refuses, and it forgets old IDs.
          | error exception =>
            obtain ⟨next, hne, hmanager⟩ := RequestManager.submit_error hnext (by rw [hsubmit])
            rw [hsubmit] at hmanager
            obtain rfl : requests = { daemon.requests.expireCompleted now with
              nextRequestId := next } := hmanager
            refine ⟨_, ?_, ?_, ?_, rfl⟩
            · rfl
            · exact hne
            · exact fun _ => completed_expireCompleted now

/-- A request that is submitted is pending under a new key. -/
theorem submitRequest_ok {daemon : Daemon} {nodeId : UInt32} {request : Packet} {now : ℤ}
    {submission : Submission} (hnext : daemon.requests.nextRequestId ≠ 0)
    (h : (daemon.submitRequest nodeId request now).1 = .ok submission) :
    submission.packet.header.sessionId = daemon.sessionId ∧
      submission.packet.header.requestId = submission.requestId ∧
      submission.packet = { request with
        header := { request.header with
          sessionId := daemon.sessionId
          requestId := submission.requestId } } ∧
      (daemon.requests.expireCompleted now).inUse daemon.sessionId submission.requestId = false ∧
      ∃ requests : RequestManager, requests.nextRequestId ≠ 0 ∧
        requests.pending = daemon.requests.pending.insert submission.key
          ⟨submission.packet, now + daemon.requests.config.timeout,
            daemon.requests.config.maximumRetries⟩ ∧
        requests.completed = (daemon.requests.expireCompleted now).completed ∧
        requests.config = daemon.requests.config ∧
        (daemon.submitRequest nodeId request now).2 = { daemon with
          requests := requests
          requestCanIds :=
            daemon.requestCanIds.insert submission.key (kNodeRequestBaseCanId + nodeId) } := by
  unfold submitRequest at h ⊢
  -- Every refusal leaves by an error, so that each check has been passed.
  split at h
  · cases h
  · next htype =>
    rw [if_neg htype]
    dsimp only at h ⊢
    cases hnode : daemon.nodes.findByNodeId nodeId with
    | none =>
      rw [hnode] at h
      cases h
    | some node =>
      rw [hnode] at h
      dsimp only at h ⊢
      split at h
      · cases h
      · next honline =>
        rw [if_neg honline]
        cases hsubmit : daemon.requests.submit
            { request with
              header := { request.header with sessionId := daemon.sessionId } } now with
        | mk result requests =>
          rw [hsubmit] at h
          cases result with
          | error exception => cases h
          | ok submission' =>
            obtain rfl := Except.ok.inj h
            -- The manager has numbered the packet and put it under a fresh key.
            have hspec := daemon.requests.submit_spec
              { request with header := { request.header with sessionId := daemon.sessionId } } now
            rw [hsubmit] at hspec
            obtain ⟨hpacket, -⟩ := hspec
            obtain ⟨-, huse, hid, next, hne, hmanager⟩ :=
              RequestManager.submit_ok hnext (by rw [hsubmit])
            rw [hsubmit] at hmanager
            have hsession : submission'.packet.header.sessionId = daemon.sessionId := by
              rw [hpacket]
            rw [hsession] at huse
            obtain rfl : requests = { daemon.requests.expireCompleted now with
              nextRequestId := next
              pending := daemon.requests.pending.insert submission'.key
                ⟨submission'.packet, now + daemon.requests.config.timeout,
                  daemon.requests.config.maximumRetries⟩ } := hmanager
            refine ⟨hsession, hid, hpacket, huse, _, ?_, ?_, ?_, ?_, rfl⟩
            · exact hne
            · rfl
            · rfl
            · rfl

/-- Sending a client's request leaves the tables alone. -/
theorem keepsTables_sendRequest (daemon : Daemon) (nodeId : UInt32) (submission : Submission)
    (outcome : SendOutcome) :
    KeepsTables daemon (Host.sendRequest daemon nodeId submission outcome).2 := by
  have hsend := daemon.keepsTables_sendPacket submission.packet (kNodeRequestBaseCanId + nodeId)
    (outcome ≠ .rejected)
  unfold Host.sendRequest
  split
  · next heq =>
    rw [heq] at hsend
    exact hsend
  · next heq =>
    rw [heq] at hsend
    exact hsend
  · next heq =>
    rw [heq] at hsend
    split <;> exact hsend

/-- A request that is sent again leaves the tables alone. -/
theorem keepsTables_resend (host : Host) (failed : Bool) :
    KeepsTables host.daemon (host.resend failed).2.daemon := by
  unfold Host.resend
  split
  · exact .refl host.daemon
  · next retry retries heq =>
    have hsend := host.daemon.keepsTables_sendPacket retry.1 retry.2 true
    split
    · next hsent =>
      rw [hsent] at hsend
      exact hsend
    · next hsent =>
      rw [hsent] at hsend
      exact hsend

/-- What the daemon wants to have sent on its own account leaves the tables alone. -/
theorem keepsTables_control (host : Host) (result : Except DaemonError (Option Packet) × Daemon) :
    KeepsTables result.2 (host.control result).daemon := by
  unfold Host.control
  split
  · exact keepsTables_sendPacket _ _ _ _
  · exact .refl _

end Daemon

namespace Host

/-- What the daemon wants to have sent on its own account changes the daemon only. -/
theorem control_eq (host : Host) (result : Except DaemonError (Option Packet) × Daemon) :
    host.control result = { host with daemon := (host.control result).daemon } := by
  unfold control
  split <;> rfl

/-- The requests that are still to be sent again. -/
theorem resend_spec (host : Host) (failed : Bool) :
    (host.resend failed).2.clients = host.clients ∧ (host.resend failed).2.heard = host.heard ∧
      (∀ retry ∈ (host.resend failed).2.retries, retry ∈ host.retries) ∧
      ∀ retry ∈ (host.resend failed).1, retry ∈ host.retries := by
  unfold resend
  split
  · next heq => exact ⟨rfl, rfl, fun _ => id, nofun⟩
  · next retry retries heq =>
    rw [heq]
    split
    · refine ⟨rfl, rfl, fun retry' hmem => ?_, fun retry' hmem => ?_⟩
      · dsimp only at hmem
        split at hmem
        · cases hmem
        · exact List.mem_cons_of_mem _ hmem
      · rw [List.mem_singleton.1 hmem]
        exact List.mem_cons_self
    · exact ⟨rfl, rfl, nofun, nofun⟩

/-- A client that waits takes its response, learns that there is none, or waits on. -/
theorem advance_waiting (daemon : Daemon) (nodeId : UInt32) (submission : Submission)
    (outcome : SendOutcome) :
    (wakes daemon submission.key = false ∧
        advance daemon nodeId submission outcome .waiting = (.waiting, daemon)) ∨
      (∃ response, daemon.responses.lookup submission.key = some response ∧
        advance daemon nodeId submission outcome .waiting = (.answered (.ok response),
          { daemon with
            responses := daemon.responses.erase submission.key
            requestCanIds := daemon.requestCanIds.erase submission.key })) ∨
      (daemon.responses.lookup submission.key = none ∧ submission.key ∈ daemon.timedOut ∧
        advance daemon nodeId submission outcome .waiting = (.answered .timedOut,
          { daemon with timedOut := daemon.timedOut.erase submission.key })) := by
  unfold advance
  dsimp only
  cases hwakes : wakes daemon submission.key with
  | false => exact .inl ⟨rfl, rfl⟩
  | true =>
    rw [if_pos rfl]
    unfold Daemon.finishRequest
    cases hresponse : daemon.responses.lookup submission.key with
    | some response => exact .inr (.inl ⟨response, rfl, rfl⟩)
    | none =>
      unfold wakes at hwakes
      rw [hresponse] at hwakes
      have hmem := (of_decide_eq_true hwakes).resolve_left Bool.false_ne_true
      exact .inr (.inr ⟨rfl, hmem, rfl⟩)

end Host

end RemoteBSP.Toolbusd
