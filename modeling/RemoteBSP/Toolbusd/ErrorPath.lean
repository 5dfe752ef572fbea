import RemoteBSP.Toolbusd.Tables

/-!
# Requests that are answered with an error

What `handle_client` leaves behind when it answers with an error after the request has been
submitted. A request that is not admitted is cancelled, and nothing of it is left
(`error_leaves_nothing`), unless the thread of the bus has been faster. When sending it throws, it
stays in the tables, is sent again, and is given up where nobody looks (`failed_send_is_repeated`).
-/

namespace RemoteBSP.Toolbusd

namespace Daemon

/-- The tables have no entry for a key. -/
structure Free (daemon : Daemon) (requestKey : UInt64) : Prop where
  /-- No request is pending. -/
  pending : daemon.requests.pending.lookup requestKey = none
  /-- No request has been sent anywhere. -/
  requestCanIds : daemon.requestCanIds.lookup requestKey = none
  /-- There is no response. -/
  responses : daemon.responses.lookup requestKey = none
  /-- No request has been given up. -/
  timedOut : requestKey ∉ daemon.timedOut

variable {daemon daemon' : Daemon} {requestKey : UInt64}

/-- A section that leaves the tables alone adds no entry. -/
theorem Free.keeps (h : daemon.Free requestKey) (hkeeps : KeepsTables daemon daemon') :
    daemon'.Free requestKey where
  pending := hkeeps.pending ▸ h.pending
  requestCanIds := hkeeps.requestCanIds ▸ h.requestCanIds
  responses := hkeeps.responses ▸ h.responses
  timedOut := hkeeps.timedOut ▸ h.timedOut

/-- A response replies to another request than one that the tables do not have. -/
theorem Free.ne_keyOf (h : daemon.Free requestKey) {identifier : UInt32} {response : Packet}
    (hreplies : Replies daemon daemon' identifier response) : requestKey ≠ keyOf response := by
  rintro rfl
  have htarget := hreplies.target
  rw [h.requestCanIds] at htarget
  cases htarget

/-- A response adds an entry only for a request that has been sent. -/
theorem Free.replies (h : daemon.Free requestKey) {identifier : UInt32} {response : Packet}
    (hreplies : Replies daemon daemon' identifier response) : daemon'.Free requestKey := by
  have hne := h.ne_keyOf hreplies
  refine ⟨?_, hreplies.requestCanIds ▸ h.requestCanIds, ?_, hreplies.timedOut ▸ h.timedOut⟩
  · rw [hreplies.pending, Map.lookup_erase_ite, if_neg hne]
    exact h.pending
  · rw [hreplies.responses, Map.lookup_insert_ite, if_neg hne]
    exact h.responses

/-- The timers add an entry only for a request that is pending. -/
theorem Free.polls (h : daemon.Free requestKey) {retries : List (Packet × UInt32)} {now : ℤ}
    (hpolls : Polls daemon daemon' retries now) : daemon'.Free requestKey := by
  have hnone : ¬ ∃ pending, daemon.requests.pending.lookup requestKey = some pending ∧
      RequestManager.givesUp now pending = true := by
    rintro ⟨pending, hlookup, -⟩
    rw [h.pending] at hlookup
    cases hlookup
  refine ⟨?_, ?_, hpolls.responses ▸ h.responses, fun hmem => ?_⟩
  · rw [hpolls.pending, h.pending]
    rfl
  · rw [hpolls.requestCanIds, if_neg hnone]
    exact h.requestCanIds
  · rcases (hpolls.timedOut requestKey).1 hmem with hold | hnew
    · exact h.timedOut hold
    · exact hnone hnew

/-- A client that takes its response adds no entry. -/
theorem Free.take (h : daemon.Free requestKey) (requestKey' : UInt64) :
    Free { daemon with
      responses := daemon.responses.erase requestKey'
      requestCanIds := daemon.requestCanIds.erase requestKey' } requestKey := by
  refine ⟨h.pending, ?_, ?_, h.timedOut⟩
  · dsimp only
    rw [Map.lookup_erase_ite, h.requestCanIds, ite_self]
  · dsimp only
    rw [Map.lookup_erase_ite, h.responses, ite_self]

/-- A client that learns that there is no response adds no entry. -/
theorem Free.forget (h : daemon.Free requestKey) (requestKey' : UInt64) :
    Free { daemon with timedOut := daemon.timedOut.erase requestKey' } requestKey :=
  ⟨h.pending, h.requestCanIds, h.responses, fun hmem => h.timedOut (Finset.mem_of_mem_erase hmem)⟩

/-- A request that is cancelled adds no entry. -/
theorem Free.reject (h : daemon.Free requestKey) (submission : Submission) :
    (daemon.rejectRequest submission).2.Free requestKey := by
  refine ⟨?_, ?_, h.responses, h.timedOut⟩
  · show (AList.erase _ _).lookup requestKey = none
    rw [Map.lookup_erase_ite, h.pending, ite_self]
  · show (AList.erase _ _).lookup requestKey = none
    rw [Map.lookup_erase_ite, h.requestCanIds, ite_self]

end Daemon

namespace Host

variable {host : Host}

/-- Nothing of a request is left: no table has an entry for its key, and it is not to be sent
again. -/
structure Gone (host : Host) (requestKey : UInt64) : Prop where
  /-- The tables have no entry. -/
  free : host.daemon.Free requestKey
  /-- The request is not remembered as answered or given up either. -/
  completed : host.daemon.requests.completed.lookup requestKey = none
  /-- The request is not to be sent again. -/
  retries : ∀ retry ∈ host.retries, Daemon.keyOf retry.1 ≠ requestKey

/-- The step of a client does not end in an exception of `send_packet`, and when it cancels a
request, that has neither been answered nor given up, so that no table says so, and is not to be
sent again. -/
def orderly (host : Host) : HostOp → Bool
  | .client index outcome =>
    match host.clients[index]? with
    | some ⟨nodeId, some submission, .sending⟩ =>
      match (sendRequest host.daemon nodeId submission outcome).1 with
      | .answered _ => false
      | _ => true
    | some ⟨_, some submission, .rejected⟩ =>
      (host.daemon.requests.completed.lookup submission.key).isNone ∧
        (host.daemon.responses.lookup submission.key).isNone ∧
        submission.key ∉ host.daemon.timedOut ∧
        ∀ retry ∈ host.retries, Daemon.keyOf retry.1 ≠ submission.key
    | _ => true
  | _ => true

/-- No later client has got the same key for its request. -/
def Last (host : Host) (index : ℕ) (requestKey : UInt64) : Prop :=
  ∀ later > index, ∀ client ∈ host.clients[later]?, ∀ submission ∈ client.submission,
    submission.key ≠ requestKey

/-- What holds in every orderly run: the pending requests have their own keys, and nothing is left
of the requests that have been answered with an error. -/
structure Tidy (host : Host) : Prop where
  /-- The pending requests have their own keys. -/
  keyed : ∀ requestKey pending, host.daemon.requests.pending.lookup requestKey = some pending →
    Daemon.keyOf pending.packet = requestKey
  /-- The next request ID is not zero. -/
  next_ne_zero : host.daemon.requests.nextRequestId ≠ 0
  /-- Nothing is left of a request that has been answered with an error. -/
  gone : ∀ index nodeId submission exception,
    host.clients[index]? = some ⟨nodeId, some submission, .answered (.error exception)⟩ →
      host.Last index submission.key → host.Gone submission.key

/-- The daemon does something that changes no client and adds no entry. -/
theorem Tidy.daemon (h : host.Tidy) {daemon : Daemon} {retries : List (Packet × UInt32)}
    {heard : List (UInt32 × Packet)}
    (hkeyed : ∀ requestKey pending, daemon.requests.pending.lookup requestKey = some pending →
      Daemon.keyOf pending.packet = requestKey)
    (hnext : daemon.requests.nextRequestId ≠ 0)
    (hgone : ∀ requestKey, host.Gone requestKey →
      Gone ⟨daemon, host.clients, retries, heard⟩ requestKey) :
    Tidy ⟨daemon, host.clients, retries, heard⟩ where
  keyed := hkeyed
  next_ne_zero := hnext
  gone index nodeId submission exception hclient hlast :=
    hgone _ (h.gone index nodeId submission exception hclient hlast)

/-- The daemon leaves the tables alone. -/
theorem Tidy.keeps (h : host.Tidy) {daemon : Daemon} (hkeeps : host.daemon.KeepsTables daemon)
    {retries : List (Packet × UInt32)} (hretries : ∀ retry ∈ retries, retry ∈ host.retries)
    (heard : List (UInt32 × Packet)) : Tidy ⟨daemon, host.clients, retries, heard⟩ :=
  h.daemon (fun requestKey pending hlookup => h.keyed requestKey pending (hkeeps.pending ▸ hlookup))
    (hkeeps.nextRequestId ▸ h.next_ne_zero) fun _ hgone =>
      ⟨hgone.free.keeps hkeeps, hkeeps.completed _ hgone.completed,
        fun retry hmem => hgone.retries retry (hretries retry hmem)⟩

/-- A client comes whose request has another key than those that are gone. -/
theorem Tidy.append (h : host.Tidy) {daemon : Daemon} {client : Client}
    (hkeyed : ∀ requestKey pending, daemon.requests.pending.lookup requestKey = some pending →
      Daemon.keyOf pending.packet = requestKey)
    (hnext : daemon.requests.nextRequestId ≠ 0)
    (hphase : ∀ nodeId submission exception,
      client ≠ ⟨nodeId, some submission, .answered (.error exception)⟩)
    (hgone : ∀ requestKey, (∀ submission ∈ client.submission, submission.key ≠ requestKey) →
      host.Gone requestKey → Gone { host with daemon := daemon } requestKey) :
    Tidy { host with daemon := daemon, clients := host.clients ++ [client] } := by
  refine ⟨hkeyed, hnext, fun index nodeId submission exception hclient hlast => ?_⟩
  rw [List.getElem?_append] at hclient
  split at hclient
  · next hlt =>
    have hother : ∀ submission' ∈ client.submission, submission'.key ≠ submission.key :=
      fun submission' hmem => hlast host.clients.length hlt client
        (List.getElem?_concat_length) submission' hmem
    have hold : host.Last index submission.key := fun later hlater client' hclient' =>
      hlast later hlater client' (by
        have hlt' := (List.getElem?_eq_some_iff.1 hclient').1
        rw [List.getElem?_append_left hlt']
        exact hclient')
    have hleft := hgone submission.key hother
      (h.gone index nodeId submission exception hclient hold)
    exact ⟨hleft.free, hleft.completed, hleft.retries⟩
  · exact absurd (List.mem_singleton.1 (List.mem_of_getElem? hclient)).symm
      (hphase nodeId submission exception)

/-- A client comes. -/
theorem Tidy.connect (h : host.Tidy) (nodeId : UInt32) (request : Packet) (now : ℤ) :
    (host.connect nodeId request now).Tidy := by
  unfold Host.connect
  cases hsubmit : host.daemon.submitRequest nodeId request now with
  | mk result daemon =>
    cases result with
    -- A refused client leaves nothing but a request ID that has been used up.
    | error exception =>
      obtain ⟨requests, hpending, hnext, hcompleted, hdaemon⟩ :=
        Daemon.submitRequest_error h.next_ne_zero (by rw [hsubmit])
      rw [hsubmit] at hdaemon
      obtain rfl : daemon = { host.daemon with requests := requests } := hdaemon
      refine h.append (fun requestKey pending hlookup => ?_) hnext nofun fun requestKey _ hgone =>
        ⟨⟨?_, hgone.free.requestCanIds, hgone.free.responses, hgone.free.timedOut⟩,
          hcompleted requestKey hgone.completed, hgone.retries⟩
      · exact h.keyed requestKey pending (hpending ▸ hlookup)
      · show requests.pending.lookup requestKey = none
        rw [hpending]
        exact hgone.free.pending
    -- An accepted one adds the entries of its own key.
    | ok submission =>
      obtain ⟨hsession, hid, -, -, requests, hnext, hpending, hcompleted, -, hdaemon⟩ :=
        Daemon.submitRequest_ok h.next_ne_zero (by rw [hsubmit])
      rw [hsubmit] at hdaemon
      obtain rfl : daemon = { host.daemon with
        requests := requests
        requestCanIds := host.daemon.requestCanIds.insert submission.key
          (kNodeRequestBaseCanId + nodeId) } := hdaemon
      refine h.append (fun requestKey pending hlookup => ?_) hnext nofun
        fun requestKey hother hgone => ⟨⟨?_, ?_, hgone.free.responses, hgone.free.timedOut⟩, ?_,
          hgone.retries⟩
      · have hlookup : requests.pending.lookup requestKey = some pending := hlookup
        rw [hpending, Map.lookup_insert_ite] at hlookup
        split at hlookup
        · next hkey =>
          rw [← Option.some.inj hlookup, hkey]
          show RequestManager.key submission.packet.header.sessionId
            submission.packet.header.requestId = submission.key
          rw [hid]
          rfl
        · exact h.keyed requestKey pending hlookup
      · have hne : requestKey ≠ submission.key := Ne.symm (hother submission rfl)
        show requests.pending.lookup requestKey = none
        rw [hpending, Map.lookup_insert_ite, if_neg hne]
        exact hgone.free.pending
      · have hne : requestKey ≠ submission.key := Ne.symm (hother submission rfl)
        show (AList.insert _ _ _).lookup requestKey = none
        rw [Map.lookup_insert_ite, if_neg hne]
        exact hgone.free.requestCanIds
      · show requests.completed.lookup requestKey = none
        rw [hcompleted]
        exact Daemon.completed_expireCompleted now hgone.completed

/-- A client takes a step that adds no entry, and leaves nothing if it ends with an error. -/
theorem Tidy.set (h : host.Tidy) {daemon : Daemon} {index : ℕ} {client client' : Client}
    (hclient : host.clients[index]? = some client) (hsame : client'.submission = client.submission)
    (hkeyed : ∀ requestKey pending, daemon.requests.pending.lookup requestKey = some pending →
      Daemon.keyOf pending.packet = requestKey)
    (hnext : daemon.requests.nextRequestId ≠ 0)
    (hgone : ∀ requestKey, host.Gone requestKey → Gone { host with daemon := daemon } requestKey)
    (herror : ∀ nodeId submission exception,
      client' = ⟨nodeId, some submission, .answered (.error exception)⟩ →
        host.Last index submission.key → Gone { host with daemon := daemon } submission.key) :
    Tidy { host with daemon := daemon, clients := host.clients.set index client' } := by
  refine ⟨hkeyed, hnext, fun i nodeId submission exception hmem hlast => ?_⟩
  have hlt := (List.getElem?_eq_some_iff.1 hclient).1
  have hold : host.Last i submission.key := by
    intro later hlater other hother submission' hsubmission'
    by_cases heq : index = later
    · subst heq
      rw [hclient] at hother
      rw [← Option.some.inj hother, ← hsame] at hsubmission'
      exact hlast index hlater client' (List.getElem?_set_self hlt) submission' hsubmission'
    · refine hlast later hlater other ?_ submission' hsubmission'
      show (host.clients.set index client')[later]? = some other
      rw [List.getElem?_set_ne heq]
      exact hother
  have hleft : Gone { host with daemon := daemon } submission.key := by
    by_cases heq : index = i
    · subst heq
      rw [List.getElem?_set_self hlt] at hmem
      exact herror nodeId submission exception (Option.some.inj hmem) hold
    · rw [List.getElem?_set_ne heq] at hmem
      exact hgone _ (h.gone i nodeId submission exception hmem hold)
  exact ⟨hleft.free, hleft.completed, hleft.retries⟩

/-- A client takes an orderly step. -/
theorem Tidy.clientStep (h : host.Tidy) {index : ℕ} {outcome : SendOutcome}
    (horderly : host.orderly (.client index outcome) = true) :
    (host.clientStep index outcome).Tidy := by
  unfold Host.clientStep
  unfold orderly at horderly
  dsimp only at horderly
  cases hclient : host.clients[index]? with
  | none => exact h
  | some client =>
    obtain ⟨nodeId, submission, phase⟩ := client
    cases submission with
    | none => exact h
    | some submission =>
      rw [hclient] at horderly
      dsimp only
      cases phase with
      -- A request that is sent adds nothing to the tables.
      | sending =>
        have hkeeps := host.daemon.keepsTables_sendRequest nodeId submission outcome
        refine h.set hclient rfl (fun requestKey pending hlookup => ?_) ?_ (fun _ hgone => ?_)
          fun nodeId' submission' exception heq => ?_
        · exact h.keyed requestKey pending (hkeeps.pending ▸ hlookup)
        · exact hkeeps.nextRequestId ▸ h.next_ne_zero
        · exact ⟨hgone.free.keeps hkeeps, hkeeps.completed _ hgone.completed, hgone.retries⟩
        · have hphase : (sendRequest host.daemon nodeId submission outcome).1 =
              .answered (.error exception) := (Client.mk.inj heq).2.2
          dsimp only at horderly
          rw [hphase] at horderly
          cases horderly
      -- A rejected one loses its entries, and in an orderly run no others have been made.
      | rejected =>
        obtain ⟨hcompleted, hresponse, htimedOut, hretries⟩ := of_decide_eq_true horderly
        refine h.set hclient rfl (fun requestKey pending hlookup => ?_) h.next_ne_zero
          (fun _ hgone => ⟨hgone.free.reject submission, hgone.completed, hgone.retries⟩)
          fun nodeId' submission' exception heq _ => ?_
        · have hlookup : (host.daemon.requests.pending.erase _).lookup requestKey = some pending :=
            hlookup
          rw [Map.lookup_erase_ite] at hlookup
          split at hlookup
          · cases hlookup
          · exact h.keyed requestKey pending hlookup
        · obtain ⟨-, hsame, -⟩ := Client.mk.inj heq
          obtain rfl := Option.some.inj hsame
          refine ⟨⟨?_, ?_, Option.isNone_iff_eq_none.1 hresponse, htimedOut⟩,
            Option.isNone_iff_eq_none.1 hcompleted, hretries⟩
          · exact (Map.lookup_erase_ite _ _ _).trans (if_pos rfl)
          · exact (Map.lookup_erase_ite _ _ _).trans (if_pos rfl)
      -- A waiting client goes on waiting, takes its response, or forgets its timeout.
      | waiting =>
        rcases advance_waiting host.daemon nodeId submission outcome with
          ⟨-, hadvance⟩ | ⟨response, -, hadvance⟩ | ⟨-, -, hadvance⟩
        · rw [hadvance]
          exact h.set hclient rfl h.keyed h.next_ne_zero (fun _ => id) nofun
        · rw [hadvance]
          exact h.set hclient rfl h.keyed h.next_ne_zero (fun _ hgone =>
            ⟨hgone.free.take submission.key, hgone.completed, hgone.retries⟩) nofun
        · rw [hadvance]
          exact h.set hclient rfl h.keyed h.next_ne_zero (fun _ hgone =>
            ⟨hgone.free.forget submission.key, hgone.completed, hgone.retries⟩) nofun
      | answered answer =>
        refine h.set hclient rfl h.keyed h.next_ne_zero (fun _ => id)
          fun nodeId' submission' exception heq hlast => ?_
        exact h.gone index nodeId' submission' exception (heq ▸ hclient) hlast

/-- An orderly step keeps the tables tidy. -/
theorem Tidy.step (h : host.Tidy) {op : HostOp} (horderly : host.orderly op = true) :
    (host.step op).1.Tidy := by
  cases op with
  | connect nodeId request now => exact h.connect nodeId request now
  | client index outcome => exact h.clientStep horderly
  | discover =>
    unfold Host.step
    dsimp only
    split
    · exact h
    · rw [control_eq]
      have hcontrol := Daemon.keepsTables_control host
        (host.daemon.sendDiscovery.1.map some, host.daemon.sendDiscovery.2)
      exact h.keeps (host.daemon.keepsTables_sendDiscovery.trans hcontrol) (fun _ => id) host.heard
  | hear message now =>
    unfold Host.step
    dsimp only
    split
    · exact h
    · rw [control_eq]
      have hcontrol := Daemon.keepsTables_control
        { host with heard := host.heard ++ completed host.daemon message now }
        (host.daemon.receive message now)
      -- A message answers a pending request, so that it touches no key whose entries are gone.
      rcases host.daemon.tables_receive message now with hkeeps | ⟨response, -, hreplies⟩
      · exact h.keeps (hkeeps.trans hcontrol) (fun _ => id) _
      · refine h.daemon (fun requestKey pending hlookup => ?_) ?_ fun _ hgone =>
          ⟨(hgone.free.replies hreplies).keeps hcontrol, hcontrol.completed _
            (hreplies.completed _ (hgone.free.ne_keyOf hreplies) hgone.completed), hgone.retries⟩
        · rw [hcontrol.pending, hreplies.pending, Map.lookup_erase_ite] at hlookup
          split at hlookup
          · cases hlookup
          · exact h.keyed requestKey pending hlookup
        · rw [hcontrol.nextRequestId, hreplies.nextRequestId]
          exact h.next_ne_zero
  | timers now =>
    unfold Host.step
    dsimp only
    split
    · exact h
    -- The timers touch the keys of pending requests only.
    · have hpolls := Daemon.polls_processRequestTimers h.keyed now
      refine h.daemon (fun requestKey pending hlookup => ?_) (hpolls.nextRequestId ▸ h.next_ne_zero)
        fun requestKey hgone => ⟨hgone.free.polls hpolls, hpolls.completed _ (fun pending hlookup =>
          absurd (hgone.free.pending.symm.trans hlookup) (by simp)) hgone.completed,
          fun retry hmem hkey => ?_⟩
      · rw [hpolls.pending, Option.map_eq_some_iff] at hlookup
        obtain ⟨pending', hfilter, rfl⟩ := hlookup
        rw [RequestManager.packet_polled]
        exact h.keyed requestKey pending' (Option.filter_eq_some_iff.1 hfilter).1
      · -- Only pending requests are sent again.
        obtain ⟨requestKey', pending, hlookup, hpacket⟩ := hpolls.retries retry hmem
        rw [hpacket, h.keyed requestKey' pending hlookup] at hkey
        rw [hkey, hgone.free.pending] at hlookup
        cases hlookup
  | resend failed =>
    obtain ⟨hclients, -, hretries, -⟩ := host.resend_spec failed
    have hnext := h.keeps (Daemon.keepsTables_resend host failed) hretries
      (host.resend failed).2.heard
    rw [← hclients] at hnext
    exact hnext
  | nextEvent nodeId =>
    exact h.keeps (host.daemon.keepsTables_nextEvent nodeId) (fun _ => id) host.heard
  | readUartStream nodeId objectId maximumLength =>
    exact h.keeps (host.daemon.keepsTables_readUartStream nodeId objectId maximumLength)
      (fun _ => id) host.heard

/-- The tables are tidy at the start. -/
theorem tidy_start (mode : CanMode) (sessionId : UInt32) (hsession : sessionId ≠ 0) :
    (start mode sessionId hsession).Tidy :=
  ⟨nofun, show (1 : UInt32) ≠ 0 by decide, nofun⟩

/-- In every orderly run, nothing is left of a request that has been answered with an error after
it had been submitted, neither as a pending request nor as one that is over, and it is not sent
again, unless a later one has got its ID. -/
theorem error_leaves_nothing (mode : CanMode) (sessionId : UInt32) (hsession : sessionId ≠ 0)
    (ops : List HostOp)
    (horderly : threads.Along (fun host op => host.orderly op = true)
      (start mode sessionId hsession) ops)
    {index : ℕ} {nodeId : UInt32} {submission : Submission} {exception : DaemonError}
    (hclient : (threads.run (start mode sessionId hsession) ops).clients[index]? =
      some ⟨nodeId, some submission, .answered (.error exception)⟩)
    (hlast : (threads.run (start mode sessionId hsession) ops).Last index submission.key) :
    ((threads.run (start mode sessionId hsession) ops).daemon.Free submission.key ∧
        (threads.run (start mode sessionId hsession) ops).daemon.requests.completed.lookup
          submission.key = none) ∧
      ∀ op, ∀ retry ∈ (threads.step (threads.run (start mode sessionId hsession) ops) op).2,
        Daemon.keyOf retry.1 ≠ submission.key := by
  have htidy : Tidy (threads.run (start mode sessionId hsession) ops) :=
    threads.run_induction_of (P := Tidy) (fun _ _ h horderly => h.step horderly)
      (tidy_start mode sessionId hsession) horderly
  have hgone := htidy.gone index nodeId submission exception hclient hlast
  refine ⟨⟨hgone.free, hgone.completed⟩, fun op retry hmem => ?_⟩
  have hresend : ∃ failed, retry ∈
      ((threads.run (start mode sessionId hsession) ops).resend failed).1 := by
    cases op with
    | resend failed => exact ⟨failed, hmem⟩
    | discover | hear | timers =>
      unfold threads Host.step at hmem
      dsimp only at hmem
      split at hmem <;> cases hmem
    | connect | client | nextEvent | readUartStream => cases hmem
  obtain ⟨failed, hresent⟩ := hresend
  exact hgone.retries retry ((resend_spec _ failed).2.2.2 retry hresent)

/-! ## A request that is not admitted, and one that is not sent -/

/-- Board 1 is discovered, and gets the node ID 1. -/
def joinOps : List HostOp :=
  .discover :: (nodeMessages 0x481 1 (discoveryResponse 1 0x80000000) ++
    nodeMessages 0x501 2 (heartbeat 1 1)).zipIdx.map fun message =>
      .hear message.1 (1000000 * message.2)

/-- A client comes with a `PING` for board 1. -/
def pingOps : List HostOp :=
  joinOps ++ [.connect 1 ⟨{ command := Command.ping }, []⟩ 3000000]

/-- The `PING` as it is submitted. -/
def submittedPing : Submission :=
  ⟨1, ⟨{ command := Command.ping, sessionId := 1, requestId := 1 }, []⟩⟩

/-- The `PING` is not admitted, and is cancelled. -/
def rejectedOps : List HostOp := pingOps ++ [.client 0 .rejected, .client 0 .sent]

/-- The `PING` is not sent, and the timers come. -/
def failedOps : List HostOp := pingOps ++ [.client 0 .failed, .timers 800000000]

/-- The host of these runs at the start. -/
def pingHost : Host := start .flexibleDataRate 1 Daemon.one_session

/-- There is no later client if there is only one. -/
theorem last_of_length {host : Host} (hlength : host.clients.length = 1) (requestKey : UInt64) :
    host.Last 0 requestKey := by
  intro later hlater client hclient
  have hlt := (List.getElem?_eq_some_iff.1 hclient).1
  omega

/-- Nothing is left of the `PING` that is not admitted. -/
theorem error_leaves_nothing_rejected :
    (threads.run pingHost rejectedOps).daemon.Free submittedPing.key ∧
      (threads.run pingHost rejectedOps).daemon.requests.completed.lookup submittedPing.key =
        none :=
  (error_leaves_nothing .flexibleDataRate 1 (by decide) rejectedOps (by decide +kernel)
    (show (threads.run pingHost rejectedOps).clients[0]? = some ⟨1, some submittedPing,
      .answered (.error (.runtimeError "CAN 带宽准入拒绝：当前业务类别预算不足"))⟩ by decide +kernel)
    (last_of_length (by decide +kernel) submittedPing.key)).1

/-- The `PING` that is not sent is sent again, although the client has been told that it failed. -/
theorem failed_send_is_repeated :
    ¬ ∀ (mode : CanMode) (sessionId : UInt32) (hsession : sessionId ≠ 0) (ops : List HostOp)
        (index : ℕ) (nodeId : UInt32) (submission : Submission) (exception : DaemonError),
      (threads.run (start mode sessionId hsession) ops).clients[index]? =
        some ⟨nodeId, some submission, .answered (.error exception)⟩ →
      (threads.run (start mode sessionId hsession) ops).Last index submission.key →
      ((threads.run (start mode sessionId hsession) ops).daemon.Free submission.key ∧
          (threads.run (start mode sessionId hsession) ops).daemon.requests.completed.lookup
            submission.key = none) ∧
        ∀ op, ∀ retry ∈ (threads.step (threads.run (start mode sessionId hsession) ops) op).2,
          Daemon.keyOf retry.1 ≠ submission.key := by
  intro h
  have hclient : (threads.run (start .flexibleDataRate 1 (by decide)) failedOps).clients[0]? =
      some ⟨1, some submittedPing, .answered (.error (.runtimeError "发送 CAN 帧失败"))⟩ := by
    decide +kernel
  have hlast : (threads.run (start .flexibleDataRate 1 (by decide)) failedOps).Last 0
      submittedPing.key :=
    last_of_length (by decide +kernel) submittedPing.key
  have hresent : (threads.step (threads.run (start .flexibleDataRate 1 (by decide)) failedOps)
      (.resend false)).2 = [(submittedPing.packet, 0x601)] := by decide +kernel
  have hkey : Daemon.keyOf submittedPing.packet = submittedPing.key := by decide +kernel
  obtain ⟨-, hretries⟩ := h .flexibleDataRate 1 (by decide) failedOps 0 1 submittedPing _ hclient
    hlast
  have hmem := hretries (.resend false) (submittedPing.packet, 0x601)
  rw [hresent] at hmem
  exact hmem (List.mem_singleton_self _) hkey

end Host

end RemoteBSP.Toolbusd
