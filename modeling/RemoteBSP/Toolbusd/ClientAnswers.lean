import RemoteBSP.Lib.Liveness
import RemoteBSP.Toolbusd.Routing

/-!
# Every client is answered

In a run without end in which the threads take their steps (`Fair`), a client that has submitted a
request sends it and waits, its request does not stay pending for ever, since the timers repeat it a
few times only (`held_leadsTo`), and what has become of it wakes the client. So every client is
answered, and only once (`clients_answered`). A client whose node is not there is refused at once
(`offline_client_refused`).
-/

namespace RemoteBSP.Toolbusd

namespace Host

variable {host : Host}

/-- A client that comes changes no other one. -/
theorem clients_connect {index : ℕ} {client : Client} (nodeId : UInt32) (request : Packet) (now : ℤ)
    (hclient : host.clients[index]? = some client) :
    (host.connect nodeId request now).clients[index]? = some client := by
  unfold Host.connect
  have hlt := (List.getElem?_eq_some_iff.1 hclient).1
  split <;> exact (List.getElem?_append_left hlt).trans hclient

/-- A client takes its step. -/
theorem clients_client {index : ℕ} {nodeId : UInt32} {submission : Submission}
    {phase : ClientPhase} (outcome : SendOutcome)
    (hclient : host.clients[index]? = some ⟨nodeId, some submission, phase⟩) :
    (host.step (.client index outcome)).1.clients[index]? = some ⟨nodeId, some submission,
      (advance host.daemon nodeId submission outcome phase).1⟩ := by
  show (host.clientStep index outcome).clients[index]? = _
  unfold clientStep
  rw [hclient]
  exact List.getElem?_set_self (List.getElem?_eq_some_iff.1 hclient).1

/-- A client is changed by its own steps only. -/
theorem clients_other {index : ℕ} {client : Client} {op : HostOp}
    (hclient : host.clients[index]? = some client) (hop : ∀ outcome, op ≠ .client index outcome) :
    (host.step op).1.clients[index]? = some client := by
  cases op with
  | connect nodeId request now => exact clients_connect nodeId request now hclient
  | client index' outcome =>
    have hne : index' ≠ index := fun heq => hop outcome (heq ▸ rfl)
    show (host.clientStep index' outcome).clients[index]? = _
    unfold clientStep
    split
    · exact (List.getElem?_set_ne hne).trans hclient
    · exact hclient
  | discover | hear =>
    unfold Host.step
    dsimp only
    split
    · exact hclient
    · rw [control_eq]
      exact hclient
  | timers now =>
    unfold Host.step
    dsimp only
    split <;> exact hclient
  | resend failed =>
    show (host.resend failed).2.clients[index]? = _
    rw [(host.resend_spec failed).1]
    exact hclient
  | nextEvent | readUartStream => exact hclient

/-- A client with a request stays as it is, or takes its step. -/
theorem clients_step {index : ℕ} {nodeId : UInt32} {submission : Submission} {phase : ClientPhase}
    (op : HostOp) (hclient : host.clients[index]? = some ⟨nodeId, some submission, phase⟩) :
    (host.step op).1.clients[index]? = some ⟨nodeId, some submission, phase⟩ ∨
      ∃ outcome, op = .client index outcome ∧ (host.step op).1.clients[index]? =
        some ⟨nodeId, some submission,
          (advance host.daemon nodeId submission outcome phase).1⟩ := by
  by_cases hop : ∃ outcome, op = .client index outcome
  · obtain ⟨outcome, rfl⟩ := hop
    exact .inr ⟨outcome, rfl, clients_client outcome hclient⟩
  · exact .inl (clients_other hclient fun outcome heq => hop ⟨outcome, heq⟩)

/-- A client whose request has been refused stays as it is. -/
theorem clients_refused {index : ℕ} {client : Client} (op : HostOp)
    (hclient : host.clients[index]? = some client) (hrefused : client.submission = none) :
    (host.step op).1.clients[index]? = some client := by
  by_cases hop : ∃ outcome, op = .client index outcome
  · obtain ⟨outcome, rfl⟩ := hop
    obtain ⟨nodeId, submission, phase⟩ := client
    dsimp only at hrefused
    subst hrefused
    show (host.clientStep index outcome).clients[index]? = _
    unfold clientStep
    rw [hclient]
    exact hclient
  · exact clients_other hclient fun outcome heq => hop ⟨outcome, heq⟩

/-- What becomes of the pending request of a client: it is gone, or it is as it was, or it may be
repeated less often. -/
theorem Routed.pending_step (h : host.Routed) (op : HostOp) {index : ℕ} {client : Client}
    (hclient : host.clients[index]? = some client) {submission : Submission}
    (hsubmission : submission ∈ client.submission) {pending' : Pending}
    (hlookup : (host.step op).1.daemon.requests.pending.lookup submission.key = some pending') :
    ∃ pending, host.daemon.requests.pending.lookup submission.key = some pending ∧
      (pending' = pending ∨ pending'.retriesRemaining < pending.retriesRemaining) := by
  -- Most steps keep the table, and with it the request.
  have hkeeps : ∀ {daemon : Daemon}, host.daemon.KeepsTables daemon →
      daemon.requests.pending.lookup submission.key = some pending' →
      ∃ pending, host.daemon.requests.pending.lookup submission.key = some pending ∧
        (pending' = pending ∨ pending'.retriesRemaining < pending.retriesRemaining) :=
    fun hkeeps hlookup => ⟨pending', hkeeps.pending ▸ hlookup, .inl rfl⟩
  cases op with
  | connect nodeId request now =>
    replace hlookup : (host.connect nodeId request now).daemon.requests.pending.lookup
      submission.key = some pending' := hlookup
    unfold Host.connect at hlookup
    rcases h.submitRequest_cases nodeId request now with ⟨-, exception, hrefused, -⟩ |
      ⟨-, new, daemon, hresult, henters, -⟩
    · rw [hrefused] at hlookup
      exact ⟨pending', hlookup, .inl rfl⟩
    · -- The new request has another key.
      have hne : submission.key ≠ new.key := by
        rw [henters.key]
        exact h.fresh (List.mem_of_getElem? hclient) hsubmission
      rw [hresult] at hlookup
      exact ⟨pending', (henters.lookup_pending hne).symm.trans hlookup, .inl rfl⟩
  | client index' outcome =>
    replace hlookup : (host.clientStep index' outcome).daemon.requests.pending.lookup
      submission.key = some pending' := hlookup
    unfold Host.clientStep at hlookup
    -- The step of a client keeps the table, whether it sends, takes its answer or waits.
    split at hlookup
    · next nodeId submission' phase hclient' =>
      have hstands := h.stands _ (List.mem_of_getElem? hclient') submission' rfl
      dsimp only at hstands hlookup
      cases hstands with
      | sending =>
        exact hkeeps (host.daemon.keepsTables_sendRequest nodeId submission' outcome) hlookup
      | waiting =>
        rcases advance_waiting host.daemon nodeId submission' outcome with
          ⟨-, hadvance⟩ | ⟨response, -, hadvance⟩ | ⟨-, -, hadvance⟩ <;>
        · rw [hadvance] at hlookup
          exact ⟨pending', hlookup, .inl rfl⟩
      | timedOut => exact ⟨pending', hlookup, .inl rfl⟩
      | replied => exact ⟨pending', hlookup, .inl rfl⟩
    · exact ⟨pending', hlookup, .inl rfl⟩
  | discover =>
    unfold Host.step at hlookup
    dsimp only at hlookup
    split at hlookup
    · exact ⟨pending', hlookup, .inl rfl⟩
    · exact hkeeps (host.daemon.keepsTables_sendDiscovery.trans (Daemon.keepsTables_control host
        (host.daemon.sendDiscovery.1.map some, host.daemon.sendDiscovery.2))) hlookup
  | hear message now =>
    -- A message takes at most the request that it answers out of the table.
    unfold Host.step at hlookup
    dsimp only at hlookup
    split at hlookup
    · exact ⟨pending', hlookup, .inl rfl⟩
    · have hcontrol := Daemon.keepsTables_control
        { host with heard := host.heard ++ completed host.daemon message now }
        (host.daemon.receive message now)
      rcases host.daemon.tables_receive message now with hreceive | ⟨response, -, hreplies⟩
      · exact hkeeps (hreceive.trans hcontrol) hlookup
      · rw [hcontrol.pending, hreplies.pending, Map.lookup_erase_ite] at hlookup
        split at hlookup
        · cases hlookup
        · exact ⟨pending', hlookup, .inl rfl⟩
  | timers now =>
    unfold Host.step at hlookup
    dsimp only at hlookup
    split at hlookup
    · exact ⟨pending', hlookup, .inl rfl⟩
    -- The timers keep the request, repeat it or take it out.
    · have hpolls := Daemon.polls_processRequestTimers h.pending_keyed now
      rw [hpolls.pending, Option.map_eq_some_iff] at hlookup
      obtain ⟨pending, hfilter, rfl⟩ := hlookup
      exact ⟨pending, (Option.filter_eq_some_iff.1 hfilter).1,
        host.daemon.requests.polled_cases now pending⟩
  | resend failed => exact hkeeps (Daemon.keepsTables_resend host failed) hlookup
  | nextEvent nodeId => exact hkeeps (host.daemon.keepsTables_nextEvent nodeId) hlookup
  | readUartStream nodeId objectId maximumLength =>
    exact hkeeps (host.daemon.keepsTables_readUartStream nodeId objectId maximumLength) hlookup

/-- The timers come when a request is due: it may be repeated less often then, or is gone. -/
theorem Routed.due_step (h : host.Routed) {now : ℤ} {requestKey : UInt64}
    {pending pending' : Pending}
    (hlookup : host.daemon.requests.pending.lookup requestKey = some pending)
    (hdue : pending.deadline ≤ now) (hidle : host.retries = [])
    (hlookup' : (host.step (.timers now)).1.daemon.requests.pending.lookup requestKey =
      some pending') : pending'.retriesRemaining < pending.retriesRemaining := by
  unfold Host.step at hlookup'
  dsimp only at hlookup'
  rw [if_neg (not_not.2 hidle)] at hlookup'
  have hpolls := Daemon.polls_processRequestTimers h.pending_keyed now
  rw [hpolls.pending, hlookup, Option.map_eq_some_iff] at hlookup'
  obtain ⟨pending'', hfilter, rfl⟩ := hlookup'
  obtain ⟨heq, hkept⟩ := Option.filter_eq_some_iff.1 hfilter
  rw [← Option.some.inj heq] at hkept ⊢
  have hremaining : 0 < pending.retriesRemaining := by
    by_contra hnone
    have hgives : RequestManager.givesUp now pending = true :=
      decide_eq_true ⟨not_lt.2 hdue, hnone⟩
    rw [hgives] at hkept
    cases hkept
  have hrepeats : RequestManager.repeats now pending = true :=
    decide_eq_true ⟨not_lt.2 hdue, hremaining⟩
  unfold RequestManager.polled
  rw [if_pos hrepeats]
  exact Nat.sub_lt hremaining Nat.one_pos

/-- The threads take their steps: every client again and again, and the thread of the bus looks at
the timers at later and later times. -/
structure Fair (host : Host) (ops : ℕ → HostOp) : Prop where
  /-- The clients take their steps. -/
  clients : ∀ index n, ∃ m ≥ n, ∃ outcome, ops m = .client index outcome
  /-- The timers come when nothing is to be sent again. -/
  timers : ∀ time n, ∃ m ≥ n, ∃ now, time ≤ now ∧ ops m = .timers now ∧
    (threads.stateAt host ops m).retries = []

/-- What holds of every state of a run in which the requests are sent. -/
def RoutedRun (host : Host) (ops : ℕ → HostOp) : Prop :=
  ∀ n, (threads.stateAt host ops n).Routed ∧
    (threads.stateAt host ops n).succeeds (ops n) = true

/-- A client with a request is somewhere. -/
def At (index : ℕ) (nodeId : UInt32) (submission : Submission) (phase : ClientPhase)
    (host : Host) : Prop :=
  host.clients[index]? = some ⟨nodeId, some submission, phase⟩

/-- A client with a request has been answered. -/
def Answered (index : ℕ) (nodeId : UInt32) (submission : Submission) (host : Host) : Prop :=
  ∃ answer, host.At index nodeId submission (.answered answer)

variable {ops : ℕ → HostOp} {index : ℕ} {nodeId : UInt32} {submission : Submission}

/-- A client that is to send its request does so, and then waits. -/
theorem sending_leadsTo (hrun : host.RoutedRun ops) (hfair : host.Fair ops) :
    LeadsTo (threads.stateAt host ops) (At index nodeId submission .sending)
      (At index nodeId submission .waiting) := by
  have hsends : ∀ n outcome, ops n = .client index outcome →
      (threads.stateAt host ops n).At index nodeId submission .sending →
        (threads.stateAt host ops (n + 1)).At index nodeId submission .waiting := by
    intro n outcome hop hsending
    have hsucceeds := (hrun n).2
    rw [hop] at hsucceeds
    unfold succeeds at hsucceeds
    unfold At at hsending
    dsimp only at hsucceeds
    rw [hsending] at hsucceeds
    have hphase : (advance (threads.stateAt host ops n).daemon nodeId submission outcome
        .sending).1 = .waiting := of_decide_eq_true hsucceeds
    show ((threads.stateAt host ops n).step (ops n)).1.clients[index]? = _
    rw [hop, clients_client outcome hsending, hphase]
  refine .of_helpful (fun n hsending => ?_) (hfair.clients index) fun m ⟨outcome, hop⟩ =>
    hsends m outcome hop
  rcases clients_step (ops n) hsending with hsame | ⟨outcome, hop, -⟩
  · exact .inl hsame
  · exact .inr (hsends n outcome hop hsending)

/-- A client that waits takes its answer, or waits on. -/
theorem waiting_step {n : ℕ}
    (hwaiting : (threads.stateAt host ops n).At index nodeId submission .waiting) :
    (threads.stateAt host ops (n + 1)).At index nodeId submission .waiting ∨
      (threads.stateAt host ops (n + 1)).Answered index nodeId submission := by
  rcases clients_step (ops n) hwaiting with hsame | ⟨outcome, -, hnext⟩
  · exact .inl hsame
  · rcases advance_waiting (threads.stateAt host ops n).daemon nodeId submission outcome with
      ⟨-, hadvance⟩ | ⟨response, -, hadvance⟩ | ⟨-, -, hadvance⟩
    · rw [hadvance] at hnext
      exact .inl hnext
    · rw [hadvance] at hnext
      exact .inr ⟨_, hnext⟩
    · rw [hadvance] at hnext
      exact .inr ⟨_, hnext⟩

/-- A client whose request is not pending any more. -/
def Settled (index : ℕ) (nodeId : UInt32) (submission : Submission) (host : Host) : Prop :=
  host.At index nodeId submission .waiting ∧
    host.daemon.requests.pending.lookup submission.key = none

/-- A client whose request is not pending any more wakes up. -/
theorem Routed.wakes_of_settled (h : host.Routed)
    (hsettled : host.Settled index nodeId submission) :
    wakes host.daemon submission.key = true := by
  obtain ⟨hwaiting, hnone⟩ := hsettled
  have hstands := h.stands _ (List.mem_of_getElem? hwaiting) submission rfl
  dsimp only at hstands
  cases hstands with
  | waiting hserves =>
    cases hserves with
    | outstanding pending hpacket hopen => exact absurd (hopen.pending.symm.trans hnone) nofun
    | replied response hheard hanswers hreplied =>
      exact decide_eq_true (.inl (Option.isSome_of_eq_some hreplied.responses))
    | givenUp hgiven => exact decide_eq_true (.inr hgiven.timedOut)

/-- A client whose request is not pending any more is answered. -/
theorem settled_leadsTo (hrun : host.RoutedRun ops) (hfair : host.Fair ops) :
    LeadsTo (threads.stateAt host ops) (Settled index nodeId submission)
      (Answered index nodeId submission) := by
  refine .of_helpful (fun n hsettled => ?_) (hfair.clients index)
    fun m ⟨outcome, hop⟩ hsettled => ?_
  · obtain ⟨hwaiting, hnone⟩ := hsettled
    rcases waiting_step hwaiting with hwaits | hanswered
    · refine .inl ⟨hwaits, Option.eq_none_iff_forall_ne_some.2 fun pending' hlookup => ?_⟩
      obtain ⟨pending, hpending, -⟩ := (hrun n).1.pending_step (ops n) hwaiting rfl hlookup
      exact absurd (hpending.symm.trans hnone) nofun
    · exact .inr hanswered
  · have hwakes := (hrun m).1.wakes_of_settled hsettled
    obtain ⟨hwaiting, -⟩ := hsettled
    have hstep : (threads.stateAt host ops (m + 1)).clients[index]? = some ⟨nodeId, some submission,
        (advance (threads.stateAt host ops m).daemon nodeId submission outcome .waiting).1⟩ := by
      show ((threads.stateAt host ops m).step (ops m)).1.clients[index]? = _
      rw [hop, clients_client outcome hwaiting]
    rcases advance_waiting (threads.stateAt host ops m).daemon nodeId submission outcome with
      ⟨hasleep, -⟩ | ⟨response, -, hadvance⟩ | ⟨-, -, hadvance⟩
    · rw [hwakes] at hasleep
      cases hasleep
    · rw [hadvance] at hstep
      exact ⟨_, hstep⟩
    · rw [hadvance] at hstep
      exact ⟨_, hstep⟩

/-- A client that waits for its pending request. -/
def Held (index : ℕ) (nodeId : UInt32) (submission : Submission) (host : Host) : Prop :=
  host.At index nodeId submission .waiting ∧
    ∃ pending, host.daemon.requests.pending.lookup submission.key = some pending

/-- How often the request of a client may still be repeated. -/
def remaining (submission : Submission) (host : Host) : ℕ :=
  ((host.daemon.requests.pending.lookup submission.key).map Pending.retriesRemaining).getD 0

/-- A client that waits holds its pending request, or is settled. -/
theorem held_or_settled (hwaiting : host.At index nodeId submission .waiting) :
    host.Held index nodeId submission ∨ host.Settled index nodeId submission := by
  cases hlookup : host.daemon.requests.pending.lookup submission.key with
  | none => exact .inr ⟨hwaiting, hlookup⟩
  | some pending => exact .inl ⟨hwaiting, pending, hlookup⟩

/-- No request stays pending. -/
theorem held_leadsTo (hrun : host.RoutedRun ops) (hfair : host.Fair ops) :
    LeadsTo (threads.stateAt host ops) (Held index nodeId submission)
      fun state => state.Settled index nodeId submission ∨
        state.Answered index nodeId submission := by
  refine .of_rank (remaining submission) fun count n ⟨⟨hwaiting, pending, hlookup⟩, hcount⟩ => ?_
  have hremaining : pending.retriesRemaining = count := by
    unfold remaining at hcount
    rw [hlookup] at hcount
    exact hcount
  -- As long as the request is as it is, it is due at the same time.
  have hlead : LeadsTo (threads.stateAt host ops)
      (fun state => state.At index nodeId submission .waiting ∧
        state.daemon.requests.pending.lookup submission.key = some pending)
      fun state => (state.Settled index nodeId submission ∨
          state.Answered index nodeId submission) ∨
        state.Held index nodeId submission ∧ remaining submission state < count := by
    -- With one attempt less, the request is nearer to its end.
    have hless : ∀ m pending', (threads.stateAt host ops m).At index nodeId submission .waiting →
        (threads.stateAt host ops m).daemon.requests.pending.lookup submission.key =
            some pending' →
          pending'.retriesRemaining < pending.retriesRemaining →
            (threads.stateAt host ops m).Held index nodeId submission ∧
              remaining submission (threads.stateAt host ops m) < count := by
      intro m pending' hwaiting hlookup hlt
      refine ⟨⟨hwaiting, pending', hlookup⟩, ?_⟩
      unfold remaining
      rw [hlookup, ← hremaining]
      exact hlt
    refine .of_helpful (fun m ⟨hwaiting, hlookup⟩ => ?_) (hfair.timers pending.deadline)
      fun m ⟨now, hdue, hop, hidle⟩ ⟨hwaiting, hlookup⟩ => ?_
    -- Any step keeps the request as it is, or makes it less.
    · rcases waiting_step hwaiting with hwaits | hanswered
      · rcases held_or_settled hwaits with ⟨-, pending', hlookup'⟩ | hsettled
        · obtain ⟨before, hbefore, hsame | hlt⟩ :=
            (hrun m).1.pending_step (ops m) hwaiting rfl hlookup'
          · rw [hlookup] at hbefore
            rw [hsame, ← Option.some.inj hbefore] at hlookup'
            exact .inl ⟨hwaits, hlookup'⟩
          · rw [hlookup] at hbefore
            rw [← Option.some.inj hbefore] at hlt
            exact .inr (.inr (hless (m + 1) pending' hwaits hlookup' hlt))
        · exact .inr (.inl (.inl hsettled))
      · exact .inr (.inl (.inr hanswered))
    -- The timers behind its deadline do make it less.
    · rcases waiting_step hwaiting with hwaits | hanswered
      · rcases held_or_settled hwaits with ⟨-, pending', hlookup'⟩ | hsettled
        · refine .inr (hless (m + 1) pending' hwaits hlookup' ?_)
          have hnext : ((threads.stateAt host ops m).step
              (.timers now)).1.daemon.requests.pending.lookup submission.key = some pending' := by
            rw [← hop]
            exact hlookup'
          exact (hrun m).1.due_step hlookup hdue hidle hnext
        · exact .inl (.inl hsettled)
      · exact .inl (.inr hanswered)
  exact hlead n ⟨hwaiting, hlookup⟩

/-- A client that waits is answered. -/
theorem waiting_leadsTo (hrun : host.RoutedRun ops) (hfair : host.Fair ops) :
    LeadsTo (threads.stateAt host ops) (At index nodeId submission .waiting)
      (Answered index nodeId submission) := by
  have hsettled : LeadsTo (threads.stateAt host ops)
      (fun state => state.Settled index nodeId submission ∨
        state.Answered index nodeId submission) (Answered index nodeId submission) :=
    (settled_leadsTo hrun hfair).or (.of_imp fun _ => id)
  intro n hwaiting
  rcases held_or_settled hwaiting with hheld | hdone
  · exact (held_leadsTo hrun hfair).trans hsettled n hheld
  · exact settled_leadsTo hrun hfair n hdone

/-- A client that has been answered stays as it is. -/
theorem answered_stays {n m : ℕ} (hnm : n ≤ m) {answer : Answer}
    (hanswered : (threads.stateAt host ops n).At index nodeId submission (.answered answer)) :
    (threads.stateAt host ops m).At index nodeId submission (.answered answer) := by
  obtain ⟨d, rfl⟩ := Nat.exists_eq_add_of_le hnm
  clear hnm
  induction d with
  | zero => exact hanswered
  | succ d ih =>
    rcases clients_step (ops (n + d)) ih with hsame | ⟨outcome, -, hnext⟩
    · exact hsame
    · exact hnext

/-- A client whose request has been refused stays as it is. -/
theorem refused_stays {n m : ℕ} (hnm : n ≤ m) {client : Client}
    (hclient : (threads.stateAt host ops n).clients[index]? = some client)
    (hrefused : client.submission = none) :
    (threads.stateAt host ops m).clients[index]? = some client := by
  obtain ⟨d, rfl⟩ := Nat.exists_eq_add_of_le hnm
  clear hnm
  induction d with
  | zero => exact hclient
  | succ d ih => exact clients_refused (ops (n + d)) ih hrefused

/-- Every run in which the requests are sent, and the request IDs do not run out. -/
theorem routedRun_start (mode : CanMode) (sessionId : UInt32) (hsession : sessionId ≠ 0)
    {ops : ℕ → HostOp}
    (hsucceeds : ∀ n, (threads.stateAt (start mode sessionId hsession) ops n).succeeds (ops n) =
      true)
    (hleft : ∀ n, (threads.stateAt (start mode sessionId hsession) ops n).submitted < 2^32 - 1) :
    (start mode sessionId hsession).RoutedRun ops := by
  intro n
  have hrouted := threads.stateAt_induction
    (C := fun host op => host.succeeds op = true ∧ (host.step op).1.submitted < 2^32 - 1)
    (fun host op (h : host.Routed) hop => h.step hop.1 hop.2)
    (routed_start mode sessionId hsession) (fun n => ⟨hsucceeds n, hleft (n + 1)⟩) n
  exact ⟨hrouted, hsucceeds n⟩

/-- In every run in which no request is rejected or fails to be sent, and the request IDs do not run
out, each client is answered once. A client is refused, and told so at once, exactly if its packet
is no request or its node is not online and assigned. Every other one gets a response from its node
that answers its own request, or learns that there is none, and behind that no table has an entry
for it. If the threads take their steps, it does get its answer. -/
theorem clients_answered (mode : CanMode) (sessionId : UInt32) (hsession : sessionId ≠ 0)
    {ops : ℕ → HostOp}
    (hsucceeds : ∀ n, (threads.stateAt (start mode sessionId hsession) ops n).succeeds (ops n) =
      true)
    (hleft : ∀ n, (threads.stateAt (start mode sessionId hsession) ops n).submitted < 2^32 - 1) :
    let states := threads.stateAt (start mode sessionId hsession) ops
    (∀ n nodeId request now, ops n = .connect nodeId request now →
      ∃ client, (states (n + 1)).clients = (states n).clients ++ [client] ∧
        client.nodeId = nodeId ∧
        (client.submission = none ↔ ¬ (states n).daemon.Submits nodeId request) ∧
        ∀ submission ∈ client.submission, submission.packet = { request with
          header := { request.header with
            sessionId := (states n).daemon.sessionId
            requestId := submission.requestId } }) ∧
    (∀ (n index : ℕ) (client : Client), (states n).clients[index]? = some client →
      (client.submission = none → ∃ exception, client.phase = .answered (.error exception) ∧
          Daemon.Refusal exception ∧ ∀ m ≥ n, (states m).clients[index]? = some client) ∧
      ∀ submission ∈ client.submission, ∀ answer : Answer, client.phase = .answered answer →
        (answer = .timedOut ∨ ∃ response, answer = .ok response ∧
          (kNodeResponseBaseCanId + client.nodeId, response) ∈ (states n).heard ∧
          Answers submission.packet response) ∧
        ∀ m ≥ n, (states m).clients[index]? = some client ∧
          (states m).daemon.Free submission.key) ∧
    ((start mode sessionId hsession).Fair ops → ∀ n index nodeId submission phase,
      (states n).At index nodeId submission phase →
        ∃ m ≥ n, (states m).Answered index nodeId submission) := by
  have hrun := routedRun_start mode sessionId hsession hsucceeds hleft
  refine ⟨fun n nodeId request now hop => ?_, fun n index client hclient => ⟨fun hrefused => ?_,
    fun submission hsubmission answer hanswer => ⟨?_, fun m hnm => ?_⟩⟩,
    fun hfair n index nodeId submission phase hat => ?_⟩
  · -- A client comes.
    have hconnect : threads.stateAt (start mode sessionId hsession) ops (n + 1) =
        (threads.stateAt (start mode sessionId hsession) ops n).connect nodeId request now := by
      show (step _ (ops n)).1 = _
      rw [hop]
      rfl
    rw [hconnect]
    exact (hrun n).1.clients_connect nodeId request now
  · -- A client has been refused.
    obtain ⟨exception, hphase, hrefusal⟩ :=
      (hrun n).1.refused client (List.mem_of_getElem? hclient) hrefused
    exact ⟨exception, hphase, hrefusal, fun m hnm => refused_stays hnm hclient hrefused⟩
  · -- A client has got its answer.
    have hstands := (hrun n).1.stands client (List.mem_of_getElem? hclient) submission hsubmission
    rw [hanswer] at hstands
    cases hstands with
    | timedOut => exact .inl rfl
    | replied response hheard hanswers => exact .inr ⟨response, rfl, hheard, hanswers⟩
  · -- It keeps it, and nothing is left of its request.
    obtain ⟨nodeId, submission', phase⟩ := client
    obtain rfl : submission' = some submission := hsubmission
    obtain rfl : phase = .answered answer := hanswer
    have hlater := answered_stays hnm hclient
    exact ⟨hlater, (hrun m).1.free_of_answered hlater⟩
  · -- A client gets its answer in the end.
    have hstands := (hrun n).1.stands _ (List.mem_of_getElem? hat) submission rfl
    dsimp only at hstands
    cases hstands with
    | sending =>
      exact ((sending_leadsTo hrun hfair).trans (waiting_leadsTo hrun hfair)) n hat
    | waiting => exact waiting_leadsTo hrun hfair n hat
    | timedOut => exact ⟨n, le_rfl, _, hat⟩
    | replied => exact ⟨n, le_rfl, _, hat⟩

/-! ## A `PING` that is answered, and one that is refused -/

/-- A list of operations, and then nothing but a client that looks for an event. -/
def endlessly (ops : List HostOp) (n : ℕ) : HostOp := ops[n]?.getD (.nextEvent 1)

/-- The states of a list of operations are those of its runs, if there is no event at the end. -/
theorem stateAt_endlessly {host : Host} {ops : List HostOp}
    (hquiet : (threads.run host ops).daemon.eventQueues.lookup 1 = none) (n : ℕ) :
    threads.stateAt host (endlessly ops) n = threads.run host (ops.take n) := by
  induction n with
  | zero => rfl
  | succ n ih =>
    show (threads.step _ _).1 = _
    rw [ih]
    unfold endlessly
    by_cases hlt : n < ops.length
    · rw [List.getElem?_eq_getElem hlt, Option.getD_some, List.take_succ_eq_append_getElem hlt,
        threads.run_concat]
    · rw [List.getElem?_eq_none (not_lt.1 hlt), Option.getD_none, List.take_of_length_le
        (not_lt.1 hlt), List.take_of_length_le (le_trans (not_lt.1 hlt) (Nat.le_succ n))]
      -- The client finds no event.
      have hnone : (threads.run host ops).daemon.nextEvent 1 =
          (none, (threads.run host ops).daemon) := by
        unfold Daemon.nextEvent
        rw [hquiet]
      show { threads.run host ops with
        daemon := ((threads.run host ops).daemon.nextEvent 1).2 } = threads.run host ops
      rw [hnone]

/-- How board 1 answers the `PING`. -/
def pingResponse : Packet :=
  ⟨{ messageType := .response, command := Command.ping, sessionId := 1, requestId := 1,
     crc := 12340319 }, []⟩

/-- The `PING` is sent, board 1 answers it, and the client takes the answer. -/
def answeredOps : List HostOp :=
  pingOps ++ .client 0 .sent :: ((nodeMessages 0x581 3 pingResponse).map (.hear · 4000000) ++
    [.client 0 .sent])

/-- Nothing is left of the `PING` that is answered. -/
theorem clients_answered_ping :
    (threads.stateAt (start .flexibleDataRate 1 (by decide)) (endlessly answeredOps)
      answeredOps.length).daemon.Free submittedPing.key := by
  have hquiet : (threads.run (start .flexibleDataRate 1 (by decide))
      answeredOps).daemon.eventQueues.lookup 1 = none := by
    decide +kernel
  have hstates := stateAt_endlessly hquiet
  have hsent : ∀ n < answeredOps.length, (threads.run (start .flexibleDataRate 1 (by decide))
      (answeredOps.take n)).succeeds (endlessly answeredOps n) = true := by
    decide +kernel
  have hfew : ∀ n < answeredOps.length + 1, (threads.run (start .flexibleDataRate 1 (by decide))
      (answeredOps.take n)).submitted < 2^32 - 1 := by
    decide +kernel
  have hclient : (threads.run (start .flexibleDataRate 1 (by decide))
      (answeredOps.take answeredOps.length)).clients[0]? =
        some ⟨1, some submittedPing, .answered (.ok pingResponse)⟩ := by
    decide +kernel
  rw [← hstates] at hclient
  refine (((clients_answered .flexibleDataRate 1 (by decide) (fun n => ?_) fun n => ?_).2.1
    answeredOps.length 0 _ hclient).2 submittedPing rfl _ rfl).2 answeredOps.length le_rfl |>.2
  · rw [hstates]
    by_cases hlt : n < answeredOps.length
    · exact hsent n hlt
    · unfold endlessly
      rw [List.getElem?_eq_none (not_lt.1 hlt)]
      rfl
  · rw [hstates, List.take_eq_take_min]
    exact hfew _ (Nat.lt_succ_of_le (Nat.min_le_right n answeredOps.length))

/-- A client whose node is not there gets neither a response nor the news that there is none. -/
theorem offline_client_refused :
    ¬ ∀ (mode : CanMode) (sessionId : UInt32) (hsession : sessionId ≠ 0) (ops : List HostOp),
      threads.Along (fun host op => host.succeeds op = true) (start mode sessionId hsession) ops →
      (threads.run (start mode sessionId hsession) ops).submitted < 2^32 - 1 →
      ∀ client ∈ (threads.run (start mode sessionId hsession) ops).clients,
        ∀ answer : Answer, client.phase = .answered answer →
          answer = .timedOut ∨ ∃ response, answer = .ok response := by
  intro h
  have hanswer := h .flexibleDataRate 1 (by decide)
    [.connect 1 ⟨{ command := Command.ping }, []⟩ 0] (by decide +kernel) (by decide +kernel)
    ⟨1, none, .answered (.error (.runtimeError "目标节点尚未发现或已经离线"))⟩ (by decide +kernel) _ rfl
  rcases hanswer with htimedOut | ⟨response, hok⟩
  · cases htimedOut
  · cases hok

end Host

end RemoteBSP.Toolbusd
