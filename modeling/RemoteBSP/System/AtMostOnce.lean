import RemoteBSP.Firmware.Node
import RemoteBSP.Toolbusd.NodeIds

/-!
# The execution of requests

The daemon and one node, connected by a channel of whole packets. The channel may lose, delay and
repeat: a packet that the daemon has sent may reach the node at any time later, any number of times
or never, and any message at all may reach the daemon. The daemon sends a request when its client
does, and again when no response comes in time, with the same ID, by which the node finds it in its
cache.

A request with a side effect is executed at most once as long as its own copies do not come too
late, that is, fewer responses than the cache has places have been put there since it was executed
(`executed_at_most_once`). Behind that, the node executes the request again
(`late_retry_executes_twice`). A copy that does not count as an execution calls nothing of the board
but `can_send` (`deliver_uncounted`).
-/

namespace RemoteBSP.System

open Firmware Toolbusd

/-- A packet on its way to the node. -/
structure Copy where
  /-- The client's request that is sent, by its number. -/
  submission : Option ℕ
  /-- The identifier that the copy is sent under. -/
  canId : UInt32
  /-- The encoded packet. -/
  bytes : List UInt8

/-- The daemon, the node and the channel, and what has happened to the requests so far. -/
structure Link (config : CoreConfig) (W : Type) where
  /-- The daemon as it runs. -/
  daemon : Daemon
  /-- The node as it runs. -/
  node : Core config W
  /-- The packets that the daemon has ever sent. -/
  sent : List Copy
  /-- The clients' requests, in the order of their submission, and where they are sent to. -/
  submissions : List (Packet × UInt32)
  /-- The number of the request that got a session and an ID last. -/
  owner : Map UInt64 ℕ
  /-- The requests that the node has executed, each with the number of responses that had been put
  into the cache before its own. -/
  executions : List (ℕ × ℕ)
  /-- All that has been put into the cache. -/
  insertions : List CacheEntry

/-- What happens to the daemon, the channel and the node. -/
inductive LinkOp (W : Type)
  /-- A client's request is submitted for a node. -/
  | submit (nodeId : UInt32) (request : Packet) (now : ℤ)
  /-- A request that has been submitted is sent. -/
  | send (submission : ℕ)
  /-- A client's request is not admitted to the bus. -/
  | reject (submission : ℕ)
  /-- A client gets its response, or learns that there is none. -/
  | finish (requestKey : UInt64)
  /-- The timers of the daemon run, and repeat or give up requests. -/
  | timers (now : ℤ)
  /-- The daemon looks for nodes. -/
  | discover
  /-- A message reaches the daemon from the bus. -/
  | hear (message : CanMessage) (now : ℤ)
  /-- A packet that has been sent reaches the node. -/
  | deliver (copy : ℕ)
  /-- `rbsp_core_poll`, in the main loop of the node. -/
  | poll
  /-- The world of the node changes by itself. -/
  | elapse (world : W)

namespace Link

variable {config : CoreConfig} {W : Type}

/-- A daemon and a node that have just started. -/
def start (mode : CanMode) (sessionId : UInt32) (hsession : sessionId ≠ 0) (core : Core config W) :
    Link config W :=
  ⟨.create mode sessionId hsession, core, [], [], ∅, [], []⟩

/-- The daemon hands a packet to the bus, which carries a copy of it from then on. -/
def transmit (link : Link config W) (submission : Option ℕ) (packet : Packet) (canId : UInt32) :
    Link config W :=
  { link with
    daemon := (link.daemon.sendPacket packet canId true).2
    sent := match encode packet with
      | .ok bytes => link.sent ++ [⟨submission, canId, bytes⟩]
      | .error _ => link.sent }

/-- A client's request is submitted, and counted if it gets an ID. -/
def submit (link : Link config W) (nodeId : UInt32) (request : Packet) (now : ℤ) : Link config W :=
  match link.daemon.submitRequest nodeId request now with
  | (.error _, daemon) => { link with daemon := daemon }
  | (.ok submission, daemon) =>
    { link with
      daemon := daemon
      owner := link.owner.insert (RequestManager.key submission.packet.header.sessionId
        submission.packet.header.requestId) link.submissions.length
      submissions := link.submissions ++ [(submission.packet, kNodeRequestBaseCanId + nodeId)] }

/-- The daemon sends a request again. -/
def retransmit (link : Link config W) (retry : Packet × UInt32) : Link config W :=
  link.transmit (link.owner.lookup (RequestManager.key retry.1.header.sessionId
    retry.1.header.requestId)) retry.1 retry.2

/-- The timers of the daemon run, and the repetitions are handed to the bus. -/
def timers (link : Link config W) (now : ℤ) : Link config W :=
  (link.daemon.processRequestTimers now).1.foldl retransmit
    { link with daemon := (link.daemon.processRequestTimers now).2 }

/-- The daemon sends what an operation of its own wants to have sent. -/
def control (link : Link config W) (result : Except DaemonError (Option Packet) × Daemon) :
    Link config W :=
  match result with
  | (.ok (some packet), daemon) =>
    { link with daemon := daemon }.transmit none packet kBroadcastRequestCanId
  | (_, daemon) => { link with daemon := daemon }

/-- Whether the node executes a request. -/
def executes (board : Board W) (core : Core config W) (request : Request) : Bool :=
  (core.findCache request).isNone && (core.execute board request).isSome

/-- A copy of a packet reaches the node, which may execute its request. -/
def deliver (board : Board W) (link : Link config W) (copy : Copy) : Link config W :=
  if !link.node.listens copy.canId ∨ copy.bytes.length > config.maxPacketSize then link
  else
    match decodeRequest copy.bytes with
    | none => link
    | some request =>
      { link with
        node := (link.node.processRequest board request).2
        executions := match copy.submission with
          | some submission =>
            if executes board link.node request then
              link.executions ++ [(submission, link.insertions.length)]
            else link.executions
          | none => link.executions
        insertions := link.insertions ++ (link.node.insertedEntry board request).toList }

/-- The daemon, the channel and the node, as a machine. -/
def system (config : CoreConfig) (board : Board W) : Machine (Link config W) (LinkOp W) Unit where
  step link op :=
    let next : Link config W := match op with
      | .submit nodeId request now => link.submit nodeId request now
      | .send submission =>
        match link.submissions[submission]? with
        | some (packet, canId) => link.transmit (some submission) packet canId
        | none => link
      | .reject submission =>
        match link.submissions[submission]? with
        | some (packet, _) => { link with
            daemon := (link.daemon.rejectRequest ⟨packet.header.requestId, packet⟩).2 }
        | none => link
      | .finish requestKey => { link with daemon := (link.daemon.finishRequest requestKey).2 }
      | .timers now => link.timers now
      | .discover =>
        let (request, daemon) := link.daemon.sendDiscovery
        link.control (request.map some, daemon)
      | .hear message now => link.control (link.daemon.receive message now)
      | .deliver copy =>
        match link.sent[copy]? with
        | some copy => link.deliver board copy
        | none => link
      | .poll => { link with node := link.node.poll board }
      | .elapse world => { link with node := { link.node with world := world } }
    (next, ())

/-- The operation delivers a copy of this request, which has been executed, and since then as many
responses as the cache has places have been put there. -/
def late (submission : ℕ) (link : Link config W) : LinkOp W → Bool
  | .deliver copy =>
    match link.sent[copy]? with
    | some ⟨some copied, _, _⟩ => copied = submission ∧
        link.executions.any fun execution => execution.1 = submission ∧
          execution.2 + config.cacheEntries < link.insertions.length
    | _ => false
  | _ => false

/-- How often a request has been executed. -/
def timesExecuted (link : Link config W) (submission : ℕ) : ℕ :=
  link.executions.countP fun execution => execution.1 = submission

/-! ## What holds in every run -/

/-- A request that has been executed, and that has a side effect, is in the log of the cache. -/
def Logged (link : Link config W) (packet : Packet) (position : ℕ) : Prop :=
  ∃ bytes request response, encode packet = .ok bytes ∧ decodeRequest bytes = some request ∧
    link.insertions[position]? = some (Core.cacheEntry request response)

/-- What holds in every run in which no copy of this request is late, whatever becomes of the copies
of the others. -/
structure Sound (link : Link config W) (target : ℕ) : Prop where
  /-- A pending request has been submitted, and owns its session and its ID. -/
  pending : ∀ requestKey pending, link.daemon.requests.pending.lookup requestKey = some pending →
    requestKey = RequestManager.key pending.packet.header.sessionId
        pending.packet.header.requestId ∧
      ∃ submission canId, link.owner.lookup requestKey = some submission ∧
        link.submissions[submission]? = some (pending.packet, canId)
  /-- A copy of a request carries the packet that was submitted. -/
  sent : ∀ copy ∈ link.sent, ∀ submission ∈ copy.submission, ∃ packet canId,
    link.submissions[submission]? = some (packet, canId) ∧ encode packet = .ok copy.bytes
  /-- The cache holds the last responses. -/
  cache : link.node.cache.Represents link.insertions
  /-- An executed request has been submitted, and is in the log of the cache. -/
  logged : ∀ execution ∈ link.executions, ∃ packet canId,
    link.submissions[execution.1]? = some (packet, canId) ∧
      (sideEffecting packet.header.command = true → link.Logged packet execution.2)
  /-- If the request has a side effect, it has not been executed twice. -/
  once : ∀ packet canId, link.submissions[target]? = some (packet, canId) →
    sideEffecting packet.header.command = true → link.timesExecuted target ≤ 1

variable {link : Link config W} {target : ℕ}

/-- Nothing has been submitted, sent or executed at the start. -/
theorem sound_start (mode : CanMode) (sessionId : UInt32) (hsession : sessionId ≠ 0)
    {core : Core config W} (hcache : core.cache = .empty) :
    (start mode sessionId hsession core).Sound target where
  pending _ _ h := absurd h nofun
  sent _ h := absurd h List.not_mem_nil
  cache := by
    show core.cache.Represents []
    rw [hcache]
    exact RingCache.represents_empty
  logged _ h := absurd h List.not_mem_nil
  once _ _ _ _ := Nat.zero_le _

/-- The daemon does something that makes no request pending. -/
theorem Sound.daemon (h : link.Sound target) {daemon : Daemon}
    (hkeeps : link.daemon.KeepsPending daemon) : { link with daemon := daemon }.Sound target where
  pending requestKey pending' hpending := by
    obtain ⟨pending, hlookup, hpacket⟩ := hkeeps requestKey pending' hpending
    rw [hpacket]
    exact h.pending requestKey pending hlookup
  sent := h.sent
  cache := h.cache
  logged := h.logged
  once := h.once

/-- The node does something that leaves its cache alone. -/
theorem Sound.node (h : link.Sound target) {core : Core config W}
    (hcache : core.cache = link.node.cache) : { link with node := core }.Sound target where
  pending := h.pending
  sent := h.sent
  cache := by
    show core.cache.Represents link.insertions
    rw [hcache]
    exact h.cache
  logged := h.logged
  once := h.once

/-- Sending a packet makes no request pending. -/
theorem keepsPending_sendPacket (daemon : Daemon) (packet : Packet) (canId : UInt32)
    (admitted : Bool) : daemon.KeepsPending (daemon.sendPacket packet canId admitted).2 := by
  unfold Daemon.sendPacket
  split
  · exact .of_eq rfl
  · split <;> exact .of_eq rfl

/-- The daemon sends a packet that is no request of a client, or the packet of the request. -/
theorem Sound.transmit (h : link.Sound target) {submission : Option ℕ} {packet : Packet}
    (canId : UInt32)
    (hsubmission : ∀ i ∈ submission, ∃ canId, link.submissions[i]? = some (packet, canId)) :
    (link.transmit submission packet canId).Sound target := by
  have hdaemon := h.daemon (keepsPending_sendPacket link.daemon packet canId true)
  refine ⟨hdaemon.pending, fun copy hcopy i hi => ?_, h.cache, h.logged, h.once⟩
  unfold Link.transmit at hcopy
  cases hencode : encode packet with
  | error exception =>
    rw [hencode] at hcopy
    exact h.sent copy hcopy i hi
  | ok bytes =>
    rw [hencode] at hcopy
    rcases List.mem_append.1 hcopy with hold | hnew
    · exact h.sent copy hold i hi
    · obtain rfl := List.mem_singleton.1 hnew
      obtain ⟨canId, hpacket⟩ := hsubmission i hi
      exact ⟨packet, canId, hpacket, hencode⟩

/-- A request has been submitted before the others that come behind it. -/
theorem Sound.submission_lt (h : link.Sound target) {execution : ℕ × ℕ}
    (hmem : execution ∈ link.executions) : execution.1 < link.submissions.length := by
  obtain ⟨packet, canId, hpacket, -⟩ := h.logged execution hmem
  exact (List.getElem?_eq_some_iff.1 hpacket).1

/-- A submission keeps the link sound, as its ID is new. -/
theorem Sound.submit (h : link.Sound target) (nodeId : UInt32) (request : Packet) (now : ℤ) :
    (link.submit nodeId request now).Sound target := by
  have hspec := link.daemon.submitRequest_pending nodeId request now
  unfold Link.submit
  cases hsubmit : link.daemon.submitRequest nodeId request now with
  | mk result daemon =>
  rw [hsubmit] at hspec
  cases result with
  -- A refused request is no submission.
  | error exception => exact h.daemon hspec
  | ok submission =>
  obtain ⟨new, hnew, hpending⟩ := hspec
  dsimp only at hpending
  -- The other submissions keep their places.
  have hold : ∀ (i : ℕ) (x : Packet × UInt32), link.submissions[i]? = some x →
      (link.submissions ++ [(submission.packet, kNodeRequestBaseCanId + nodeId)])[i]? = some x := by
    intro i x hx
    rw [List.getElem?_append_left (List.getElem?_eq_some_iff.1 hx).1]
    exact hx
  refine ⟨fun requestKey pending hlookup => ?_, fun copy hcopy i hi => ?_, h.cache,
    fun execution hmem => ?_, fun packet canId hpacket hside => ?_⟩
  · -- The new request owns its ID. The others have not lost theirs, since it is not theirs.
    dsimp only at hlookup ⊢
    rw [hpending, Map.lookup_insert_ite] at hlookup
    by_cases heq : requestKey = RequestManager.key submission.packet.header.sessionId
        submission.packet.header.requestId
    · rw [if_pos heq] at hlookup
      obtain rfl := Option.some.inj hlookup
      rw [hnew]
      refine ⟨heq, link.submissions.length, kNodeRequestBaseCanId + nodeId, ?_, ?_⟩
      · rw [Map.lookup_insert_ite, if_pos heq]
      · rw [List.getElem?_concat_length]
    · rw [if_neg heq] at hlookup
      obtain ⟨hkey, i, canId, howner, hpacket⟩ := h.pending requestKey pending hlookup
      refine ⟨hkey, i, canId, ?_, hold i _ hpacket⟩
      rw [Map.lookup_insert_ite, if_neg heq]
      exact howner
  · obtain ⟨packet, canId, hpacket, hencode⟩ := h.sent copy hcopy i hi
    exact ⟨packet, canId, hold i _ hpacket, hencode⟩
  · obtain ⟨packet, canId, hpacket, hlogged⟩ := h.logged execution hmem
    exact ⟨packet, canId, hold _ _ hpacket, hlogged⟩
  · show link.timesExecuted target ≤ 1
    by_cases hlt : target < link.submissions.length
    · have hpacket : (link.submissions ++ _)[target]? = some (packet, canId) := hpacket
      rw [List.getElem?_append_left hlt] at hpacket
      exact h.once packet canId hpacket hside
    · -- A request that has just been submitted has not been executed.
      have hzero : link.timesExecuted target = 0 := by
        rw [timesExecuted, List.countP_eq_zero]
        intro execution hmem heq
        have hexecuted := h.submission_lt hmem
        have heq := of_decide_eq_true heq
        omega
      omega

/-- The response of a request that the node executes, and that has a side effect, is put into the
cache. -/
theorem insertedEntry_of_executes {board : Board W} {core : Core config W} {request : Request}
    (hexecutes : executes board core request = true)
    (hside : sideEffecting request.command = true) :
    ∃ response, core.insertedEntry board request = some (Core.cacheEntry request response) := by
  obtain ⟨hnone, hsome⟩ := Bool.and_eq_true_iff.1 hexecutes
  obtain ⟨executed, hexecute⟩ := Option.isSome_iff_exists.1 hsome
  refine ⟨executed.response, ?_⟩
  unfold Core.insertedEntry
  rw [Option.isNone_iff_eq_none.1 hnone, hexecute]
  dsimp only
  rw [if_neg (not_lt.2 (Core.length_execute_le hexecute hside))]

/-- A request that the node does not execute calls nothing of the board but `can_send`, for the
frames of the response in the cache, and changes nothing else of the node but the transfer ID. -/
theorem processRequest_of_not_executes (board : Board W) (core : Core config W)
    {request : Request} (hnot : executes board core request = false) :
    (core.processRequest board request).2 = core ∨ ∃ frames, (core.processRequest board request).2 =
      { core with
        nextTransferId := Core.transferIdAfter core.nextTransferId
        world := (sendFrames board.hal core.world frames).2 } := by
  unfold executes at hnot
  unfold Core.processRequest
  cases hcache : core.findCache request with
  | some cached =>
    dsimp only
    split
    · exact .inl rfl
    · exact .inr ⟨_, rfl⟩
  | none =>
    rw [hcache, Option.isNone_none, Bool.true_and] at hnot
    rw [Option.isNone_iff_eq_none.1 (Option.isSome_eq_false_iff.1 hnot)]
    exact .inl rfl

/-- A copy of a client's request that reaches the node, and does not count as an execution, calls
nothing of the board but `can_send`. -/
theorem deliver_uncounted (board : Board W) (link : Link config W) {copy : Copy}
    (hsubmission : copy.submission ≠ none)
    (huncounted : (link.deliver board copy).executions = link.executions) :
    (link.deliver board copy).node = link.node ∨ ∃ frames, (link.deliver board copy).node =
      { link.node with
        nextTransferId := Core.transferIdAfter link.node.nextTransferId
        world := (sendFrames board.hal link.node.world frames).2 } := by
  obtain ⟨submission, hsome⟩ := Option.ne_none_iff_exists'.1 hsubmission
  unfold Link.deliver at huncounted ⊢
  split at huncounted
  · exact .inl (by rw [if_pos ‹_›])
  · next hlistens =>
    rw [if_neg hlistens]
    cases hdecode : decodeRequest copy.bytes with
    | none => exact .inl rfl
    | some request =>
      rw [hdecode, hsome] at huncounted
      dsimp only at huncounted ⊢
      apply processRequest_of_not_executes board link.node
      refine Bool.eq_false_iff.2 fun hexecutes => ?_
      rw [if_pos hexecutes] at huncounted
      exact absurd (List.append_right_eq_self.1 huncounted) (List.cons_ne_nil _ _)

/-- A request in the log is found in the cache unless it is too old, and is not executed again. -/
theorem Sound.not_executes (h : link.Sound target) {board : Board W} {packet : Packet}
    {position : ℕ} (hlogged : link.Logged packet position)
    (hrecent : link.insertions.length ≤ position + config.cacheEntries) {bytes : List UInt8}
    {request : Request} (hencode : encode packet = .ok bytes)
    (hdecode : decodeRequest bytes = some request) :
    executes board link.node request = false := by
  obtain ⟨bytes', request', response, hencode', hdecode', hentry⟩ := hlogged
  obtain rfl := Except.ok.inj (hencode'.symm.trans hencode)
  obtain rfl := Option.some.inj (hdecode'.symm.trans hdecode)
  have hfind : (link.node.findCache request').isSome = true :=
    h.cache.find_isSome hentry hrecent (decide_eq_true ⟨rfl, rfl⟩)
  rw [executes, Option.isNone_eq_false_iff.2 hfind, Bool.false_and]

/-- A request that the node processes keeps the link sound, if it is not late. -/
theorem Sound.process (h : link.Sound target) (board : Board W) (request : Request) :
    { link with
      node := (link.node.processRequest board request).2
      insertions :=
        link.insertions ++ (link.node.insertedEntry board request).toList }.Sound target where
  pending := h.pending
  sent := h.sent
  cache := by
    dsimp only
    rw [Core.cache_processRequest]
    cases link.node.insertedEntry board request with
    | none =>
      rw [Option.toList_none, List.append_nil]
      exact h.cache
    | some entry => exact h.cache.insert entry
  logged execution hmem := by
    obtain ⟨packet, canId, hpacket, hlogged⟩ := h.logged execution hmem
    refine ⟨packet, canId, hpacket, fun hside => ?_⟩
    obtain ⟨bytes, request, response, hencode, hdecode, hentry⟩ := hlogged hside
    refine ⟨bytes, request, response, hencode, hdecode, ?_⟩
    dsimp only
    rw [List.getElem?_append_left (List.getElem?_eq_some_iff.1 hentry).1]
    exact hentry
  once := h.once

/-- The execution of a request is recorded. -/
theorem Sound.execute (h : link.Sound target) {submission position : ℕ} {packet : Packet}
    {canId : UInt32}
    (hpacket : link.submissions[submission]? = some (packet, canId))
    (hlogged : sideEffecting packet.header.command = true → link.Logged packet position)
    (hfirst : submission = target → sideEffecting packet.header.command = true →
      link.timesExecuted submission = 0) :
    { link with executions := link.executions ++ [(submission, position)] }.Sound target where
  pending := h.pending
  sent := h.sent
  cache := h.cache
  logged execution hmem := by
    rcases List.mem_append.1 hmem with hold | hnew
    · exact h.logged execution hold
    · obtain rfl := List.mem_singleton.1 hnew
      exact ⟨packet, canId, hpacket, hlogged⟩
  once packet' canId' hpacket' hside := by
    have hcount : Link.timesExecuted
        { link with executions := link.executions ++ [(submission, position)] } target =
          link.timesExecuted target + if submission = target then 1 else 0 := by
      rw [timesExecuted, List.countP_append, List.countP_singleton, timesExecuted]
      simp only [decide_eq_true_eq]
    rw [hcount]
    by_cases heq : submission = target
    · subst heq
      obtain ⟨rfl, -⟩ := Prod.mk.inj (Option.some.inj (hpacket.symm.trans hpacket'))
      rw [if_pos rfl, hfirst rfl hside]
    · rw [if_neg heq]
      exact h.once packet' canId' hpacket' hside

/-- A packet reaches the node, which is no late copy of the request. -/
theorem Sound.deliver (h : link.Sound target) (board : Board W) {copy : Copy}
    (hcopy : copy ∈ link.sent)
    (hlate : copy.submission = some target → ∀ execution ∈ link.executions,
      execution.1 = target → link.insertions.length ≤ execution.2 + config.cacheEntries) :
    (link.deliver board copy).Sound target := by
  unfold Link.deliver
  -- The node does not listen, or the packet is too long for it.
  by_cases hignored : (!link.node.listens copy.canId) = true ∨
      copy.bytes.length > config.maxPacketSize
  · rw [if_pos hignored]
    exact h
  rw [if_neg hignored]
  cases hdecode : decodeRequest copy.bytes with
  | none => exact h
  -- The request is processed, whether or not it is executed.
  | some request =>
  have hprocess := h.process board request
  cases hsubmission : copy.submission with
  | none => exact hprocess
  | some submission =>
  dsimp only
  cases hexecutes : executes board link.node request with
  | false =>
    rw [if_neg Bool.false_ne_true]
    exact hprocess
  | true =>
    rw [if_pos rfl]
    -- It is the encoding of a submission of the link.
    obtain ⟨packet, canId, hpacket, hencode⟩ := h.sent copy hcopy submission hsubmission
    have hcommand : request.command = packet.header.command :=
      (command_decodeRequest hdecode).trans (getU16_encode hencode)
    refine hprocess.execute hpacket (fun hside => ?_) fun htarget hside => ?_
    · -- Its response is put into the cache.
      obtain ⟨response, hentry⟩ := insertedEntry_of_executes hexecutes (hcommand ▸ hside)
      refine ⟨copy.bytes, request, response, hencode, hdecode, ?_⟩
      dsimp only
      rw [hentry, Option.toList_some, List.getElem?_concat_length]
    · -- Had it been executed before, the node would find it in its cache.
      rw [timesExecuted, List.countP_eq_zero]
      intro execution hmem heq
      have heq := of_decide_eq_true heq
      obtain ⟨packet', canId', hpacket', hlogged⟩ := h.logged execution hmem
      rw [heq] at hpacket'
      obtain ⟨rfl, -⟩ := Prod.mk.inj (Option.some.inj (hpacket.symm.trans hpacket'))
      have hrecent := hlate (htarget ▸ hsubmission) execution hmem (heq.trans htarget)
      rw [h.not_executes (hlogged hside) hrecent hencode hdecode] at hexecutes
      exact absurd hexecutes Bool.false_ne_true

/-- The timers of the daemon send requests again. -/
theorem Sound.timers (h : link.Sound target) (now : ℤ) : (link.timers now).Sound target := by
  have hfold : ∀ (retries : List (Packet × UInt32)) (current : Link config W),
      current.Sound target → current.owner = link.owner → current.submissions = link.submissions →
      (∀ retry ∈ retries, retry ∈ (link.daemon.processRequestTimers now).1) →
      (retries.foldl retransmit current).Sound target := by
    intro retries
    induction retries with
    | nil => exact fun current hcurrent _ _ _ => hcurrent
    | cons retry retries ih =>
      intro current hcurrent howner hsubmissions hmem
      refine ih _ ?_ howner hsubmissions fun r hr => hmem r (List.mem_cons_of_mem _ hr)
      refine hcurrent.transmit _ fun i hi => ?_
      -- The request is pending, so it owns its ID.
      obtain ⟨requestKey, pending, hpending, hpacket⟩ :=
        Daemon.retry_pending (hmem retry List.mem_cons_self)
      obtain ⟨hkey, submission, canId, hlookup, hsubmitted⟩ := h.pending requestKey pending hpending
      rw [howner, hpacket, ← hkey, hlookup] at hi
      obtain rfl := Option.some.inj hi
      rw [hsubmissions, hpacket]
      exact ⟨canId, hsubmitted⟩
  exact hfold _ _ (h.daemon (Daemon.keepsPending_timers link.daemon now)) rfl rfl fun _ => id

/-- What the daemon sends for itself keeps the link sound, as it belongs to no client. -/
theorem Sound.control (h : link.Sound target) {result : Except DaemonError (Option Packet) × Daemon}
    (hkeeps : link.daemon.KeepsPending result.2) : (link.control result).Sound target := by
  unfold Link.control
  split
  · exact (h.daemon hkeeps).transmit _ fun i hi => absurd hi (Option.not_mem_none i)
  · exact h.daemon hkeeps

/-- One operation that delivers no late copy of the request. -/
theorem Sound.step (h : link.Sound target) (board : Board W) (op : LinkOp W)
    (hlate : link.late target op = false) :
    ((system config board).step link op).1.Sound target := by
  -- Each operation is one of the daemon, of the bus or of the node, with its own lemma.
  cases op with
  | submit nodeId request now => exact h.submit nodeId request now
  | send submission =>
    simp only [system]
    cases hsubmission : link.submissions[submission]? with
    | none => exact h
    | some submitted =>
      refine h.transmit _ fun i hi => ?_
      obtain rfl := Option.some.inj hi
      exact ⟨_, hsubmission⟩
  | reject submission =>
    simp only [system]
    cases link.submissions[submission]? with
    | none => exact h
    | some submitted => exact h.daemon (.of_erase rfl)
  | finish requestKey =>
    refine h.daemon (.of_eq ?_)
    unfold Daemon.finishRequest
    split <;> rfl
  | timers now => exact h.timers now
  | discover =>
    show (link.control (link.daemon.sendDiscovery.1.map some,
      link.daemon.sendDiscovery.2)).Sound target
    exact h.control (.of_eq rfl)
  | hear message now => exact h.control (Daemon.keepsPending_receive link.daemon message now)
  -- Only a delivery can execute a request, and this one is not late for it.
  | deliver copy =>
    simp only [system]
    cases hcopy : link.sent[copy]? with
    | none => exact h
    | some copy' =>
      refine h.deliver board (List.mem_of_getElem? hcopy) fun hi execution hmem heq => ?_
      obtain ⟨submission, canId, bytes⟩ := copy'
      obtain rfl : submission = some target := hi
      unfold late at hlate
      dsimp only at hlate
      rw [hcopy] at hlate
      dsimp only at hlate
      by_contra hlt
      refine of_decide_eq_false hlate ⟨rfl, List.any_eq_true.2 ⟨execution, hmem, ?_⟩⟩
      exact decide_eq_true ⟨heq, not_le.1 hlt⟩
  | poll => exact h.node (Core.cache_poll board link.node)
  | elapse world => exact h.node rfl

end Link

/-- A request with a side effect is executed at most once in every run in which none of its own
copies reaches the node after as many further responses have been put into the node's cache, since
it was executed, as that has places. The copies of other requests may be as late as they like. -/
theorem executed_at_most_once {config : CoreConfig} {W : Type} (board : Board W) {world : W}
    {core : Core config W} (hinit : Core.init config board world = some core) (mode : CanMode)
    (sessionId : UInt32) (hsession : sessionId ≠ 0) (ops : List (LinkOp W)) {submission : ℕ}
    (hintime : (Link.system config board).Along (fun link op => link.late submission op = false)
      (Link.start mode sessionId hsession core) ops)
    {packet : Packet} {canId : UInt32}
    (hpacket : ((Link.system config board).run (Link.start mode sessionId hsession core)
      ops).submissions[submission]? = some (packet, canId))
    (hside : sideEffecting packet.header.command = true) :
    ((Link.system config board).run (Link.start mode sessionId hsession core) ops).timesExecuted
      submission ≤ 1 := by
  have hsound := (Link.system config board).run_induction_of
    (fun link op (h : link.Sound submission) hlate => h.step board op hlate)
    (Link.sound_start mode sessionId hsession (Core.cache_init hinit)) hintime
  exact hsound.once packet canId hpacket hside

/-! ## A retry, in time and late -/

/-- A client's request to create an object for the pin 5, an output. -/
def createRequest : Packet := ⟨{ command := Command.gpioCreate }, [5, 0, 1, 0]⟩

/-- A client's request to write the first object. -/
def writeRequest (value : UInt8) : Packet :=
  ⟨{ command := Command.gpioWrite, objectId := 1 }, [value]⟩

/-- Board 1 is discovered and gets the node ID 1. -/
def joinRun : List (LinkOp Bench) :=
  [.discover, .deliver 0] ++
    (nodeMessages 0x481 1 (discoveryResponse 1 0x80000000)).map (.hear · 1000000) ++
    [.deliver 1] ++ (nodeMessages 0x501 3 (heartbeat 1 1)).map (.hear · 2000000)

/-- A client's request is submitted, sent and executed. It is the `index`-th one, and the packet
behind the two by which the node has joined. -/
def requestRun (index : ℕ) (request : Packet) : List (LinkOp Bench) :=
  [.submit 1 request 3000000, .send index, .deliver (index + 2)]

/-- The responses to three writes get lost. The first one is sent again, and reaches the node behind
the two others. -/
def lateRun : List (LinkOp Bench) :=
  joinRun ++ requestRun 0 createRequest ++ requestRun 1 (writeRequest 1) ++
    requestRun 2 (writeRequest 0) ++ requestRun 3 (writeRequest 0) ++
    [.timers 800000000, .deliver 8]

/-- The same, and then the last one reaches the node again too, which still has its response. -/
def lateAndPromptRun : List (LinkOp Bench) := lateRun ++ [.deliver 6]

/-- The link between the daemon and board 1 at the start. -/
def benchLink : Link benchConfig Bench := .start .flexibleDataRate 1 Daemon.one_session benchCore

/-- The `index`-th request of these runs that writes the first object. -/
def submittedWrite (index : UInt32) (value : UInt8) : Packet :=
  ⟨{ command := Command.gpioWrite, sessionId := 1, requestId := index, objectId := 1 }, [value]⟩

/-- The last write is not executed again, although another one is in the same run. -/
theorem executed_at_most_once_prompt :
    ((Link.system benchConfig (benchBoard (boardUuid 1))).run benchLink
        lateAndPromptRun).timesExecuted 3 ≤ 1 ∧
      ((Link.system benchConfig (benchBoard (boardUuid 1))).run benchLink
        lateAndPromptRun).timesExecuted 1 = 2 := by
  have hpacket : ((Link.system benchConfig (benchBoard (boardUuid 1))).run benchLink
      lateAndPromptRun).submissions[3]? = some (submittedWrite 4 0, 0x601) := by
    decide +kernel
  have honce := executed_at_most_once (benchBoard (boardUuid 1)) (init_bench (boardUuid 1))
    .flexibleDataRate 1 (by decide) lateAndPromptRun (by decide +kernel) hpacket (by decide)
  exact ⟨honce, by decide +kernel⟩

/-- A late retry of the write is executed: the pin goes high again, behind the two writes that have
set it low. -/
theorem late_retry_executes_twice :
    ((Link.system benchConfig (benchBoard (boardUuid 1))).run benchLink
      lateRun).node.world.writes = [(5, true), (5, false), (5, false), (5, true)] ∧
    ¬ ∀ submission packet canId,
      ((Link.system benchConfig (benchBoard (boardUuid 1))).run benchLink
        lateRun).submissions[submission]? = some (packet, canId) →
      sideEffecting packet.header.command = true →
      ((Link.system benchConfig (benchBoard (boardUuid 1))).run benchLink lateRun).timesExecuted
        submission ≤ 1 := by
  refine ⟨by decide +kernel, fun h => ?_⟩
  have hpacket : ((Link.system benchConfig (benchBoard (boardUuid 1))).run benchLink
      lateRun).submissions[1]? = some (submittedWrite 2 1, 0x601) := by
    decide +kernel
  have htwice : ((Link.system benchConfig (benchBoard (boardUuid 1))).run benchLink
      lateRun).timesExecuted 1 = 2 := by
    decide +kernel
  have honce := h 1 _ _ hpacket (by decide)
  rw [htwice] at honce
  exact absurd honce (by decide)

end RemoteBSP.System
