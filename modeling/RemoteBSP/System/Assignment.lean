import RemoteBSP.Firmware.Node
import RemoteBSP.Toolbusd.NodeIds

/-!
# The assignment of a node ID

The daemon gives a node its node ID by a NODE_ASSIGN, which goes through the node's cache as every
other request does. An assignment takes effect, and is answered, whenever the cache has no entry of
its session and its ID, or only the answer of this very assignment
(`assignment_takes_effect`). But every instance of the daemon numbers its own messages from the
same ID on, in session zero, and so an entry that an earlier instance has left behind may stop the
assignment (`restart_drops_assignment`).
-/

namespace RemoteBSP.System

open Firmware Toolbusd

/-- What the firmware around it does to a node. -/
inductive NodeOp (W : Type)
  /-- A CAN frame has come in and is given to `rbsp_core_accept_can`. -/
  | accept (frame : CanFrame)
  /-- The main loop calls `rbsp_core_poll`. -/
  | poll
  /-- The world changes by itself between two calls. -/
  | elapse (world : W)

/-- The reception of a request, and what the node has done with it. -/
structure Reception where
  /-- The request that the node has executed. -/
  request : Request
  /-- The node ID that the node has had since then. -/
  nodeId : UInt32
  /-- The frames that the node has sent in return. -/
  sent : List CanFrame
deriving DecidableEq

variable {config : CoreConfig} {W : Type}

/-- The request that an operation completes. -/
def received (board : Board W) (core : Core config W) : NodeOp W → Option Request
  | .accept frame => (core.completed board frame).bind decodeRequest
  | _ => none

/-- A node, as a machine. It reports the requests that it receives. -/
def node (config : CoreConfig) (board : Board W) (bus : W → List CanFrame) :
    Machine (Core config W) (NodeOp W) (Option Reception) where
  step core op :=
    let next := match op with
      | .accept frame => core.acceptCan board frame
      | .poll => core.poll board
      | .elapse world => { core with world := world }
    (next, (received board core op).map fun request =>
      ⟨request, next.nodeId, (bus next.world).drop (bus core.world).length⟩)

/-- The node ID in an assignment. -/
def assignedId (request : Request) : UInt32 := getU32 request.payload 16

/-- The request assigns the node with this board a node ID. -/
def assigns (board : Board W) (request : Request) : Bool :=
  request.command = Command.nodeAssign ∧ request.payload.length = 20 ∧
    request.payload.take 16 = board.info.uuid.bytes ∧ assignedId request ≠ 0 ∧
    assignedId request ≤ 127

/-- The response to an assignment that has taken effect. -/
def assignmentResponse (request : Request) : List UInt8 :=
  makeStatusResponse request .ok (assignedId request) []

/-- An assignment takes effect: the node has the node ID, and says so from the CAN ID that belongs
to it. -/
def Reception.TakesEffect (board : Board W) (reception : Reception) : Prop :=
  assigns board reception.request = true →
    reception.nodeId = assignedId reception.request ∧
      ∃ transferId, reception.sent = packetFrames board.canMode
        (assignmentResponse reception.request) transferId
        (RBSP_CAN_ID_RESPONSE_BASE + assignedId reception.request)

/-- The cache does not stand in the way of an assignment: it has no entry of the session and the ID
of the assignment, or it has the answer of this assignment, and the node still has the node ID. -/
def cacheAllows (core : Core config W) (request : Request) : Bool :=
  match core.findCache request with
  | none => true
  | some entry =>
    Core.sameCachedRequest entry request ∧ entry.response = assignmentResponse request ∧
      core.nodeId = assignedId request

/-- The operation completes an assignment that the cache does not allow. -/
def blocksAssignment (board : Board W) (core : Core config W) (op : NodeOp W) : Bool :=
  (received board core op).any fun request => assigns board request && !cacheAllows core request

variable {board : Board W} {bus : W → List CanFrame}

/-- An assignment that the cache allows gives the node its node ID, and its answer is sent. -/
theorem processRequest_assigns (hbus : Sends board.hal bus) {core : Core config W}
    {request : Request} (hassigns : assigns board request = true)
    (hallows : cacheAllows core request = true) :
    (core.processRequest board request).2.nodeId = assignedId request ∧
      bus (core.processRequest board request).2.world = bus core.world ++
        packetFrames board.canMode (assignmentResponse request) core.nextTransferId
          (RBSP_CAN_ID_RESPONSE_BASE + assignedId request) := by
  obtain ⟨hcommand, hlength, huuid, hzero, hle⟩ := of_decide_eq_true hassigns
  unfold cacheAllows at hallows
  unfold Core.processRequest
  cases hfind : core.findCache request with
  | some entry =>
    -- The answer of the cache is sent again.
    rw [hfind] at hallows
    obtain ⟨hsame, hresponse, hnode⟩ := of_decide_eq_true hallows
    dsimp only
    rw [hsame, Bool.not_true, if_neg Bool.false_ne_true]
    refine ⟨hnode, ?_⟩
    rw [hbus.sendPacket, hresponse, Core.responseCanId, hnode, if_neg hzero]
  | none =>
    -- The assignment is executed.
    have hinvalid : ¬ (request.payload.length ≠ 20 ∨
        request.payload.take 16 ≠ board.info.uuid.bytes ∨ getU32 request.payload 16 = 0 ∨
        getU32 request.payload 16 > 127) := by
      refine not_or.2 ⟨not_not.2 hlength, not_or.2 ⟨not_not.2 huuid, not_or.2 ⟨hzero, ?_⟩⟩⟩
      exact UInt32.not_lt.2 hle
    have hexecute : core.execute board request = some ⟨assignmentResponse request, none,
        { core with nodeId := assignedId request }⟩ := by
      unfold Core.execute
      rw [hcommand, if_neg (by decide), if_pos rfl]
      unfold Core.handleNodeAssign
      dsimp only
      rw [if_neg hinvalid]
      rfl
    rw [hexecute]
    unfold Core.respond
    dsimp only
    have hcached : ∀ c : Core config W,
        (c.insertCache request (assignmentResponse request)).nodeId =
        c.nodeId ∧ (c.insertCache request (assignmentResponse request)).world = c.world ∧
        (c.insertCache request (assignmentResponse request)).nextTransferId = c.nextTransferId := by
      intro c
      unfold Core.insertCache
      split <;> exact ⟨rfl, rfl, rfl⟩
    obtain ⟨hnode, hworld, htransfer⟩ := hcached { core with nodeId := assignedId request }
    refine ⟨hnode, ?_⟩
    rw [hbus.sendPacket, hworld, htransfer, Core.responseCanId, hnode]
    dsimp only
    rw [if_neg hzero]

/-- An operation that completes an assignment which the cache allows makes it take effect. -/
theorem step_assigns (hbus : Sends board.hal bus) {core : Core config W} {op : NodeOp W}
    (hblocks : blocksAssignment board core op = false) :
    ∀ reception ∈ ((node config board bus).step core op).2, reception.TakesEffect board := by
  intro reception hmem hassigns
  obtain ⟨request, hreceived, rfl⟩ := Option.map_eq_some_iff.1 hmem
  unfold blocksAssignment at hblocks
  rw [hreceived] at hblocks
  have hallows : cacheAllows core request = true := by
    have hassigns : assigns board request = true := hassigns
    simpa only [Option.any_some, hassigns, Bool.true_and, Bool.not_eq_false'] using hblocks
  cases op with
  | poll => exact absurd hreceived nofun
  | elapse world => exact absurd hreceived nofun
  | accept frame =>
    obtain ⟨packet, hcompleted, hdecode⟩ := Option.bind_eq_some_iff.1 hreceived
    have hspec := Core.acceptCan_spec board core frame
    rw [hcompleted] at hspec
    obtain ⟨idle, place, hidle, haccept⟩ := hspec
    have hsame : cacheAllows idle request = true := by
      rw [hidle.eq]
      exact hallows
    obtain ⟨hnode, hsent⟩ := processRequest_assigns hbus hassigns hsame
    have hprocess : idle.completePacket board packet = (idle.processRequest board request).2 := by
      rw [Core.completePacket, hdecode]
    dsimp only
    rw [haccept, hprocess]
    refine ⟨hnode, idle.nextTransferId, ?_⟩
    show List.drop _ (bus (idle.processRequest board request).2.world) = _
    rw [hsent, hbus.idle hidle, List.drop_left]

/-- In every run of a node in which the cache allows the assignments, each assignment that is
completed takes effect and is answered. -/
theorem assignment_takes_effect (board : Board W) (hbus : Sends board.hal bus)
    (core : Core config W) (ops : List (NodeOp W))
    (hallows : (node config board bus).Along
      (fun core op => blocksAssignment board core op = false) core ops) :
    ∀ outcome ∈ (node config board bus).outcomes core ops, ∀ reception ∈ outcome,
      reception.TakesEffect board :=
  (node config board bus).outcomes_induction_of (P := fun _ => True)
    (fun _ _ _ hblocks => ⟨trivial, step_assigns hbus hblocks⟩) trivial hallows

/-! ## Two daemons, one after the other -/

/-- The frames of a packet that the daemon broadcasts. -/
def broadcast (daemon : Daemon) (packet : Packet) : List CanFrame × Daemon :=
  match daemon.sendPacket packet kBroadcastRequestCanId true with
  | (.ok (some messages), daemon) =>
    (messages.filterMap fun message => (daemon.mode.transmit message).toOption.map fun message =>
      ⟨message.identifier, message.data⟩, daemon)
  | (_, daemon) => ([], daemon)

/-- The frames that the daemon sends in an operation. -/
def daemonStep (daemon : Daemon) : DaemonOp → List CanFrame × Daemon
  | .discover =>
    match daemon.sendDiscovery with
    | (.ok request, daemon) => broadcast daemon request
    | (.error _, daemon) => ([], daemon)
  | .receive message now =>
    match daemon.receive message now with
    | (.ok (some assignment), daemon) => broadcast daemon assignment
    | (_, daemon) => ([], daemon)
  | op => ([], (toolbus.step daemon op).1)

/-- The frames that the daemon sends in a run. -/
def daemonFrames (daemon : Daemon) : List DaemonOp → List CanFrame
  | [] => []
  | op :: ops => (daemonStep daemon op).1 ++ daemonFrames (daemonStep daemon op).2 ops

/-- The first daemon: nobody answers its first discovery, board 1 its second one. -/
def firstDaemon : List CanFrame :=
  daemonFrames (.create .flexibleDataRate 1 (by decide))
    (.discover :: discoveryRun [nodeMessages 0x481 1 (discoveryResponse 1 0x80000001)])

/-- The second daemon: a new board 2 answers its discovery, then board 1. -/
def secondDaemon : List CanFrame :=
  daemonFrames (.create .flexibleDataRate 2 (by decide))
    (discoveryRun [nodeMessages 0x482 1 (discoveryResponse 2 0x80000000),
      nodeMessages 0x581 3 (discoveryResponse 1 0x80000000)])

/-- Board 1, which was not there for the first discovery. -/
def restartRun : List (NodeOp Bench) := (firstDaemon.drop 1 ++ secondDaemon).map .accept

/-- Board 1 with the first daemon only. The assignment is delivered twice. -/
def repeatedRun : List (NodeOp Bench) :=
  ((firstDaemon ++ firstDaemon.drop 2).map .accept)

/-- The first daemon's assignment takes effect, and its repetition is answered alike. -/
theorem assignment_takes_effect_repeated :
    ((node benchConfig (benchBoard (boardUuid 1)) Bench.sent).outcomes benchCore
        repeatedRun).countP Option.isSome = 4 ∧
      ∀ outcome ∈ (node benchConfig (benchBoard (boardUuid 1)) Bench.sent).outcomes benchCore
        repeatedRun, ∀ reception ∈ outcome, reception.TakesEffect (benchBoard (boardUuid 1)) :=
  ⟨by decide +kernel,
    assignment_takes_effect (benchBoard (boardUuid 1)) (bench_sends (boardUuid 1)) benchCore
      repeatedRun (by decide +kernel)⟩

/-- The second daemon assigns board 1 the node ID 2, under the ID of the first daemon's assignment.
The board drops it, and keeps the node ID 1. -/
theorem restart_drops_assignment :
    ¬ ∀ outcome ∈ (node benchConfig (benchBoard (boardUuid 1)) Bench.sent).outcomes benchCore
      restartRun, ∀ reception ∈ outcome, reception.TakesEffect (benchBoard (boardUuid 1)) := by
  intro h
  have hlast : ((node benchConfig (benchBoard (boardUuid 1)) Bench.sent).outcomes benchCore
      restartRun)[4]?.map (Option.map fun reception =>
        (assigns (benchBoard (boardUuid 1)) reception.request, assignedId reception.request,
          reception.nodeId)) = some (some (true, 2, 1)) := by
    decide +kernel
  obtain ⟨outcome, houtcome, hdata⟩ := Option.map_eq_some_iff.1 hlast
  obtain ⟨reception, rfl, hreception⟩ := Option.map_eq_some_iff.1 hdata
  obtain ⟨hassigns, hid, hnode⟩ : _ ∧ assignedId reception.request = 2 ∧ reception.nodeId = 1 := by
    simpa only [Prod.mk.injEq] using hreception
  obtain ⟨heffect, -⟩ := h _ (List.mem_of_getElem? houtcome) reception rfl hassigns
  rw [hnode, hid] at heffect
  exact absurd heffect (by decide)

end RemoteBSP.System
