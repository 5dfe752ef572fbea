import RemoteBSP.MockMcu.Leases
import RemoteBSP.MockMcu.Manifest

/-!
# The digital twin of a board

`DigitalTwin` of `mock_mcu/src/board_manifest.cpp`: a board made from a manifest, to which a
scenario of faults happens while its clock advances. The twin hands its pins, its ports and its
executor to the core of a node (`make_remote_core`), and both go on to use the same ones.
`TwinNode` is the two of them together: what one does to the pins, the ports or the executor, the
other one sees.
-/

namespace RemoteBSP.MockMcu

/-- The exceptions of a twin, by the component that throws them. -/
inductive TwinException
  | manifest (e : ManifestException)
  | gpio (e : MockGpioException)
  | motion (e : MotionException)
  | core (e : CoreException)
  | invalidArgument (message : String)
deriving DecidableEq, Repr

/-- `DigitalTwin`, a simulated board with the events that befall it. -/
structure DigitalTwin where
  /-- The description of the board. -/
  manifest : BoardManifest
  /-- The events that befall the board. -/
  scenario : FaultScenario
  /-- The pins of the board. -/
  gpio : MockGpioBsp
  /-- The ports of the board. -/
  uart : MockUartBsp
  /-- Its motion executor, if it has axes. -/
  motion : Option MotionExecutor
  /-- The edges that nobody has taken yet. -/
  pendingMotionEdges : List MotionEdge := []
  /-- How many events of the scenario have happened. -/
  nextEventIndex : ℕ := 0
  /-- Whether the node is online, as the last event about it has left it. -/
  online : Bool := true

/-- `require_resource`: the manifest lists the resource, and it is of the type. -/
def BoardManifest.requireResource (manifest : BoardManifest) (resourceId : UInt32)
    (type : ResourceType) : Except TwinException ResourceDescriptor :=
  match manifest.findResource resourceId with
  | none => .error (.manifest ⟨.invalidValue, utf8 "故障事件引用了不存在或类型不匹配的资源"⟩)
  | some resource =>
    if resource.type ≠ type then
      .error (.manifest ⟨.invalidValue, utf8 "故障事件引用了不存在或类型不匹配的资源"⟩)
    else .ok resource

/-- An iteration of the constructor over the events. -/
def BoardManifest.checkEvent (manifest : BoardManifest) (motion : Option MotionExecutor)
    (event : FaultEvent) : Except TwinException Unit :=
  match event.action with
  | .setUartFailed => (manifest.requireResource event.resourceId .uart).map fun _ => ()
  | .setGpioInput => (manifest.requireResource event.resourceId .gpio).map fun _ => ()
  | .triggerMotionLimit =>
    match manifest.requireResource event.resourceId .stepgenAxis with
    | .error e => .error e
    | .ok _ =>
      if motion.isNone then
        .error (.manifest ⟨.invalidValue, utf8 "运动限位事件要求板卡启用运动执行器"⟩)
      else .ok ()
  | .setNodeOnline =>
    if event.resourceId ≠ 0 then
      .error (.manifest ⟨.invalidValue, utf8 "节点级故障事件不能引用资源"⟩)
    else .ok ()

/-- `std::max`, of two capacities. -/
def largerCapacity (left right : UInt32) : UInt32 := if left < right then right else left

/-- The room for the bytes of all ports: the receive and the transmit capacity. -/
def BoardManifest.uartCapacities (manifest : BoardManifest) : UInt32 × UInt32 :=
  manifest.resources.foldl (fun capacities resource =>
    if resource.type = .uart then
      (largerCapacity capacities.1 resource.rxCapacity,
        largerCapacity capacities.2 resource.txCapacity)
    else capacities) (1, 1)

/-- The executor that the constructor makes, if the manifest has axes. -/
def BoardManifest.makeExecutor (sort : Sorter EdgeLe) (manifest : BoardManifest) :
    Except MotionException (Option MotionExecutor) :=
  if manifest.motionAxes = [] then .ok none
  else
    (MotionExecutor.create sort manifest.motionAxes manifest.motionQueueCapacity 1000000).map some

namespace DigitalTwin

/-- The constructor of `DigitalTwin`. The executor that it makes sorts edges with the given
`std::sort`. -/
def create (sort : Sorter EdgeLe) (manifest : BoardManifest) (scenario : FaultScenario) :
    Except TwinException DigitalTwin :=
  let (rxCapacity, txCapacity) := manifest.uartCapacities
  match MockUartBsp.ofCapacities rxCapacity.toNat txCapacity.toNat with
  | .error message => .error (.invalidArgument message)
  | .ok uart =>
    match manifest.makeExecutor sort with
    | .error e => .error (.motion e)
    | .ok motion =>
      match scenario.events.forM (manifest.checkEvent motion) with
      | .error e => .error e
      | .ok () => .ok ⟨manifest, scenario, {}, uart, motion, [], 0, true⟩

variable (twin : DigitalTwin)

/-- The twin with the executor and the edges behind a call of the executor. -/
def moved (motion : MotionExecutor) (edges : List MotionEdge) : DigitalTwin :=
  { twin with
    motion := some motion
    pendingMotionEdges := twin.pendingMotionEdges ++ edges }

/-- `apply`, what an event does to the twin. -/
def apply (event : FaultEvent) : Except TwinException Unit × DigitalTwin :=
  match event.action with
  | .setUartFailed =>
    match twin.manifest.requireResource event.resourceId .uart with
    | .error e => (.error e, twin)
    | .ok resource =>
      (.ok (), { twin with uart := twin.uart.setFailed resource.instance'.toUInt8 event.value })
  | .setGpioInput =>
    match twin.manifest.requireResource event.resourceId .gpio with
    | .error e => (.error e, twin)
    | .ok resource =>
      match twin.gpio.setInputValue resource.instance' event.value with
      | .error e => (.error (.gpio e), twin)
      | .ok gpio => (.ok (), { twin with gpio := gpio })
  | .triggerMotionLimit =>
    match twin.motion with
    -- The constructor refuses such an event where there is no executor.
    | none => (.ok (), twin)
    | some motion =>
      match motion.triggerLimit event.resourceId (event.atMs * 1000000) with
      | (.error e, motion) => (.error (.motion e), { twin with motion := some motion })
      | (.ok edges, motion) => (.ok (), twin.moved motion edges)
  | .setNodeOnline => (.ok (), { twin with online := event.value })

/-- The twin with the event counted as happened. -/
def next : DigitalTwin := { twin with nextEventIndex := twin.nextEventIndex + 1 }

/-- The loop of `advance_to` over the events that are left. -/
def applyDue (elapsedMs : UInt64) :
    List FaultEvent → DigitalTwin → Except TwinException ℕ × DigitalTwin
  | [], twin => (.ok 0, twin)
  | event :: rest, twin =>
    if event.atMs ≤ elapsedMs then
      match twin.apply event with
      | (.error e, twin) => (.error e, twin)
      | (.ok (), twin) =>
        let (applied, twin) := applyDue elapsedMs rest twin.next
        (applied.map (· + 1), twin)
    else (.ok 0, twin)

/-- The part of `advance_to` behind the events. -/
def advanceMotion (elapsedMs : UInt64) : Except TwinException Unit × DigitalTwin :=
  match twin.motion with
  | none => (.ok (), twin)
  | some motion =>
    if elapsedMs > 0xFFFFFFFFFFFFFFFF / 1000000 then
      (.error (.manifest ⟨.invalidValue, utf8 "数字孪生运动时间溢出"⟩), twin)
    else match motion.advanceTo (elapsedMs * 1000000) with
      | .error e => (.error (.motion e), twin)
      | .ok (edges, motion) => (.ok (), twin.moved motion edges)

/-- `advance_to`: how many events have happened. -/
def advanceTo (elapsedMs : UInt64) : Except TwinException ℕ × DigitalTwin :=
  match applyDue elapsedMs (twin.scenario.events.drop twin.nextEventIndex) twin with
  | (.error e, twin) => (.error e, twin)
  | (.ok applied, twin) =>
    let (result, twin) := twin.advanceMotion elapsedMs
    (result.map fun () => applied, twin)

/-- `take_motion_edges`: the edges that nobody has taken yet. -/
def takeMotionEdges : List MotionEdge × DigitalTwin :=
  (twin.pendingMotionEdges, { twin with pendingMotionEdges := [] })

/-- `make_remote_core`, which shares the devices of the twin. -/
def makeRemoteCore (instance' : UInt32) : Except TwinException (Board × RemoteCore) :=
  match instantiateNodeInfo twin.manifest instance' with
  | .error e => .error (.manifest e)
  | .ok nodeInfo =>
    match Board.create nodeInfo twin.manifest.capabilities twin.manifest.resources
        twin.manifest.contracts with
    | .error e => .error (.core e)
    | .ok board => .ok (board, {
        gpioBsp := some twin.gpio
        uartBsp := some twin.uart
        motion := twin.motion })

end DigitalTwin

/-! ## The twin and its node -/

/-- A twin with the core of its node. -/
structure TwinNode where
  /-- The simulated board. -/
  twin : DigitalTwin
  /-- The core of the node on it. -/
  core : RemoteCore

/-- What is done with a twin and its node. -/
inductive TwinOp
  /-- `DigitalTwin::advance_to`: time goes by, and events happen. -/
  | advanceTo (elapsedMs : UInt64)
  /-- `DigitalTwin::take_motion_edges`, by which an observer learns of the edges. -/
  | takeMotionEdges
  /-- `RemoteCore::handle`, for a client. -/
  | handle (request : Packet) (now : ℤ)
  /-- `RemoteCore::expire_leases`, by the timer of the node. -/
  | expireLeases (now : ℤ)
  /-- `RemoteCore::release_session`, for a client that has left. -/
  | releaseSession (sessionId : UInt32)
  /-- `RemoteCore::poll_uart_events`, by the transport of the node. -/
  | pollUartEvents (maximumPayload : ℕ)
  /-- The other ends of the ports, which may leave the ports in any state. -/
  | serial (uart : MockUartBsp)

/-- What an operation returns. -/
inductive TwinOutcome
  /-- The number of events, or an exception. -/
  | advanced (applied : Except TwinException ℕ)
  /-- The edges that have been taken. -/
  | edges (edges : List MotionEdge)
  /-- The reply to the client. -/
  | replied (reply : Reply)
  /-- The number of leases that have ended. -/
  | ended (leases : ℕ)
  /-- The events of the ports, unless there is an exception. -/
  | polled (events : Option (List Packet))
  /-- The operation returns nothing. -/
  | silent

namespace TwinNode

/-- The core with the pins, the ports and the executor of the twin. -/
def share (node : TwinNode) : TwinNode :=
  { node with core := { node.core with
      gpioBsp := some node.twin.gpio
      uartBsp := some node.twin.uart
      motion := node.twin.motion } }

/-- The twin with the pins, the ports and the executor of the core. -/
def shareBack (node : TwinNode) : TwinNode :=
  { node with twin := { node.twin with
      gpio := node.core.gpioBsp.getD node.twin.gpio
      uart := node.core.uartBsp.getD node.twin.uart
      motion := node.core.motion } }

/-- One operation on the twin or on its node, which see each other's changes of the devices. -/
def step (board : Board) (node : TwinNode) : TwinOp → TwinNode × TwinOutcome
  | .advanceTo elapsedMs =>
    let (applied, twin) := node.twin.advanceTo elapsedMs
    ({ node with twin := twin }.share, .advanced applied)
  | .takeMotionEdges =>
    let (edges, twin) := node.twin.takeMotionEdges
    ({ node with twin := twin }.share, .edges edges)
  | .handle request now =>
    let (reply, core) := node.core.handle board request now
    ({ node with core := core }.shareBack, .replied reply)
  | .expireLeases now =>
    let (leases, core) := node.core.expireLeases board now
    ({ node with core := core }.shareBack, .ended leases)
  | .releaseSession sessionId =>
    let (leases, core) := node.core.releaseSession board sessionId
    ({ node with core := core }.shareBack, .ended leases)
  | .pollUartEvents maximumPayload =>
    let (events, core) := node.core.pollUartEvents maximumPayload
    ({ node with core := core }.shareBack, .polled events)
  | .serial uart => ({ node with twin := { node.twin with uart := uart } }.share, .silent)

end TwinNode

/-- The twin and its node as a machine, whose outcomes are what its operations return. -/
def twinMachine (board : Board) : Machine TwinNode TwinOp TwinOutcome where
  step := TwinNode.step board

end RemoteBSP.MockMcu
