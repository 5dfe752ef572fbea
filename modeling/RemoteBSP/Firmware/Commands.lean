import RemoteBSP.Firmware.Core

/-!
# The commands of the remote core

`process_request` of `firmware/src/core.c`: a request is answered from the cache, or executed by the
function of its command, and its response is cached and sent. Each command is a function here, which
returns the response beside the state.

The responses of the commands with a side effect are short enough for the cache
(`length_execute_le`), so these commands are in the cache once they have been executed.
-/

namespace RemoteBSP.Firmware

/-- The callbacks that a motion needs. -/
structure MotionHal (W : Type) where
  /-- The nanoseconds by which the motion queue is timed. -/
  nanoseconds : W → UInt64 × W
  /-- The outputs and the limit switches. -/
  io : MotionIo W

/-- The callbacks that a motion needs, if none of them is missing. -/
def Hal.motion {W : Type} (hal : Hal W) : Option (MotionHal W) := do
  let nanoseconds ← hal.nanoseconds
  let setEnable ← hal.motionSetEnable
  let setDirection ← hal.motionSetDirection
  let setStep ← hal.motionSetStep
  return ⟨nanoseconds, ⟨setEnable, setDirection, setStep, hal.motionLimitActive⟩⟩

/-- What the execution of a request leaves behind. -/
structure Executed (config : CoreConfig) (W : Type) where
  /-- The encoded response. -/
  response : List UInt8
  /-- The bootloader to be entered when the response has been sent. -/
  bootloader : Option BootloaderMode
  /-- The core behind the command. -/
  core : Core config W

/-- `bootloader_confirmation`, the letters RBSPBOOT. -/
def bootloaderConfirmation : List UInt8 := [0x52, 0x42, 0x53, 0x50, 0x42, 0x4F, 0x4F, 0x54]

/-- The description of the node, without the version of the protocol. -/
def NodeInfo.bytes (info : NodeInfo) : List UInt8 :=
  info.uuid.bytes ++ putU16 info.firmwareMajor ++ putU16 info.firmwareMinor ++
    putU16 info.firmwarePatch ++ putU32 info.boardType

namespace Core

variable {config : CoreConfig} {W : Type} (board : Board W) (core : Core config W)
  (request : Request)

/-- A response with a status, in a state. -/
def answer (core : Core config W) (request : Request) (status : Status) (objectId : UInt32)
    (data : List UInt8) : List UInt8 × Core config W :=
  (makeStatusResponse request status objectId data, core)

/-! ## The node -/

/-- The response to `RBSP_COMMAND_DISCOVERY_REQUEST`, if the versions match. -/
def discoveryResponse : Option (List UInt8) :=
  if request.payload.length ≠ 2 ∨ byteAt request.payload 0 = 0 ∨
      byteAt request.payload 0 > byteAt request.payload 1 ∨
      RBSP_PROTOCOL_VERSION < byteAt request.payload 0 ∨
      RBSP_PROTOCOL_VERSION > byteAt request.payload 1 then none
  else some (encodePacket .response Command.discoveryResponse request.sessionId request.requestId
    0 0 (board.info.bytes ++ [RBSP_PROTOCOL_VERSION]))

/-- `RBSP_COMMAND_NODE_ASSIGN`, if it is for this node. -/
def handleNodeAssign : Option (List UInt8 × Core config W) :=
  let nodeId := getU32 request.payload 16
  if request.payload.length ≠ 20 ∨ request.payload.take 16 ≠ board.info.uuid.bytes ∨
      nodeId = 0 ∨ nodeId > 127 then none
  else some (answer { core with nodeId := nodeId } request .ok nodeId [])

/-- `RBSP_COMMAND_GET_INFO`, the UUID and the versions. -/
def handleGetInfo : List UInt8 × Core config W :=
  if request.payload.length ≠ 0 then answer core request .invalidPayload request.objectId []
  else answer core request .ok request.objectId (board.info.bytes ++ [RBSP_PROTOCOL_VERSION])

/-- The capabilities of a board, by the callbacks that it has. -/
def capabilities (config : CoreConfig) (hal : Hal W) : UInt64 :=
  let bit (index : UInt64) (present : Bool) : UInt64 := if present then 1 <<< index else 0
  bit 0 (hal.gpioConfigure.isSome && hal.gpioRead.isSome && hal.gpioWrite.isSome) |||
    bit 1 (0 < config.uartResourceCount && hal.uartConfigure.isSome && hal.uartRead.isSome &&
      hal.uartWrite.isSome) |||
    bit 8 hal.enterBootloader.isSome |||
    bit 9 (config.motion.any fun motion => hal.motion.isSome && 0 < hal.motionAxisCount &&
      hal.motionAxisCount.toNat ≤ motion.maxAxes)

/-- `RBSP_COMMAND_GET_CAPABILITY`, the capabilities of the board. -/
def handleGetCapability : List UInt8 × Core config W :=
  if request.payload.length ≠ 0 then answer core request .invalidPayload request.objectId []
  else answer core request .ok request.objectId (putU64 (capabilities config board.hal))

/-- `RBSP_COMMAND_PING`, which sends the payload back. -/
def handlePing : List UInt8 × Core config W :=
  if request.payload.length + 1 > config.maxPacketSize - RBSP_HEADER_SIZE then
    answer core request .invalidPayload request.objectId []
  else answer core request .ok request.objectId request.payload

/-- `RBSP_COMMAND_BOOTLOADER_ENTER` and `RBSP_COMMAND_BOOTLOADER_ENTER_USB`. -/
def handleBootloaderEnter : Executed config W :=
  if request.objectId ≠ 0 ∨ request.payload ≠ bootloaderConfirmation then
    ⟨makeStatusResponse request .invalidPayload 0 [], none, core⟩
  else if board.hal.enterBootloader.isNone then
    ⟨makeStatusResponse request .unsupportedCapability 0 [], none, core⟩
  else
    ⟨makeStatusResponse request .ok 0 [],
      some (if request.command = Command.bootloaderEnterUsb then .usb else .can), core⟩

/-! ## GPIO -/

/-- `find_gpio_object`, by the ID that requests name it by. -/
def findGpioObject (objectId : UInt32) : Option GpioObject :=
  (List.finRange config.gpioResourceCount).findSome? fun i =>
    (core.gpioObjects i).filter fun object => object.objectId = objectId

/-- `RBSP_COMMAND_GPIO_CREATE`, with the callback that configures a pin. -/
def createGpio (gpioConfigure : W → UInt16 → GpioDirection → Bool → Bool × W) :
    List UInt8 × Core config W :=
  let pin := getU16 request.payload 0
  let direction : GpioDirection := if byteAt request.payload 2 = 0 then .input else .output
  let places := List.finRange config.gpioResourceCount
  if places.any fun i => (core.gpioObjects i).any fun object => object.pin = pin then
    answer core request .resourceBusy 0 []
  else
    match places.find? fun i => (core.gpioObjects i).isNone with
    | none => answer core request .resourceExhausted 0 []
    | some place =>
      if core.nextObjectId = 0 then answer core request .resourceExhausted 0 []
      else
        let (configured, world) :=
          gpioConfigure core.world pin direction (byteAt request.payload 3 ≠ 0)
        if !configured then answer { core with world := world } request .resourceFailed 0 []
        else
          answer { core with
              world := world
              nextObjectId := core.nextObjectId + 1
              gpioObjects := Function.update core.gpioObjects place
                (some ⟨core.nextObjectId, pin, direction⟩) }
            request .ok core.nextObjectId []

/-- `RBSP_COMMAND_GPIO_CREATE`, on a board that has the three callbacks for pins. -/
def handleGpioCreate : List UInt8 × Core config W :=
  match board.hal.gpioConfigure, board.hal.gpioRead, board.hal.gpioWrite with
  | some gpioConfigure, some _, some _ =>
    if request.objectId ≠ 0 ∨ request.payload.length ≠ 4 ∨ byteAt request.payload 2 > 1 ∨
        byteAt request.payload 3 > 1 then
      answer core request .invalidPayload 0 []
    else core.createGpio request gpioConfigure
  | _, _, _ => answer core request .unsupportedCapability 0 []

/-- `RBSP_COMMAND_GPIO_READ`. There is no object unless there is the callback. -/
def handleGpioRead : List UInt8 × Core config W :=
  if request.payload.length ≠ 0 ∨ request.objectId = 0 then
    answer core request .invalidPayload request.objectId []
  else
    match core.findGpioObject request.objectId, board.hal.gpioRead with
    | some object, some gpioRead =>
      let ((succeeded, value), world) := gpioRead core.world object.pin
      if !succeeded then
        answer { core with world := world } request .resourceFailed request.objectId []
      else
        answer { core with world := world } request .ok request.objectId [if value then 1 else 0]
    | _, _ => answer core request .objectNotFound request.objectId []

/-- `RBSP_COMMAND_GPIO_WRITE`. There is no object unless there is the callback. -/
def handleGpioWrite : List UInt8 × Core config W :=
  if request.payload.length ≠ 1 ∨ byteAt request.payload 0 > 1 ∨ request.objectId = 0 then
    answer core request .invalidPayload request.objectId []
  else
    match core.findGpioObject request.objectId, board.hal.gpioWrite with
    | some object, some gpioWrite =>
      if object.direction ≠ .output then answer core request .accessDenied request.objectId []
      else
        let (succeeded, world) := gpioWrite core.world object.pin (byteAt request.payload 0 ≠ 0)
        answer { core with world := world } request
          (if succeeded then .ok else .resourceFailed) request.objectId []
    | _, _ => answer core request .objectNotFound request.objectId []

/-! ## UART -/

/-- `find_uart_object`, by the ID that requests name it by. -/
def findUartObject (objectId : UInt32) : Option UartObject :=
  (List.finRange config.uartResourceCount).findSome? fun i =>
    (core.uartObjects i).filter fun object => object.objectId = objectId

/-- `RBSP_COMMAND_UART_CREATE`, with the callback that configures a port. -/
def createUart
    (uartConfigure : W → UInt8 → UInt32 → UInt8 → UInt8 → UInt8 → Bool × W) :
    List UInt8 × Core config W :=
  let port := byteAt request.payload 0
  let places := List.finRange config.uartResourceCount
  if config.uartResourceCount ≤ port.toNat then answer core request .objectNotFound 0 []
  else if places.any fun i => (core.uartObjects i).any fun object => object.port = port then
    answer core request .resourceBusy 0 []
  else
    match places.find? fun i => (core.uartObjects i).isNone with
    | none => answer core request .resourceExhausted 0 []
    | some place =>
      if core.nextObjectId = 0 then answer core request .resourceExhausted 0 []
      else
        let (configured, world) := uartConfigure core.world port (getU32 request.payload 1)
          (byteAt request.payload 5) (byteAt request.payload 6) (byteAt request.payload 7)
        if !configured then answer { core with world := world } request .resourceFailed 0 []
        else
          let streaming := request.payload.length = 9 ∧ byteAt request.payload 8 = 1
          answer { core with
              world := world
              nextObjectId := core.nextObjectId + 1
              uartObjects := Function.update core.uartObjects place
                (some ⟨core.nextObjectId, port, streaming, [], 0, 0⟩) }
            request .ok core.nextObjectId []

/-- `RBSP_COMMAND_UART_CREATE`, on a board that has the three callbacks for ports. -/
def handleUartCreate : List UInt8 × Core config W :=
  match board.hal.uartConfigure, board.hal.uartRead, board.hal.uartWrite with
  | some uartConfigure, some _, some _ =>
    if request.objectId ≠ 0 ∨ (request.payload.length ≠ 8 ∧ request.payload.length ≠ 9) ∨
        getU32 request.payload 1 = 0 ∨ byteAt request.payload 5 < 5 ∨
        byteAt request.payload 5 > 8 ∨
        (byteAt request.payload 6 ≠ 1 ∧ byteAt request.payload 6 ≠ 2) ∨
        byteAt request.payload 7 > 2 ∨
        (request.payload.length = 9 ∧ byteAt request.payload 8 > 1) then
      answer core request .invalidPayload 0 []
    else core.createUart request uartConfigure
  | _, _, _ => answer core request .unsupportedCapability 0 []

/-- `RBSP_COMMAND_UART_READ`. The bytes read must fit into the cache with their response, or a
repeated request would take further bytes. There is no object unless there is the callback. -/
def handleUartRead : List UInt8 × Core config W :=
  let requested := if request.payload.length = 2 then (getU16 request.payload 0).toNat else 0
  let maximum := config.cacheResponseSize - RBSP_HEADER_SIZE - 1
  if request.objectId = 0 ∨ request.payload.length ≠ 2 ∨ requested = 0 ∨ requested > maximum then
    answer core request .invalidPayload request.objectId []
  else
    match core.findUartObject request.objectId, board.hal.uartRead with
    | some object, some uartRead =>
      if object.streaming then answer core request .accessDenied request.objectId []
      else
        let (data, world) := uartRead core.world object.port requested
        if data.length > requested then
          answer { core with world := world } request .resourceFailed request.objectId []
        else answer { core with world := world } request .ok request.objectId data
    | _, _ => answer core request .objectNotFound request.objectId []

/-- `RBSP_COMMAND_UART_WRITE`. There is no object unless there is the callback. -/
def handleUartWrite : List UInt8 × Core config W :=
  if request.objectId = 0 ∨ request.payload.length = 0 then
    answer core request .invalidPayload request.objectId []
  else
    match core.findUartObject request.objectId, board.hal.uartWrite with
    | some object, some uartWrite =>
      let (succeeded, world) := uartWrite core.world object.port request.payload
      answer { core with world := world } request
        (if succeeded then .ok else .resourceFailed) request.objectId []
    | _, _ => answer core request .objectNotFound request.objectId []

/-! ## Motion -/

/-- One entry of `RBSP_COMMAND_MOTION_ENQUEUE`: the axes seen so far, and their steps. -/
def addAxisSteps (axisCount : UInt8) (payload : List UInt8)
    (steps : (ℕ → Bool) × (ℕ → Int32)) (index : ℕ) : Option ((ℕ → Bool) × (ℕ → Int32)) :=
  let resourceId := getU32 payload (24 + index * 8)
  let axis := resourceId.toUInt8
  if resourceId &&& 0xFFFFFF00 ≠ 0x09000000 then none
  else if axisCount ≤ axis ∨ steps.1 axis.toNat then none
  else some (Function.update steps.1 axis.toNat true,
    Function.update steps.2 axis.toNat (getU32 payload (24 + index * 8 + 4)).toInt32)

/-- The status of a segment that is not accepted. -/
def enqueueStatus : EnqueueResult → Status
  | .full => .resourceExhausted
  | .faulted => .resourceFailed
  | _ => .invalidPayload

/-- `RBSP_COMMAND_MOTION_ENQUEUE`, of the segment that the payload describes. -/
def handleMotionEnqueue (motion : MotionConfig) : List UInt8 × Core config W :=
  match board.hal.motion with
  | none => answer core request .unsupportedCapability 0 []
  | some hal =>
    let axisCount := if request.payload.length ≥ 24 then byteAt request.payload 21 else 0
    if request.objectId ≠ 0 ∨ request.payload.length ≠ 24 + axisCount.toNat * 8 ∨ axisCount = 0 ∨
        axisCount > core.motion.axisCount ∨ byteAt request.payload 20 > 1 ∨
        getU16 request.payload 22 ≠ 0 then
      answer core request .invalidPayload 0 []
    else
      match (List.range axisCount.toNat).foldlM (addAxisSteps core.motion.axisCount request.payload)
        (fun _ => false, fun _ => 0) with
      | none => answer core request .objectNotFound 0 []
      | some (_, steps) =>
        let segment : MotionSegment := {
          sequence := getU32 request.payload 0
          startTimeNs := getU64 request.payload 4
          durationNs := getU64 request.payload 12
          axisCount := core.motion.axisCount
          finalSegment := byteAt request.payload 20 ≠ 0
          steps := steps }
        let (nowNs, world) := hal.nanoseconds core.world
        let (result, accepted, queue) := core.motion.enqueue motion segment nowNs
        let core := { core with motion := queue, world := world }
        match accepted with
        | none => answer core request (enqueueStatus result) 0 []
        | some accepted =>
          answer core request .ok 0 (putU32 accepted.sequence ++ putU64 accepted.startTimeNs ++
            putU64 accepted.durationNs ++ [if accepted.finalSegment then 1 else 0, 0] ++ putU16 0)

/-- The sum of the steps of all axes, at most `UINT64_MAX`. -/
def totalSteps (queue : MotionQueue) : UInt64 :=
  (List.range queue.axisCount.toNat).foldl (fun sum axis =>
    if 0xFFFFFFFFFFFFFFFF - sum < queue.emittedSteps axis then 0xFFFFFFFFFFFFFFFF
    else sum + queue.emittedSteps axis) 0

/-- The number of a state of the motion. -/
def motionStateValue : MotionState → UInt8
  | .idle => 0
  | .armed => 1
  | .running => 2
  | .faulted => 3

/-- The number of a fault of the motion. -/
def motionFaultValue : MotionFault → UInt8
  | .none => 0
  | .aborted => 1
  | .limit => 2
  | .underrun => 3

/-- The entry of an axis in the response to `RBSP_COMMAND_MOTION_STATUS`. -/
def axisStatus (queue : MotionQueue) (axis : ℕ) : List UInt8 :=
  putU32 (0x09000000 + UInt32.ofNat axis) ++
    [(if queue.enabled axis then 0x01 else 0) |||
      (if queue.directionPositive axis then 0x02 else 0) |||
      (if queue.stepHigh axis then 0x04 else 0), 0, 0, 0] ++
    putU64 (UInt64.ofInt (queue.positionSteps axis)) ++ putU64 (queue.emittedSteps axis)

/-- The data of the response to `RBSP_COMMAND_MOTION_STATUS`. -/
def motionStatusData (motion : MotionConfig) (queue : MotionQueue) (nowNs : UInt64) : List UInt8 :=
  [motionStateValue queue.state, motionFaultValue queue.fault, queue.axisCount, 0] ++
  putU64 nowNs ++
    putU16 (UInt16.ofNat queue.size) ++ putU16 (UInt16.ofNat motion.queueDepth) ++
    putU32 queue.lastAcceptedSequence ++ putU32 queue.lastCompletedSequence ++
    putU64 queue.acceptedSegments ++ putU64 queue.rejectedSegments ++
    putU64 queue.completedSegments ++ putU64 queue.emittedEdges ++ putU64 (totalSteps queue) ++
    putU64 queue.safetyStops ++ putU64 queue.limitStops ++ putU64 queue.queueUnderruns ++
    putU16 (UInt16.ofNat queue.maximumQueueDepth) ++ [0, 0] ++
    (List.range queue.axisCount.toNat).flatMap (axisStatus queue)

/-- `RBSP_COMMAND_MOTION_STATUS`, as the queue stands. -/
def handleMotionStatus (motion : MotionConfig) : List UInt8 × Core config W :=
  match board.hal.motion with
  | none => answer core request .unsupportedCapability 0 []
  | some hal =>
    let dataLength := 92 + core.motion.axisCount.toNat * 24
    if request.objectId ≠ 0 ∨ request.payload.length ≠ 0 ∨
        dataLength + 1 > config.maxPacketSize - RBSP_HEADER_SIZE then
      answer core request .invalidPayload 0 []
    else
      let (nowNs, world) := hal.nanoseconds core.world
      answer { core with world := world } request .ok 0 (motionStatusData motion core.motion nowNs)

/-- `rbsp_core_motion_tick`, which the timer calls. -/
def motionTick (motion : MotionConfig) : Bool × Core config W :=
  match board.hal.motion with
  | none => (false, core)
  | some hal =>
    let (nowNs, world) := hal.nanoseconds core.world
    let (result, executor) := Executor.tick motion hal.io ⟨core.motion, world⟩ nowNs
    (result, { core with motion := executor.queue, world := executor.world })

/-- `RBSP_COMMAND_MOTION_ABORT`, which turns the outputs off in a tick of its own. -/
def handleMotionAbort (motion : MotionConfig) : List UInt8 × Core config W :=
  if request.objectId ≠ 0 ∨ request.payload.length ≠ 0 then
    answer core request .invalidPayload 0 []
  else
    let aborted := { core with motion := core.motion.abort .aborted }
    answer (aborted.motionTick board motion).2 request .ok 0 []

/-- `RBSP_COMMAND_MOTION_CLEAR_FAULT`, which an empty queue permits. -/
def handleMotionClearFault : List UInt8 × Core config W :=
  if request.objectId ≠ 0 ∨ request.payload.length ≠ 0 then
    answer core request .invalidPayload 0 []
  else
    let (nowNs, world) := match board.hal.nanoseconds with
      | some nanoseconds => nanoseconds core.world
      | none => (0, core.world)
    let (cleared, queue) := core.motion.clearFault nowNs
    answer { core with motion := queue, world := world } request
      (if cleared then .ok else .resourceBusy) 0 []

/-! ## `process_request` -/

/-- The commands that the build configuration may leave out, and unknown ones. -/
def executeOptional : List UInt8 × Core config W :=
  let unknown := answer core request .unknownCommand request.objectId []
  if 0 < config.uartResourceCount ∧ request.command = Command.uartCreate then
    core.handleUartCreate board request
  else if 0 < config.uartResourceCount ∧ request.command = Command.uartRead then
    core.handleUartRead board request
  else if 0 < config.uartResourceCount ∧ request.command = Command.uartWrite then
    core.handleUartWrite board request
  else
    match config.motion with
    | none => unknown
    | some motion =>
      if request.command = Command.motionEnqueue then core.handleMotionEnqueue board request motion
      else if request.command = Command.motionStatus then
        core.handleMotionStatus board request motion
      else if request.command = Command.motionAbort then core.handleMotionAbort board request motion
      else if request.command = Command.motionClearFault then
        core.handleMotionClearFault board request
      else unknown

/-- The commands that answer with a status. -/
def executeStatus : Executed config W :=
  let plain (result : List UInt8 × Core config W) : Executed config W := ⟨result.1, none, result.2⟩
  if request.command = Command.getInfo then plain (core.handleGetInfo board request)
  else if request.command = Command.getCapability then
    plain (core.handleGetCapability board request)
  else if request.command = Command.ping then plain (core.handlePing request)
  else if request.command = Command.bootloaderEnter ∨
      request.command = Command.bootloaderEnterUsb then core.handleBootloaderEnter board request
  else if request.command = Command.gpioCreate then plain (core.handleGpioCreate board request)
  else if request.command = Command.gpioRead then plain (core.handleGpioRead board request)
  else if request.command = Command.gpioWrite then plain (core.handleGpioWrite board request)
  else plain (core.executeOptional board request)

/-- The switch of `process_request`. A discovery that does not match the versions, and an
assignment that is for another node, have no response. -/
def execute : Option (Executed config W) :=
  if request.command = Command.discoveryRequest then
    (discoveryResponse board request).map fun response => ⟨response, none, core⟩
  else if request.command = Command.nodeAssign then
    (core.handleNodeAssign board request).map fun result => ⟨result.1, none, result.2⟩
  else some (core.executeStatus board request)

/-- The end of `process_request`, behind the switch. -/
def respond (request : Request) (executed : Executed config W) : Bool × Core config W :=
  let core := executed.core.insertCache request executed.response
  let (sent, core) := core.sendPacket board executed.response core.responseCanId
  match executed.bootloader with
  | some mode =>
    if sent then
      let (now, world) := board.hal.milliseconds core.world
      (sent, { core with bootloaderRequest := some (now, mode), world := world })
    else (sent, core)
  | none => (sent, core)

/-- `process_request`: a request that is remembered is answered out of the cache. -/
def processRequest : Bool × Core config W :=
  match core.findCache request with
  | some cached =>
    if !sameCachedRequest cached request then (false, core)
    else core.sendPacket board cached.response core.responseCanId
  | none =>
    match core.execute board request with
    | none => (false, core)
    | some executed => respond board request executed

end Core

/-! ## Responses that fit into the cache -/

/-- The commands whose repetition would have an effect of its own. -/
def sideEffecting (command : UInt16) : Bool :=
  command ∈ [Command.gpioCreate, Command.gpioWrite, Command.uartCreate, Command.uartRead,
    Command.uartWrite, Command.motionEnqueue]

namespace Core

variable {config : CoreConfig} {W : Type} {board : Board W} {core : Core config W}
  {request : Request}

/-- The response fits into the cache. -/
def Fits (result : List UInt8 × Core config W) : Prop :=
  result.1.length ≤ config.cacheResponseSize

/-- A status response with few data fits into the cache. -/
theorem fits_answer {status : Status} {objectId : UInt32} {data : List UInt8}
    (h : 25 + data.length ≤ config.cacheResponseSize) :
    Fits (answer core request status objectId data) := by
  rw [Fits, answer, length_makeStatusResponse]
  exact h

/-- A status response without data fits into the cache. -/
theorem fits_status {status : Status} {objectId : UInt32} :
    Fits (answer core request status objectId []) := by
  have hsize := config.cacheResponseSize_range
  exact fits_answer (by rw [List.length_nil]; omega)

/-- Both branches fit into the cache. -/
theorem fits_ite {c : Prop} [Decidable c] {a b : List UInt8 × Core config W} (ha : Fits a)
    (hb : Fits b) : Fits (if c then a else b) := by
  split
  · exact ha
  · exact hb

/-- The response of GPIO_CREATE fits into the cache. -/
theorem fits_handleGpioCreate : Fits (core.handleGpioCreate board request) := by
  unfold handleGpioCreate
  split
  · apply fits_ite fits_status
    unfold createGpio
    apply fits_ite fits_status
    split
    · exact fits_status
    · exact fits_ite fits_status (fits_ite fits_status fits_status)
  · exact fits_status

/-- The response of GPIO_WRITE fits into the cache. -/
theorem fits_handleGpioWrite : Fits (core.handleGpioWrite board request) := by
  unfold handleGpioWrite
  apply fits_ite fits_status
  split
  · exact fits_ite fits_status fits_status
  · exact fits_status

/-- The response of UART_CREATE fits into the cache. -/
theorem fits_handleUartCreate : Fits (core.handleUartCreate board request) := by
  unfold handleUartCreate
  split
  · apply fits_ite fits_status
    unfold createUart
    apply fits_ite fits_status
    apply fits_ite fits_status
    split
    · exact fits_status
    · exact fits_ite fits_status (fits_ite fits_status fits_status)
  · exact fits_status

/-- The response of UART_READ fits into the cache, since the bytes asked for do. -/
theorem fits_handleUartRead : Fits (core.handleUartRead board request) := by
  have hsize := config.cacheResponseSize_range
  unfold handleUartRead
  dsimp only
  generalize (if request.payload.length = 2 then (getU16 request.payload 0).toNat else 0) =
    requested
  by_cases hinvalid : request.objectId = 0 ∨ request.payload.length ≠ 2 ∨ requested = 0 ∨
      requested > config.cacheResponseSize - RBSP_HEADER_SIZE - 1
  · rw [if_pos hinvalid]
    exact fits_status
  · rw [if_neg hinvalid]
    have hrequested := (not_or.1 (not_or.1 (not_or.1 hinvalid).2).2).2
    rw [RBSP_HEADER_SIZE] at hrequested
    split
    · apply fits_ite fits_status
      split
      · exact fits_status
      · exact fits_answer (by omega)
    · exact fits_status

/-- The response of UART_WRITE fits into the cache. -/
theorem fits_handleUartWrite : Fits (core.handleUartWrite board request) := by
  unfold handleUartWrite
  apply fits_ite fits_status
  split <;> exact fits_status

/-- The response of MOTION_ENQUEUE fits into the cache. -/
theorem fits_handleMotionEnqueue (motion : MotionConfig) :
    Fits (core.handleMotionEnqueue board request motion) := by
  have hsize := config.cacheResponseSize_range
  unfold handleMotionEnqueue
  split
  · exact fits_status
  · apply fits_ite fits_status
    split
    · exact fits_status
    · dsimp only
      split
      · exact fits_status
      · refine fits_answer ?_
        simp only [List.length_append, length_putU32, length_putU64, length_putU16,
          List.length_cons, List.length_nil]
        omega

/-- The response of a command with a side effect fits into the cache. -/
theorem length_execute_le {executed : Executed config W}
    (h : core.execute board request = some executed)
    (hside : sideEffecting request.command = true) :
    executed.response.length ≤ config.cacheResponseSize := by
  have hother : ∀ command, sideEffecting command = false → request.command ≠ command :=
    fun command hfalse heq => by rw [heq, hfalse] at hside; exact absurd hside nofun
  unfold execute at h
  rw [if_neg (hother _ (by decide)), if_neg (hother _ (by decide))] at h
  obtain rfl := Option.some.inj h
  unfold executeStatus
  rw [if_neg (hother _ (by decide)), if_neg (hother _ (by decide)), if_neg (hother _ (by decide)),
    if_neg (not_or.2 ⟨hother _ (by decide), hother _ (by decide)⟩)]
  have hoptional : Fits (core.executeOptional board request) := by
    unfold executeOptional
    apply fits_ite fits_handleUartCreate
    apply fits_ite fits_handleUartRead
    apply fits_ite fits_handleUartWrite
    split
    · exact fits_status
    · rw [if_neg (hother Command.motionStatus (by decide)),
        if_neg (hother Command.motionAbort (by decide)),
        if_neg (hother Command.motionClearFault (by decide))]
      exact fits_ite (fits_handleMotionEnqueue _) fits_status
  by_cases hcreate : request.command = Command.gpioCreate
  · rw [if_pos hcreate]
    exact fits_handleGpioCreate
  · rw [if_neg hcreate, if_neg (hother Command.gpioRead (by decide))]
    by_cases hwrite : request.command = Command.gpioWrite
    · rw [if_pos hwrite]
      exact fits_handleGpioWrite
    · rw [if_neg hwrite]
      exact hoptional

/-! ## What a request does to the cache and to the slots -/

/-- The cache and the slots are left alone. -/
structure KeepsReception (core : Core config W) (result : List UInt8 × Core config W) : Prop where
  /-- The remembered requests stay. -/
  cache : result.2.cache = core.cache
  /-- The packets under way stay. -/
  reassembly : result.2.reassembly = core.reassembly

/-- Both branches leave the cache and the slots alone. -/
theorem keepsReception_ite {c : Prop} [Decidable c] {a b : List UInt8 × Core config W}
    (ha : KeepsReception core a) (hb : KeepsReception core b) :
    KeepsReception core (if c then a else b) := by
  split
  · exact ha
  · exact hb

variable (board core request) in
/-- The GPIO commands leave the cache and the slots alone. -/
theorem keepsReception_gpio : KeepsReception core (core.handleGpioCreate board request) ∧
    KeepsReception core (core.handleGpioRead board request) ∧
    KeepsReception core (core.handleGpioWrite board request) := by
  refine ⟨?_, ?_, ?_⟩
  · unfold handleGpioCreate
    split
    · refine keepsReception_ite ⟨rfl, rfl⟩ ?_
      unfold createGpio
      refine keepsReception_ite ⟨rfl, rfl⟩ ?_
      split
      · exact ⟨rfl, rfl⟩
      · exact keepsReception_ite ⟨rfl, rfl⟩ (keepsReception_ite ⟨rfl, rfl⟩ ⟨rfl, rfl⟩)
    · exact ⟨rfl, rfl⟩
  · unfold handleGpioRead
    refine keepsReception_ite ⟨rfl, rfl⟩ ?_
    split
    · exact keepsReception_ite ⟨rfl, rfl⟩ ⟨rfl, rfl⟩
    · exact ⟨rfl, rfl⟩
  · unfold handleGpioWrite
    refine keepsReception_ite ⟨rfl, rfl⟩ ?_
    split
    · exact keepsReception_ite ⟨rfl, rfl⟩ ⟨rfl, rfl⟩
    · exact ⟨rfl, rfl⟩

variable (board core request) in
/-- The UART commands leave the cache and the slots alone. -/
theorem keepsReception_uart : KeepsReception core (core.handleUartCreate board request) ∧
    KeepsReception core (core.handleUartRead board request) ∧
    KeepsReception core (core.handleUartWrite board request) := by
  refine ⟨?_, ?_, ?_⟩
  · unfold handleUartCreate
    split
    · refine keepsReception_ite ⟨rfl, rfl⟩ ?_
      unfold createUart
      refine keepsReception_ite ⟨rfl, rfl⟩ ?_
      refine keepsReception_ite ⟨rfl, rfl⟩ ?_
      split
      · exact ⟨rfl, rfl⟩
      · exact keepsReception_ite ⟨rfl, rfl⟩ (keepsReception_ite ⟨rfl, rfl⟩ ⟨rfl, rfl⟩)
    · exact ⟨rfl, rfl⟩
  · unfold handleUartRead
    refine keepsReception_ite ⟨rfl, rfl⟩ ?_
    split
    · exact keepsReception_ite ⟨rfl, rfl⟩ (keepsReception_ite ⟨rfl, rfl⟩ ⟨rfl, rfl⟩)
    · exact ⟨rfl, rfl⟩
  · unfold handleUartWrite
    refine keepsReception_ite ⟨rfl, rfl⟩ ?_
    split <;> exact ⟨rfl, rfl⟩

variable (board core request) in
/-- The motion commands leave the cache and the slots alone. -/
theorem keepsReception_motion (motion : MotionConfig) :
    KeepsReception core (core.handleMotionEnqueue board request motion) ∧
      KeepsReception core (core.handleMotionStatus board request motion) ∧
      KeepsReception core (core.handleMotionAbort board request motion) ∧
      KeepsReception core (core.handleMotionClearFault board request) := by
  refine ⟨?_, ?_, ?_, ?_⟩
  · unfold handleMotionEnqueue
    split
    · exact ⟨rfl, rfl⟩
    · refine keepsReception_ite ⟨rfl, rfl⟩ ?_
      split
      · exact ⟨rfl, rfl⟩
      · dsimp only
        split <;> exact ⟨rfl, rfl⟩
  · unfold handleMotionStatus
    split
    · exact ⟨rfl, rfl⟩
    · exact keepsReception_ite ⟨rfl, rfl⟩ ⟨rfl, rfl⟩
  · unfold handleMotionAbort
    refine keepsReception_ite ⟨rfl, rfl⟩ ?_
    unfold motionTick
    split <;> exact ⟨rfl, rfl⟩
  · unfold handleMotionClearFault
    exact keepsReception_ite ⟨rfl, rfl⟩ ⟨rfl, rfl⟩

/-- The execution of a request leaves the cache and the slots alone. -/
theorem keepsReception_execute {executed : Executed config W}
    (h : core.execute board request = some executed) :
    KeepsReception core (executed.response, executed.core) := by
  obtain ⟨hgpioCreate, hgpioRead, hgpioWrite⟩ := keepsReception_gpio board core request
  -- The commands that a build may leave out, in the order of the source.
  have hoptional : KeepsReception core (core.executeOptional board request) := by
    obtain ⟨huartCreate, huartRead, huartWrite⟩ := keepsReception_uart board core request
    unfold executeOptional
    apply keepsReception_ite huartCreate
    apply keepsReception_ite huartRead
    apply keepsReception_ite huartWrite
    split
    · exact ⟨rfl, rfl⟩
    · rename_i motion _
      obtain ⟨henqueue, hstatus, habort, hclear⟩ := keepsReception_motion board core request motion
      exact keepsReception_ite henqueue (keepsReception_ite hstatus (keepsReception_ite habort
        (keepsReception_ite hclear ⟨rfl, rfl⟩)))
  unfold execute at h
  -- The answer to a discovery and the assignment touch neither the cache nor the slots.
  split_ifs at h with hdiscovery hassign
  · obtain ⟨response, -, rfl⟩ := Option.map_eq_some_iff.1 h
    exact ⟨rfl, rfl⟩
  · obtain ⟨result, hresult, rfl⟩ := Option.map_eq_some_iff.1 h
    unfold handleNodeAssign at hresult
    dsimp only at hresult
    split_ifs at hresult
    obtain rfl := Option.some.inj hresult
    exact ⟨rfl, rfl⟩
  -- Each other command goes to its handler.
  · obtain rfl := Option.some.inj h
    unfold executeStatus
    dsimp only
    split_ifs
    · unfold handleGetInfo
      exact keepsReception_ite ⟨rfl, rfl⟩ ⟨rfl, rfl⟩
    · unfold handleGetCapability
      exact keepsReception_ite ⟨rfl, rfl⟩ ⟨rfl, rfl⟩
    · unfold handlePing
      exact keepsReception_ite ⟨rfl, rfl⟩ ⟨rfl, rfl⟩
    · unfold handleBootloaderEnter
      split_ifs <;> exact ⟨rfl, rfl⟩
    · exact hgpioCreate
    · exact hgpioRead
    · exact hgpioWrite
    · exact hoptional

/-- The entry that a request adds to the cache. -/
def insertedEntry (board : Board W) (core : Core config W) (request : Request) :
    Option CacheEntry :=
  match core.findCache request, core.execute board request with
  | none, some executed =>
    if config.cacheResponseSize < executed.response.length then none
    else some (cacheEntry request executed.response)
  | _, _ => none

/-- A request adds its entry to the cache, and changes nothing else there. -/
theorem cache_processRequest : (core.processRequest board request).2.cache =
    match core.insertedEntry board request with
    | some entry => core.cache.insert entry
    | none => core.cache := by
  unfold processRequest insertedEntry
  cases hfind : core.findCache request with
  | some cached =>
    dsimp only
    split <;> rfl
  | none =>
    cases hexecute : core.execute board request with
    | none => rfl
    | some executed =>
      have hcache := (keepsReception_execute hexecute).cache
      have hrespond : (respond board request executed).2.cache =
          (executed.core.insertCache request executed.response).cache := by
        unfold respond
        dsimp only
        split
        · split <;> rfl
        · rfl
      dsimp only
      rw [hrespond]
      unfold insertCache
      split_ifs
      · exact hcache
      · dsimp only
        rw [hcache]

/-- A request leaves the slots alone. -/
theorem reassembly_processRequest :
    (core.processRequest board request).2.reassembly = core.reassembly := by
  unfold processRequest
  split
  · split
    · rfl
    · rfl
  · split
    · rfl
    · next executed hexecute =>
      have hrespond : (respond board request executed).2.reassembly = executed.core.reassembly := by
        have hinsert : (executed.core.insertCache request executed.response).reassembly =
            executed.core.reassembly := by
          unfold insertCache
          split <;> rfl
        unfold respond
        dsimp only
        split
        · split
          · exact hinsert
          · exact hinsert
        · exact hinsert
      rw [hrespond]
      exact (keepsReception_execute hexecute).reassembly

end Core

end RemoteBSP.Firmware
