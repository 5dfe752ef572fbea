import RemoteBSP.Lib.Loop
import RemoteBSP.Lib.Machine
import RemoteBSP.MockMcu.RemoteCore

/-!
# The handlers of the core

The handlers of `mock_mcu/src/remote_core.cpp`, and `handle`, which expires leases and dispatches. A
handler that changes nothing returns its reply alone. `coreMachine` is the core in its surroundings:
requests, the timer, the end of a session and the poll for received bytes, in any order, while the
outside acts on the pins, the ports and the motion executor.
-/

namespace RemoteBSP.MockMcu

namespace RemoteCore

variable (board : Board) (core : RemoteCore) (request : Packet)

/-! ## The node -/

/-- `handle_get_info`, the UUID and the versions. -/
def handleGetInfo : Packet :=
  if request.payload ≠ [] then makeResponse request .invalidPayload
  else respond request
    (board.nodeInfo.uuid.bytes ++ putU16 board.nodeInfo.firmwareMajor ++
      putU16 board.nodeInfo.firmwareMinor ++ putU16 board.nodeInfo.firmwarePatch ++
      putU32 board.nodeInfo.boardType ++ [board.nodeInfo.protocolVersion])

/-- `handle_get_capability`, the capabilities of the board. -/
def handleGetCapability : Packet :=
  if request.payload ≠ [] then makeResponse request .invalidPayload
  else respond request (putU64 board.capabilities)

/-- `handle_ping`, which sends the payload back. -/
def handlePing : Packet :=
  if request.payload.length ≥ kMaximumPayloadSize then makeResponse request .invalidPayload
  else respond request request.payload

/-- The payload that asks for the bootloader, `RBSPBOOT`. -/
def bootloaderConfirmation : List UInt8 := [0x52, 0x42, 0x53, 0x50, 0x42, 0x4F, 0x4F, 0x54]

/-- `handle_bootloader_enter`, which sets the flag that the transport reads. -/
def handleBootloaderEnter : Packet × RemoteCore :=
  if request.header.objectId ≠ 0 ∨ request.payload ≠ bootloaderConfirmation then
    (makeResponse request .invalidPayload, core)
  else if ¬board.hasCapability capabilityBootloader then
    (makeResponse request .unsupportedCapability, core)
  else (makeResponse request .ok, { core with bootloaderRequested := true })

/-! ## Resources -/

/-- `handle_resource_enum`, the whole catalog. -/
def handleResourceEnum : Reply :=
  if request.payload ≠ [] ∨ request.header.objectId ≠ 0 then
    .ok (makeResponse request .invalidPayload)
  else match encodeResourceList board.resources with
    | .error e => .error (.resource e)
    | .ok encoded =>
      if encoded.length + 1 > kMaximumPayloadSize then
        .ok (makeResponse request .resourceExhausted)
      else .ok (respond request encoded)

/-- `handle_resource_describe`, one entry of the catalog. -/
def handleResourceDescribe : Packet :=
  if request.header.objectId ≠ 0 ∨ request.payload.length ≠ 4 then
    makeResponse request .invalidPayload
  else match board.findResource (getU32 request.payload 0) with
    | none => makeResponse request .objectNotFound
    | some resource => respond request (encodeResourceDescriptor resource)

/-- The errors of a port that `handle_resource_status` reports. -/
def uartErrorFlags (resource : ResourceDescriptor) (status : UartRuntimeStatus) : UInt32 :=
  (if status.rxOverruns ≠ 0 then kResourceErrorRxOverflow else 0) |||
    (if status.txOverruns ≠ 0 then kResourceErrorTxOverflow else 0) |||
    (if resource.rxCapacity ≠ 0 ∧
        status.rxBuffered.toUInt64 * 4 ≥ resource.rxCapacity.toUInt64 * 3 then
      kResourceErrorRxHighWater else 0) |||
    (if resource.txCapacity ≠ 0 ∧
        status.txBuffered.toUInt64 * 4 ≥ resource.txCapacity.toUInt64 * 3 then
      kResourceErrorTxHighWater else 0)

/-- The status of a port: its buffers, what it has lost, and whether it has failed. -/
def uartResourceStatus (resource : ResourceDescriptor) (status : UartRuntimeStatus) :
    ResourceStatusPayload :=
  let errorFlags := uartErrorFlags resource status
  { resourceId := resource.resourceId
    rxBuffered := status.rxBuffered
    txBuffered := status.txBuffered
    rxOverruns := status.rxOverruns
    txOverruns := status.txOverruns
    errorFlags :=
      if status.failed then errorFlags ||| kResourceErrorBackendFailure else errorFlags
    health :=
      if status.failed then .failed
      else if errorFlags &&& (kResourceErrorRxOverflow ||| kResourceErrorTxOverflow) ≠ 0 then
        .degraded
      else if errorFlags ≠ 0 then .busy
      else .normal }

/-- The status of an axis: the queue of its executor, and whether a fault has stopped it. -/
def motionResourceStatus (resource : ResourceDescriptor) (motion : MotionExecutor) :
    ResourceStatusPayload :=
  if motion.fault ≠ .none then
    { resourceId := resource.resourceId
      errorFlags := kResourceErrorBackendFailure
      health := .failed }
  else if motion.state = .armed ∨ motion.state = .running then
    { resourceId := resource.resourceId, health := .busy }
  else { resourceId := resource.resourceId }

/-- The status of a resource, by its type. -/
def resourceStatus (resource : ResourceDescriptor) : ResourceStatusPayload :=
  match resource.type, core.uartBsp, core.motion with
  | .uart, some bsp, _ =>
    if resource.instance' ≤ 0xFF then
      uartResourceStatus resource (bsp.status resource.instance'.toUInt8)
    else { resourceId := resource.resourceId }
  | .stepgenAxis, _, some motion => motionResourceStatus resource motion
  | _, _, _ => { resourceId := resource.resourceId }

/-- `handle_resource_status`, of a resource of the catalog. -/
def handleResourceStatus : Packet :=
  if request.header.objectId ≠ 0 ∨ request.payload.length ≠ 4 then
    makeResponse request .invalidPayload
  else match board.findResource (getU32 request.payload 0) with
    | none => makeResponse request .objectNotFound
    | some resource => respond request (encodeResourceStatus (core.resourceStatus resource))

/-- The part of `handle_resource_reset` about motion. -/
def resetMotion (motion : MotionExecutor) : StatusCode × MotionExecutor :=
  let stopped : Except MotionException MotionExecutor :=
    if motion.state = .armed ∨ motion.state = .running then
      (motion.abort motion.nowNs .aborted).map Prod.snd
    else .ok motion
  match stopped with
  | .error _ => (.resourceFailed, motion)
  | .ok stopped =>
    match stopped.clearFault with
    | .error _ => (.resourceFailed, stopped)
    | .ok cleared => (.ok, cleared)

/-- The part of `handle_resource_reset` behind the check of the access. -/
def resetResource (resource : ResourceDescriptor) : Packet × RemoteCore :=
  match resource.type, core.uartBsp, core.motion with
  | .stepgenAxis, _, some motion =>
    let (status, motion) := resetMotion motion
    (makeResponse request status, { core with motion := some motion })
  | .uart, some bsp, _ =>
    if resource.instance' > 0xFF then (makeResponse request .unsupportedCapability, core)
    else match bsp.reset resource.instance'.toUInt8 with
      | .error e => (uartErrorResponse request e, core)
      | .ok bsp => (makeResponse request .ok, { core with uartBsp := some bsp })
  | _, _, _ => (makeResponse request .unsupportedCapability, core)

/-- `handle_resource_reset`, by a session that may access the resource. -/
def handleResourceReset : Packet × RemoteCore :=
  if request.header.objectId ≠ 0 ∨ request.payload.length ≠ 4 then
    (makeResponse request .invalidPayload, core)
  else
    let resourceId := getU32 request.payload 0
    match board.findResource resourceId with
    | none => (makeResponse request .objectNotFound, core)
    | some resource =>
      if ¬core.resourceAccessAllowed resourceId request.header.sessionId ∨
          core.leaseActive resourceId ∧
            ¬core.sessionHasExclusiveLease resourceId request.header.sessionId then
        (makeResponse request .accessDenied, core)
      else core.resetResource request resource

/-- `handle_resource_contract`, of a resource that has one. -/
def handleResourceContract : Reply :=
  if request.header.objectId ≠ 0 ∨ request.payload.length ≠ 4 then
    .ok (makeResponse request .invalidPayload)
  else
    let resourceId := getU32 request.payload 0
    match board.findResource resourceId with
    | none => .ok (makeResponse request .objectNotFound)
    | some _ =>
      match board.findContract resourceId with
      | none => .ok (makeResponse request .unsupportedCapability)
      | some contract =>
        match encodeResourceContract contract with
        | .error e => .error (.resource e)
        | .ok encoded => .ok (respond request encoded)

/-! ## Leases -/

/-- `next_lease_id_` behind the grant of a lease. -/
def advanceLeaseId (leaseId : UInt64) : UInt64 :=
  if leaseId + 1 = 0 then 1 else leaseId + 1

/-- The grant of a lease, behind those that are on the resource already. -/
def grantLease (entries : List Lease) (lease : ResourceLeaseRequest) (sessionId : UInt32)
    (now : ℤ) : RemoteCore :=
  { core with
    nextLeaseId := advanceLeaseId core.nextLeaseId
    leases := core.leases.insert lease.resourceId (entries ++ [{
      leaseId := core.nextLeaseId
      ownerSessionId := sessionId
      grantedDurationMs := lease.durationMs
      mode := lease.mode
      expiresAt := now + leaseDuration lease.durationMs }]) }

/-- Whether a lease cannot be had together with those there are and the objects. -/
def leaseBusy (entries : List Lease) (lease : ResourceLeaseRequest) (sessionId : UInt32) : Bool :=
  (entries.any fun entry => entry.ownerSessionId = sessionId) ||
    (decide (lease.mode = .exclusive) &&
      (!entries.isEmpty || core.resourceHasObjects lease.resourceId)) ||
    (decide (lease.mode = .sharedRead) &&
      ((entries.any fun entry => entry.mode = .exclusive) ||
        core.resourceHasObjects lease.resourceId))

/-- The part of `handle_resource_acquire` behind the checks of the request. The entry of the
resource is made if there is none, and is erased again if it is left empty. -/
def acquireLease (lease : ResourceLeaseRequest) (now : ℤ) : Packet × RemoteCore :=
  let sessionId := request.header.sessionId
  let entries := (core.leases.lookup lease.resourceId).getD []
  if core.leaseBusy entries lease sessionId then
    (makeResponse request .resourceBusy,
      if entries.isEmpty then { core with leases := core.leases.erase lease.resourceId } else core)
  else
    let core := core.grantLease entries lease sessionId now
    (respond request (encodeResourceLeaseInfo (core.makeLeaseInfo lease.resourceId sessionId now)),
      core)

/-- `handle_resource_acquire`, unless the leases on the resource, or the objects on it, forbid it.
-/
def handleResourceAcquire (now : ℤ) : Packet × RemoteCore :=
  if request.header.objectId ≠ 0 ∨ request.header.sessionId = 0 then
    (makeResponse request .invalidPayload, core)
  else match decodeResourceLeaseRequest request.payload with
    | .error _ => (makeResponse request .invalidPayload, core)
    | .ok lease =>
      if lease.durationMs < kMinimumLeaseDurationMs ∨
          lease.durationMs > kMaximumLeaseDurationMs then
        (makeResponse request .invalidPayload, core)
      else if (board.findResource lease.resourceId).isNone then
        (makeResponse request .objectNotFound, core)
      else if ¬board.contractHas lease.resourceId kResourceAccessLeaseSupported then
        (makeResponse request .unsupportedCapability, core)
      else if lease.mode = .sharedRead ∧
          ¬board.contractHas lease.resourceId kResourceAccessSharedRead then
        (makeResponse request .accessDenied, core)
      else core.acquireLease request lease now

/-- The part of `handle_resource_renew` behind the checks of the request. -/
def renewLease (token : ResourceLeaseTokenRequest) (now : ℤ) : Packet × RemoteCore :=
  let sessionId := request.header.sessionId
  match core.leases.lookup token.resourceId with
  | none => (makeResponse request .accessDenied, core)
  | some entries =>
    if ¬entries.any (Lease.namedBy token.leaseId sessionId) then
      (makeResponse request .accessDenied, core)
    else
      let core := { core with
        leases := core.leases.insert token.resourceId
          (entries.modifyFirst (Lease.namedBy token.leaseId sessionId)
            (Lease.renew token.durationMs now)) }
      (respond request
        (encodeResourceLeaseInfo (core.makeLeaseInfo token.resourceId sessionId now)), core)

/-- `handle_resource_renew`, of a lease that the session names. -/
def handleResourceRenew (now : ℤ) : Packet × RemoteCore :=
  if request.header.objectId ≠ 0 ∨ request.header.sessionId = 0 then
    (makeResponse request .invalidPayload, core)
  else match decodeResourceLeaseTokenRequest request.payload with
    | .error _ => (makeResponse request .invalidPayload, core)
    | .ok token =>
      if token.leaseId = 0 ∨ token.durationMs < kMinimumLeaseDurationMs ∨
          token.durationMs > kMaximumLeaseDurationMs then
        (makeResponse request .invalidPayload, core)
      else if (board.findResource token.resourceId).isNone then
        (makeResponse request .objectNotFound, core)
      else core.renewLease request token now

/-- The table of leases without the lease that a session names. -/
def eraseLease (resourceId : UInt32) (entries : List Lease) (leaseId : UInt64)
    (sessionId : UInt32) : Map UInt32 (List Lease) :=
  let entries := entries.eraseP (Lease.namedBy leaseId sessionId)
  if entries.isEmpty then core.leases.erase resourceId else core.leases.insert resourceId entries

/-- The part of `handle_resource_release` behind the checks of the request. -/
def releaseLease (token : ResourceLeaseTokenRequest) : Packet × RemoteCore :=
  let sessionId := request.header.sessionId
  match core.leases.lookup token.resourceId with
  | none => (makeResponse request .accessDenied, core)
  | some entries =>
    if ¬entries.any (Lease.namedBy token.leaseId sessionId) then
      (makeResponse request .accessDenied, core)
    else
      (makeResponse request .ok,
        { core.releaseResourceObjects board token.resourceId sessionId with
          leases := core.eraseLease token.resourceId entries token.leaseId sessionId })

/-- `handle_resource_release`, of a lease that the session names, with the objects opened under it.
-/
def handleResourceRelease : Packet × RemoteCore :=
  if request.header.objectId ≠ 0 ∨ request.header.sessionId = 0 then
    (makeResponse request .invalidPayload, core)
  else match decodeResourceLeaseTokenRequest request.payload with
    | .error _ => (makeResponse request .invalidPayload, core)
    | .ok token =>
      if token.leaseId = 0 ∨ token.durationMs ≠ 0 then (makeResponse request .invalidPayload, core)
      else if (board.findResource token.resourceId).isNone then
        (makeResponse request .objectNotFound, core)
      else core.releaseLease board request token

/-- `handle_resource_lease_status`. The ID of the lease is not told. -/
def handleResourceLeaseStatus (now : ℤ) : Packet :=
  if request.header.objectId ≠ 0 ∨ request.payload.length ≠ 4 then
    makeResponse request .invalidPayload
  else
    let resourceId := getU32 request.payload 0
    if (board.findResource resourceId).isNone then makeResponse request .objectNotFound
    else if ¬board.contractHas resourceId kResourceAccessLeaseSupported then
      makeResponse request .unsupportedCapability
    else
      respond request (encodeResourceLeaseInfo
        { core.makeLeaseInfo resourceId request.header.sessionId now with leaseId := 0 })

/-! ## Pins and ports -/

/-- The resource of a new object, and its owner: the session, if it has the resource to itself. A
session that has not is refused a resource that has to be leased, or is. -/
def objectOwner (type : ResourceType) (instance' : UInt16) (sessionId : UInt32) :
    Except StatusCode (UInt32 × UInt32) :=
  match board.findInstance type instance' with
  | none => if board.hasType type then .error .objectNotFound else .ok (0, 0)
  | some resource =>
    let exclusive := core.sessionHasExclusiveLease resource.resourceId sessionId
    if (board.contractHas resource.resourceId kResourceAccessLeaseRequired ∨
        core.leaseActive resource.resourceId) ∧ ¬exclusive then
      .error .accessDenied
    else .ok (resource.resourceId, if exclusive then sessionId else 0)

/-- The part of `handle_gpio_create` behind the checks of the request. -/
def createGpio (bsp : MockGpioBsp) (pin : UInt16) (direction : GpioDirection)
    (initialValue : Bool) : Packet × RemoteCore :=
  match core.objectOwner board .gpio pin request.header.sessionId with
  | .error status => (makeResponse request status, core)
  | .ok (resourceId, ownerSessionId) =>
    if core.gpioObjects.anyValue (fun object => object.pin = pin) then
      (makeResponse request .resourceBusy, core)
    else
      (respondCreated request core.nextObjectId,
        { core with
          gpioBsp := some (bsp.configure pin direction initialValue)
          nextObjectId := core.nextObjectId + 1
          gpioObjects :=
            core.gpioObjects.emplace core.nextObjectId
              ⟨pin, direction, resourceId, ownerSessionId⟩ })

/-- `handle_gpio_create`, on a pin that has no object and that the session may use. -/
def handleGpioCreate : Packet × RemoteCore :=
  match core.gpioBsp with
  | none => (makeResponse request .unsupportedCapability, core)
  | some bsp =>
    if ¬board.hasCapability capabilityGpio then (makeResponse request .unsupportedCapability, core)
    else if request.header.objectId ≠ 0 ∨ request.payload.length ≠ 4 ∨
        byteAt request.payload 2 > 1 ∨ byteAt request.payload 3 > 1 then
      (makeResponse request .invalidPayload, core)
    else if core.nextObjectId = 0 ∨ core.gpioObjects.entries.length ≥ 0xFFFFFFFF - 1 then
      (makeResponse request .resourceExhausted, core)
    else
      core.createGpio board request bsp (getU16 request.payload 0)
        (if byteAt request.payload 2 = 1 then .output else .input) (byteAt request.payload 3 ≠ 0)

/-- Whether an owned object is another session's. -/
def foreign (ownerSessionId sessionId : UInt32) : Bool :=
  ownerSessionId ≠ 0 ∧ ownerSessionId ≠ sessionId

/-- `handle_gpio_read`, through an object that the session may use. -/
def handleGpioRead : Reply × RemoteCore :=
  match core.gpioBsp with
  | none => (.ok (makeResponse request .unsupportedCapability), core)
  | some bsp =>
    if ¬board.hasCapability capabilityGpio then
      (.ok (makeResponse request .unsupportedCapability), core)
    else if request.payload ≠ [] ∨ request.header.objectId = 0 then
      (.ok (makeResponse request .invalidPayload), core)
    else match core.gpioObjects.lookup request.header.objectId with
      | none => (.ok (makeResponse request .objectNotFound), core)
      | some object =>
        if foreign object.ownerSessionId request.header.sessionId then
          (.ok (makeResponse request .accessDenied), core)
        else match bsp.read object.pin with
          | (.error e, _) => (.error (.gpio e), core)
          | (.ok value, bsp) =>
            (.ok (respond request [value.toUInt8]), { core with gpioBsp := some bsp })

/-- `handle_gpio_write`, through an object that the session may use. -/
def handleGpioWrite : Reply × RemoteCore :=
  match core.gpioBsp with
  | none => (.ok (makeResponse request .unsupportedCapability), core)
  | some bsp =>
    if ¬board.hasCapability capabilityGpio then
      (.ok (makeResponse request .unsupportedCapability), core)
    else if request.payload.length ≠ 1 ∨ byteAt request.payload 0 > 1 ∨
        request.header.objectId = 0 then
      (.ok (makeResponse request .invalidPayload), core)
    else match core.gpioObjects.lookup request.header.objectId with
      | none => (.ok (makeResponse request .objectNotFound), core)
      | some object =>
        if foreign object.ownerSessionId request.header.sessionId then
          (.ok (makeResponse request .accessDenied), core)
        else if object.direction ≠ .output then (.ok (makeResponse request .accessDenied), core)
        else match bsp.write object.pin (byteAt request.payload 0 ≠ 0) with
          | .error e => (.error (.gpio e), core)
          | .ok bsp => (.ok (makeResponse request .ok), { core with gpioBsp := some bsp })

/-- The part of `handle_uart_create` behind the checks of the request. -/
def createUart (bsp : MockUartBsp) (port : UInt8) (config : UartConfig) (streaming : Bool) :
    Packet × RemoteCore :=
  match core.objectOwner board .uart port.toUInt16 request.header.sessionId with
  | .error status => (makeResponse request status, core)
  | .ok (resourceId, ownerSessionId) =>
    if core.uartObjects.anyValue (fun object => object.port = port) then
      (makeResponse request .resourceBusy, core)
    else match bsp.configure port config with
      | .error e => (uartErrorResponse request e, core)
      | .ok bsp =>
        (respondCreated request core.nextObjectId,
          { core with
            uartBsp := some bsp
            nextObjectId := core.nextObjectId + 1
            uartObjects :=
              core.uartObjects.emplace core.nextObjectId
                ⟨port, resourceId, ownerSessionId, streaming, 0⟩ })

/-- The settings that a request asks for. -/
def decodeUartConfig (payload : List UInt8) : Option UartConfig :=
  let baudRate := getU32 payload 1
  let dataBits := byteAt payload 5
  let stopBits := byteAt payload 6
  if baudRate = 0 ∨ dataBits < 5 ∨ dataBits > 8 ∨ (stopBits ≠ 1 ∧ stopBits ≠ 2) then none
  else (UartParity.ofValue (byteAt payload 7)).map fun parity =>
    { baudRate := baudRate, dataBits := dataBits, stopBits := stopBits, parity := parity }

/-- `handle_uart_create`, on a port that has no object and that the session may use. -/
def handleUartCreate : Packet × RemoteCore :=
  match core.uartBsp with
  | none => (makeResponse request .unsupportedCapability, core)
  | some bsp =>
    if ¬board.hasCapability capabilityUart then (makeResponse request .unsupportedCapability, core)
    else if request.header.objectId ≠ 0 ∨
        (request.payload.length ≠ 8 ∧ request.payload.length ≠ 9) then
      (makeResponse request .invalidPayload, core)
    else match decodeUartConfig request.payload with
      | none => (makeResponse request .invalidPayload, core)
      | some config =>
        if request.payload.length = 9 ∧ byteAt request.payload 8 > 1 then
          (makeResponse request .invalidPayload, core)
        else if core.nextObjectId = 0 then (makeResponse request .resourceExhausted, core)
        else
          core.createUart board request bsp (byteAt request.payload 0) config
            (request.payload.length = 9 ∧ byteAt request.payload 8 = 1)

/-- `handle_uart_read`, through an object that the session may use. -/
def handleUartRead : Packet × RemoteCore :=
  match core.uartBsp with
  | none => (makeResponse request .unsupportedCapability, core)
  | some bsp =>
    if ¬board.hasCapability capabilityUart then (makeResponse request .unsupportedCapability, core)
    else if request.header.objectId = 0 ∨ request.payload.length ≠ 2 then
      (makeResponse request .invalidPayload, core)
    else
      let maximumLength := (getU16 request.payload 0).toNat
      if maximumLength = 0 ∨ maximumLength > kMaximumPayloadSize - 1 then
        (makeResponse request .invalidPayload, core)
      else match core.uartObjects.lookup request.header.objectId with
        | none => (makeResponse request .objectNotFound, core)
        | some object =>
          if foreign object.ownerSessionId request.header.sessionId then
            (makeResponse request .accessDenied, core)
          else if object.streaming then (makeResponse request .accessDenied, core)
          else match bsp.read object.port maximumLength with
            | .error e => (uartErrorResponse request e, core)
            | .ok (data, bsp) =>
              let core := { core with uartBsp := some bsp }
              if data.length > maximumLength ∨ data.length > kMaximumPayloadSize - 1 then
                (makeResponse request .invalidPayload, core)
              else (respond request data, core)

/-- `handle_uart_write`, through an object that the session may use. -/
def handleUartWrite : Packet × RemoteCore :=
  match core.uartBsp with
  | none => (makeResponse request .unsupportedCapability, core)
  | some bsp =>
    if ¬board.hasCapability capabilityUart then (makeResponse request .unsupportedCapability, core)
    else if request.header.objectId = 0 ∨ request.payload = [] then
      (makeResponse request .invalidPayload, core)
    else match core.uartObjects.lookup request.header.objectId with
      | none => (makeResponse request .objectNotFound, core)
      | some object =>
        if foreign object.ownerSessionId request.header.sessionId then
          (makeResponse request .accessDenied, core)
        else match bsp.write object.port request.payload with
          | (.error e, bsp) => (uartErrorResponse request e, { core with uartBsp := some bsp })
          | (.ok (), bsp) => (makeResponse request .ok, { core with uartBsp := some bsp })

/-- One iteration of `poll_uart_events`: an object that streams reports what its port has received.
-/
def pollUartObject (maximumPayload : ℕ) (events : List Packet) (objectId : UInt32)
    (object : UartObject) : List Packet × RemoteCore :=
  match core.uartBsp with
  | none => (events, core)
  | some bsp =>
    if ¬object.streaming then (events, core)
    else match bsp.read object.port maximumPayload with
      | .error _ => (events, core)
      | .ok ([], bsp) => (events, { core with uartBsp := some bsp })
      | .ok (data, bsp) =>
        let sequence := object.eventSequence + 1
        (events ++ [{
            header := {
              messageType := .event
              command := Command.uartRxEvent
              requestId := sequence
              objectId := objectId }
            payload := data }],
          { core with
            uartBsp := some bsp
            uartObjects := core.uartObjects.insert objectId
              { object with eventSequence := sequence } })

/-- `poll_uart_events`; `none` is the exception for a length that is out of range. -/
def pollUartEvents (maximumPayload : ℕ) : Option (List Packet) × RemoteCore :=
  if maximumPayload = 0 ∨ maximumPayload > kMaximumPayloadSize then (none, core)
  else
    let (events, core) := core.uartObjects.entries.foldl (fun (events, core) entry =>
      core.pollUartObject maximumPayload events entry.1 entry.2) ([], core)
    (some events, core)

/-! ## Motion -/

/-- The check of `handle_motion_enqueue` of one axis. -/
def axisRefused (sessionId resourceId : UInt32) : Option StatusCode :=
  if ¬board.isAxis resourceId then some .objectNotFound
  else if (board.contractHas resourceId kResourceAccessLeaseRequired ∨
      core.leaseActive resourceId) ∧ ¬core.sessionHasExclusiveLease resourceId sessionId then
    some .accessDenied
  else none

/-- The reply to a segment that the executor does not take. -/
def motionErrorStatus (error : MotionException) : StatusCode :=
  match error.code with
  | .queueFull => .resourceExhausted
  | .faultLatched => .resourceFailed
  | _ => .invalidPayload

/-- The segment that a request asks for. -/
def segmentOf (decoded : MotionSegmentPayload) : MotionSegment where
  sequence := decoded.sequence
  startTimeNs := decoded.startTimeNs
  durationNs := decoded.durationNs
  finalSegment := decoded.finalSegment
  axes := decoded.axes.map fun axis => ⟨axis.resourceId, axis.steps⟩

/-- The part of `handle_motion_enqueue` behind the checks of the request. -/
def enqueueMotion (motion : MotionExecutor) (decoded : MotionSegmentPayload) :
    Reply × RemoteCore :=
  match motion.enqueue (segmentOf decoded) motion.nowNs with
  | (.error e, motion) =>
    (.ok (makeResponse request (motionErrorStatus e)), { core with motion := some motion })
  | (.ok accepted, motion) =>
    let core := { core with motion := some motion }
    match encodeMotionAcceptance ⟨decoded.sequence, accepted.startTimeNs, decoded.durationNs,
        decoded.finalSegment⟩ with
    | .error e => (.error (.motion e), core)
    | .ok encoded => (.ok (respond request encoded), core)

/-- `handle_motion_enqueue`, by a session that may move the axes of the segment. -/
def handleMotionEnqueue : Reply × RemoteCore :=
  match core.motion with
  | none => (.ok (makeResponse request .unsupportedCapability), core)
  | some motion =>
    if ¬board.hasCapability capabilityMotion then
      (.ok (makeResponse request .unsupportedCapability), core)
    else if request.header.objectId ≠ 0 then (.ok (makeResponse request .invalidPayload), core)
    else match decodeMotionSegment request.payload with
      | .error _ => (.ok (makeResponse request .invalidPayload), core)
      | .ok decoded =>
        match decoded.axes.findSome? fun axis =>
            core.axisRefused board request.header.sessionId axis.resourceId with
        | some status => (.ok (makeResponse request status), core)
        | none => core.enqueueMotion request motion decoded

/-- The status of an executor, as it is sent. -/
def motionStatus (motion : MotionExecutor) : MotionStatusPayload where
  state := motion.state.value
  fault := motion.fault.value
  nodeTimeNs := motion.nowNs
  queueDepth := UInt16.ofNat motion.queue.length
  queueCapacity := UInt16.ofNat motion.queueCapacity
  lastAcceptedSequence := motion.lastAcceptedSequence
  lastCompletedSequence := motion.lastCompletedSequence
  metrics := {
    acceptedSegments := motion.metrics.acceptedSegments
    rejectedSegments := motion.metrics.rejectedSegments
    completedSegments := motion.metrics.completedSegments
    emittedEdges := motion.metrics.emittedEdges
    emittedSteps := motion.metrics.emittedSteps
    safetyStops := motion.metrics.safetyStops
    limitStops := motion.metrics.limitStops
    queueUnderruns := motion.metrics.queueUnderruns
    maximumQueueDepth := UInt16.ofNat motion.metrics.maximumQueueDepth }
  axes := motion.axes.map fun axis => {
    resourceId := axis.config.resourceId
    enabled := axis.enabled
    directionPositive := axis.directionPositive
    stepLevel := axis.stepLevel
    positionSteps := axis.positionSteps
    emittedSteps := axis.emittedSteps }

/-- The checks that the other commands on motion share, and what is done behind them. -/
def withMotion (act : MotionExecutor → Reply × RemoteCore) : Reply × RemoteCore :=
  match core.motion with
  | none => (.ok (makeResponse request .unsupportedCapability), core)
  | some motion =>
    if ¬board.hasCapability capabilityMotion then
      (.ok (makeResponse request .unsupportedCapability), core)
    else if request.header.objectId ≠ 0 ∨ request.payload ≠ [] then
      (.ok (makeResponse request .invalidPayload), core)
    else act motion

/-- `handle_motion_status`, as the executor stands. -/
def handleMotionStatus : Reply × RemoteCore :=
  core.withMotion board request fun motion =>
    match encodeMotionStatus (motionStatus motion) with
    | .error e => (.error (.motion e), core)
    | .ok encoded => (.ok (respond request encoded), core)

/-- `handle_motion_abort`, which any session may ask for. -/
def handleMotionAbort : Reply × RemoteCore :=
  core.withMotion board request fun motion =>
    match motion.abort motion.nowNs .aborted with
    | .error e =>
      (.ok (makeResponse request
        (if e.code = .faultLatched then .resourceFailed else .invalidPayload)), core)
    | .ok (_, motion) => (.ok (makeResponse request .ok), { core with motion := some motion })

/-- `handle_motion_clear_fault`, which any session may ask for. -/
def handleMotionClearFault : Reply × RemoteCore :=
  core.withMotion board request fun motion =>
    match motion.clearFault with
    | .error _ => (.ok (makeResponse request .resourceBusy), core)
    | .ok motion => (.ok (makeResponse request .ok), { core with motion := some motion })

/-! ## `RemoteCore::handle` -/

/-- The outcome of a handler that does not throw. -/
def returns (outcome : Packet × RemoteCore) : Reply × RemoteCore := (.ok outcome.1, outcome.2)

/-- The `switch` of `handle`, by the command. -/
def dispatch (now : ℤ) : Reply × RemoteCore :=
  let command := request.header.command
  if command = Command.getInfo then (.ok (handleGetInfo board request), core)
  else if command = Command.getCapability then (.ok (handleGetCapability board request), core)
  else if command = Command.ping then (.ok (handlePing request), core)
  else if command = Command.bootloaderEnter ∨ command = Command.bootloaderEnterUsb then
    returns (core.handleBootloaderEnter board request)
  else if command = Command.resourceEnum then (handleResourceEnum board request, core)
  else if command = Command.resourceDescribe then (.ok (handleResourceDescribe board request), core)
  else if command = Command.resourceStatus then
    (.ok (core.handleResourceStatus board request), core)
  else if command = Command.resourceReset then returns (core.handleResourceReset board request)
  else if command = Command.resourceContract then (handleResourceContract board request, core)
  else if command = Command.resourceAcquire then
    returns (core.handleResourceAcquire board request now)
  else if command = Command.resourceRenew then returns (core.handleResourceRenew board request now)
  else if command = Command.resourceRelease then returns (core.handleResourceRelease board request)
  else if command = Command.resourceLeaseStatus then
    (.ok (core.handleResourceLeaseStatus board request now), core)
  else if command = Command.gpioCreate then returns (core.handleGpioCreate board request)
  else if command = Command.gpioRead then core.handleGpioRead board request
  else if command = Command.gpioWrite then core.handleGpioWrite board request
  else if command = Command.uartCreate then returns (core.handleUartCreate board request)
  else if command = Command.uartRead then returns (core.handleUartRead board request)
  else if command = Command.uartWrite then returns (core.handleUartWrite board request)
  else if command = Command.motionEnqueue then core.handleMotionEnqueue board request
  else if command = Command.motionStatus then core.handleMotionStatus board request
  else if command = Command.motionAbort then core.handleMotionAbort board request
  else if command = Command.motionClearFault then core.handleMotionClearFault board request
  else (.ok (makeResponse request .unknownCommand), core)

/-- `RemoteCore::handle`: the request is checked, expired leases end, and then it is handled. -/
def handle (now : ℤ) : Reply × RemoteCore :=
  if request.header.messageType ≠ .request then
    (.error (.core ⟨.notRequest, "远程核心只接受请求消息"⟩), core)
  else if request.header.version ≠ kProtocolVersion then
    (.error (.core ⟨.unsupportedVersion, "请求协议版本不受支持"⟩), core)
  else (core.expireLeases board now).2.dispatch board request now

end RemoteCore

/-! ## The core in its surroundings -/

/-- The calls that change a core. -/
inductive CoreEvent
  | handle (request : Packet) (now : ℤ)
  | expireLeases (now : ℤ)
  | releaseSession (sessionId : UInt32)
  | pollUartEvents (maximumPayload : ℕ)
  | setGpio (bsp : MockGpioBsp)
  | setUart (bsp : MockUartBsp)
  | advanceMotion (nowNs : UInt64)
  | triggerLimit (axisResourceId : UInt32) (nowNs : UInt64)

/-- The core behind an event. The outside may leave the pins and the ports in any state. -/
def RemoteCore.step (board : Board) (core : RemoteCore) : CoreEvent → RemoteCore
  | .handle request now => (core.handle board request now).2
  | .expireLeases now => (core.expireLeases board now).2
  | .releaseSession sessionId => (core.releaseSession board sessionId).2
  | .pollUartEvents maximumPayload => (core.pollUartEvents maximumPayload).2
  | .setGpio bsp => { core with gpioBsp := core.gpioBsp.map fun _ => bsp }
  | .setUart bsp => { core with uartBsp := core.uartBsp.map fun _ => bsp }
  | .advanceMotion nowNs =>
    { core with motion := core.motion.map fun motion =>
        match motion.advanceTo nowNs with
        | .error _ => motion
        | .ok (_, motion) => motion }
  | .triggerLimit axisResourceId nowNs =>
    { core with motion := core.motion.map fun motion =>
      (motion.triggerLimit axisResourceId nowNs).2 }

/-- A core, and how many leases it has granted. -/
structure Ledger where
  /-- The core behind the calls. -/
  core : RemoteCore
  /-- How many leases it has granted. -/
  grants : ℕ := 0

/-- The core of a board. Each grant takes an ID for the lease. -/
def coreMachine (board : Board) : Machine Ledger CoreEvent Unit where
  step ledger event :=
    let core := ledger.core.step board event
    ({ core := core
       grants :=
         if core.nextLeaseId = ledger.core.nextLeaseId then ledger.grants else ledger.grants + 1 },
      ())

end RemoteBSP.MockMcu
