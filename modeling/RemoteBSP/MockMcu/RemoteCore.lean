import RemoteBSP.MockMcu.GpioBsp
import RemoteBSP.MockMcu.MotionExecutor
import RemoteBSP.MockMcu.UartBsp
import RemoteBSP.Protocol.Discovery
import RemoteBSP.Protocol.Packet
import RemoteBSP.Protocol.Resource

/-!
# The core of the mock node

`RemoteCore` of `mock_mcu/src/remote_core.cpp`: it answers the requests of all sessions, and keeps
the leases on the resources of the board and the objects that the sessions have created on its pins
and ports. What the constructor is given and never changes is the `Board`, whose checks are fields.

A handler returns the reply and the core behind it. An exception that leaves `handle` is a reply of
its own kind. The parts of a long handler that stand on their own have names of their own.
-/

namespace RemoteBSP.MockMcu

/-- `Capability::Gpio`, without which no object is created on a pin. -/
def capabilityGpio : UInt64 := (1 : UInt64) <<< 0

/-- `Capability::Uart`, without which no object is created on a port. -/
def capabilityUart : UInt64 := (1 : UInt64) <<< 1

/-- `Capability::Bootloader`, without which the bootloader cannot be asked for. -/
def capabilityBootloader : UInt64 := (1 : UInt64) <<< 8

/-- `Capability::Motion`, without which the motion commands are refused. -/
def capabilityMotion : UInt64 := (1 : UInt64) <<< 9

/-- `StatusCode`, the outcome of a request as the payload of its response begins with it. -/
inductive StatusCode
  | ok
  | unknownCommand
  | invalidPayload
  | objectNotFound
  | accessDenied
  | resourceExhausted
  | unsupportedCapability
  | resourceFailed
  | resourceBusy
deriving DecidableEq, Repr

/-- The byte by which a status is sent. -/
def StatusCode.value : StatusCode → UInt8
  | .ok => 0
  | .unknownCommand => 1
  | .invalidPayload => 2
  | .objectNotFound => 3
  | .accessDenied => 4
  | .resourceExhausted => 5
  | .unsupportedCapability => 6
  | .resourceFailed => 7
  | .resourceBusy => 8

/-- `NodeInfo`, what a board reports in answer to DISCOVERY_REQUEST and GET_INFO. -/
structure NodeInfo where
  /-- The UUID by which the host recognises the board and assigns it a node ID. -/
  uuid : NodeUuid
  /-- The major version of the firmware. -/
  firmwareMajor : UInt16
  /-- The minor version of the firmware. -/
  firmwareMinor : UInt16
  /-- The patch level of the firmware. -/
  firmwarePatch : UInt16
  /-- The number of the kind of board. -/
  boardType : UInt32
  /-- The version of the protocol that the node speaks. -/
  protocolVersion : UInt8 := kProtocolVersion
deriving DecidableEq, Repr

/-- A board of the first type that nobody has given a UUID. -/
def NodeInfo.unnamed : NodeInfo :=
  ⟨⟨List.replicate 16 0, NodeUuid.length_zeros⟩, 1, 0, 0, 1, kProtocolVersion⟩

/-- It speaks this version of the protocol. -/
theorem NodeInfo.version_unnamed : NodeInfo.unnamed.protocolVersion = kProtocolVersion := rfl

/-- `CoreError`, the reasons for which the core throws. -/
inductive CoreError
  | notRequest
  | unsupportedVersion
  | invalidResourceCatalog
deriving DecidableEq, Repr

/-- `CoreException`, a reason with its text. -/
structure CoreException where
  /-- What keeps the core from handling the packet, or from being made. -/
  code : CoreError
  /-- The text of `what`, which says why the core cannot. -/
  message : String
deriving DecidableEq, Repr

/-- The exceptions that leave `handle`, by the component that throws them. -/
inductive HandleException
  | core (e : CoreException)
  | gpio (e : MockGpioException)
  | resource (e : ResourcePayloadException)
  | motion (e : MotionPayloadException)
deriving DecidableEq, Repr

/-- A reply, or the exception in its place. -/
abbrev Reply : Type := Except HandleException Packet

/-- The checks of the constructor on the resources. -/
def ResourcesOk (resources : List ResourceDescriptor) : Prop :=
  (∀ resource ∈ resources, resource.resourceId ≠ 0) ∧
    (resources.map ResourceDescriptor.resourceId).Nodup

/-- The checks of the constructor on the contracts. -/
def ContractsOk (resources : List ResourceDescriptor) (contracts : List ResourceContract) : Prop :=
  (∀ contract ∈ contracts, contract.resourceId ≠ 0 ∧
    contract.version = kResourceContractVersion ∧
    contract.resourceId ∈ resources.map ResourceDescriptor.resourceId ∧
    ¬(contract.hasAccess kResourceAccessLeaseRequired = true ∧
      contract.hasAccess kResourceAccessLeaseSupported = false)) ∧
    (contracts.map ResourceContract.resourceId).Nodup

/-- The checks on the resources are computed. -/
instance (resources : List ResourceDescriptor) : Decidable (ResourcesOk resources) :=
  inferInstanceAs (Decidable (_ ∧ _))

/-- The checks on the contracts are computed. -/
instance (resources : List ResourceDescriptor) (contracts : List ResourceContract) :
    Decidable (ContractsOk resources contracts) :=
  inferInstanceAs (Decidable (_ ∧ _))

/-- What a core is made for. -/
structure Board where
  /-- What the board reports of itself. -/
  nodeInfo : NodeInfo
  /-- The capabilities that the board declares, as bits. -/
  capabilities : UInt64
  /-- The catalog of the resources. -/
  resources : List ResourceDescriptor
  /-- The contracts of those resources that have one. -/
  contracts : List ResourceContract
  /-- The constructor has checked the version. -/
  version_ok : nodeInfo.protocolVersion = kProtocolVersion
  /-- The constructor has checked the resources. -/
  resources_ok : ResourcesOk resources
  /-- The constructor has checked the contracts. -/
  contracts_ok : ContractsOk resources contracts

/-- The checks of the constructor, which throws unless catalog and contracts fit each other. -/
def Board.create (nodeInfo : NodeInfo) (capabilities : UInt64)
    (resources : List ResourceDescriptor) (contracts : List ResourceContract) :
    Except CoreException Board :=
  if hversion : nodeInfo.protocolVersion = kProtocolVersion then
    if hresources : ResourcesOk resources then
      if hcontracts : ContractsOk resources contracts then
        .ok ⟨nodeInfo, capabilities, resources, contracts, hversion, hresources, hcontracts⟩
      else .error ⟨.invalidResourceCatalog, "资源能力合同与资源目录不一致"⟩
    else .error ⟨.invalidResourceCatalog, "资源目录包含零 ID 或重复 ID"⟩
  else .error ⟨.unsupportedVersion, "节点协议版本与远程核心不兼容"⟩

/-- `RemoteCore::GpioObject`, the object that GPIO_CREATE opens on a pin. -/
structure GpioObject where
  /-- The pin that the object drives or reads. -/
  pin : UInt16
  /-- Whether the object drives the pin or reads it. -/
  direction : GpioDirection
  /-- The resource of the pin, zero if the catalog lists no pins. -/
  resourceId : UInt32
  /-- The session that alone may use the object, zero if every session may. -/
  ownerSessionId : UInt32
deriving DecidableEq, Repr

/-- `RemoteCore::UartObject`, the object that UART_CREATE opens on a port. -/
structure UartObject where
  /-- The port that the object is open on. -/
  port : UInt8
  /-- The resource of the port, zero if the catalog lists no ports. -/
  resourceId : UInt32
  /-- The session that alone may use the object, zero if every session may. -/
  ownerSessionId : UInt32
  /-- Whether received bytes are sent as events. -/
  streaming : Bool
  /-- The number of the last event. -/
  eventSequence : UInt32
deriving DecidableEq, Repr

/-- `RemoteCore::Lease`, the right of a session to a resource for some time. -/
structure Lease where
  /-- The number of the lease, which its owner names it by. -/
  leaseId : UInt64
  /-- The session that has the lease. -/
  ownerSessionId : UInt32
  /-- How long the lease lasts from its grant or renewal, in milliseconds. -/
  grantedDurationMs : UInt32
  /-- Whether other sessions may have leases on the resource beside it. -/
  mode : ResourceLeaseMode
  /-- The first time at which the lease has expired. -/
  expiresAt : ℤ
deriving DecidableEq, Repr

/-- `kMinimumLeaseDurationMs`, below which a lease is refused. -/
def kMinimumLeaseDurationMs : UInt32 := 100

/-- `kMaximumLeaseDurationMs`, above which a lease is refused. -/
def kMaximumLeaseDurationMs : UInt32 := 60000

/-- The duration of a lease, in the nanoseconds of the clock. -/
def leaseDuration (durationMs : UInt32) : ℤ := durationMs.toNat * 1000000

/-- Whether a lease is the one that a session names. -/
def Lease.namedBy (leaseId : UInt64) (sessionId : UInt32) (lease : Lease) : Bool :=
  lease.leaseId = leaseId ∧ lease.ownerSessionId = sessionId

/-- The lease as it is renewed. -/
def Lease.renew (durationMs : UInt32) (now : ℤ) (lease : Lease) : Lease :=
  { lease with
    grantedDurationMs := durationMs
    expiresAt := now + leaseDuration durationMs }

/-- `RemoteCore`, a node behind the transport: its objects, its leases and its devices. -/
structure RemoteCore where
  /-- The pins, if the board has any. -/
  gpioBsp : Option MockGpioBsp := none
  /-- The ports, if the board has any. -/
  uartBsp : Option MockUartBsp := none
  /-- The motion executor, if the board has one. -/
  motion : Option MotionExecutor := none
  /-- The leases on each resource, in the order in which they were granted. -/
  leases : Map UInt32 (List Lease) := ∅
  /-- The objects on pins, by the ID that requests name them by. -/
  gpioObjects : Map UInt32 GpioObject := ∅
  /-- The objects on ports, by the ID that requests name them by. -/
  uartObjects : Map UInt32 UartObject := ∅
  /-- The ID that the next object will be given. -/
  nextObjectId : UInt32 := 1
  /-- The number that the next lease will be given. -/
  nextLeaseId : UInt64 := 1
  /-- Whether the bootloader has been asked for. -/
  bootloaderRequested : Bool := false

namespace Board

variable (board : Board)

/-- `find_resource`, by its ID. -/
def findResource (resourceId : UInt32) : Option ResourceDescriptor :=
  board.resources.find? fun resource => resource.resourceId = resourceId

/-- `find_resource`, by its type and instance. -/
def findInstance (type : ResourceType) (instance' : UInt16) : Option ResourceDescriptor :=
  board.resources.find? fun resource => resource.type = type ∧ resource.instance' = instance'

/-- `find_contract`, by the resource that it is for. -/
def findContract (resourceId : UInt32) : Option ResourceContract :=
  board.contracts.find? fun contract => contract.resourceId = resourceId

/-- Whether the catalog has a resource of a type. -/
def hasType (type : ResourceType) : Bool :=
  board.resources.any fun resource => resource.type = type

/-- Whether the contract of a resource has some flag. -/
def contractHas (resourceId : UInt32) (flag : UInt16) : Bool :=
  (board.findContract resourceId).any fun contract => contract.hasAccess flag

/-- Whether a resource is an axis. -/
def isAxis (resourceId : UInt32) : Bool :=
  (board.findResource resourceId).any fun resource => resource.type = .stepgenAxis

/-- Whether the node has a capability. -/
def hasCapability (capability : UInt64) : Bool := board.capabilities &&& capability ≠ 0

end Board

/-- `make_response`: the status alone, under the header of the request. -/
def makeResponse (request : Packet) (status : StatusCode) : Packet where
  header := {
    version := kProtocolVersion
    messageType := .response
    command := request.header.command
    sessionId := request.header.sessionId
    requestId := request.header.requestId
    objectId := request.header.objectId
    flags := if status = .ok then 0 else kErrorResponseFlag }
  payload := [status.value]

/-- `make_response` with `Ok`, and what a handler appends to the payload. -/
def respond (request : Packet) (data : List UInt8) : Packet :=
  let response := makeResponse request .ok
  { response with payload := response.payload ++ data }

/-- `make_response` with `Ok`, and the object that a handler has created. -/
def respondCreated (request : Packet) (objectId : UInt32) : Packet :=
  let response := makeResponse request .ok
  { response with header := { response.header with objectId := objectId } }

/-- `make_uart_error_response`: the status by which a refusal of the port is reported. -/
def uartErrorResponse (request : Packet) (error : UartException) : Packet :=
  match error.code with
  | .portNotConfigured => makeResponse request .objectNotFound
  | .bufferOverflow => makeResponse request .resourceExhausted
  | .portFailed => makeResponse request .resourceFailed

namespace RemoteCore

variable (board : Board) (core : RemoteCore)

/-- `resource_has_objects`, on a pin or on a port. -/
def resourceHasObjects (resourceId : UInt32) : Bool :=
  core.gpioObjects.anyValue (fun object => object.resourceId = resourceId) ||
    core.uartObjects.anyValue (fun object => object.resourceId = resourceId)

/-- `session_has_exclusive_lease`, among the leases on the resource. -/
def sessionHasExclusiveLease (resourceId sessionId : UInt32) : Bool :=
  match core.leases.lookup resourceId with
  | none => false
  | some entries =>
    entries.any fun lease => lease.ownerSessionId = sessionId ∧ lease.mode = .exclusive

/-- `resource_access_allowed`: nobody has leased the resource, or the session is among those. -/
def resourceAccessAllowed (resourceId sessionId : UInt32) : Bool :=
  match core.leases.lookup resourceId with
  | none => true
  | some entries =>
    entries.isEmpty || entries.any fun lease => lease.ownerSessionId = sessionId

/-- Whether a resource has an entry in the table of leases. -/
def leaseActive (resourceId : UInt32) : Bool := (core.leases.lookup resourceId).isSome

/-! ## The ends of leases -/

/-- The part of `release_resource_objects` about motion: an executor that is armed or running is
stopped. The exceptions are ignored. -/
def stopMotion (motion : MotionExecutor) : MotionExecutor :=
  if motion.state = .armed ∨ motion.state = .running then
    match motion.abort motion.nowNs .aborted with
    | .ok (_, motion) => motion
    | .error _ => motion
  else motion

/-- Whether an object on a pin is released with a lease. -/
def gpioHeld (resourceId ownerSessionId : UInt32) (object : GpioObject) : Bool :=
  object.resourceId = resourceId ∧ object.ownerSessionId = ownerSessionId

/-- Whether an object on a port is released with a lease. -/
def uartHeld (resourceId ownerSessionId : UInt32) (object : UartObject) : Bool :=
  object.resourceId = resourceId ∧ object.ownerSessionId = ownerSessionId

/-- What a released object does to the pins. -/
def quietGpio (bsp : MockGpioBsp) (object : GpioObject) : MockGpioBsp :=
  if object.direction = .output then bsp.lower object.pin else bsp

/-- What a released object does to the ports. -/
def quietUart (bsp : MockUartBsp) (object : UartObject) : MockUartBsp := bsp.clear object.port

/-- `release_resource_objects`. Neither loop reads the map of the other, and the pins and ports are
touched in the order of the entries. -/
def releaseResourceObjects (resourceId ownerSessionId : UInt32) : RemoteCore :=
  { core with
    motion := if board.isAxis resourceId then core.motion.map stopMotion else core.motion
    gpioBsp := core.gpioBsp.map
      (core.gpioObjects.sweep (gpioHeld resourceId ownerSessionId) quietGpio)
    gpioObjects :=
      core.gpioObjects.filterEntries fun _ object => !gpioHeld resourceId ownerSessionId object
    uartBsp := core.uartBsp.map
      (core.uartObjects.sweep (uartHeld resourceId ownerSessionId) quietUart)
    uartObjects :=
      core.uartObjects.filterEntries fun _ object => !uartHeld resourceId ownerSessionId object }

/-- The leases that end, with their resources. -/
def endedLeases (ends : Lease → Bool) : List (UInt32 × Lease) :=
  core.leases.entries.flatMap fun entry => (entry.2.filter ends).map fun lease => (entry.1, lease)

/-- The releases of the objects of leases that end. -/
def releaseAll (ended : List (UInt32 × Lease)) : RemoteCore :=
  ended.foldl (fun core entry =>
    core.releaseResourceObjects board entry.1 entry.2.ownerSessionId) core

/-- The loop that `expire_leases` and `release_session` share: the objects of each lease that ends
are released, and the lease and the entries that have become empty are erased. No release reads the
table. -/
def endLeases (ends : Lease → Bool) : ℕ × RemoteCore :=
  let ended := core.endedLeases ends
  (ended.length,
    { core.releaseAll board ended with
      leases := (core.leases.mapValues (List.filter fun lease => !ends lease)).filterEntries
        fun _ entries => !entries.isEmpty })

/-- `expire_leases`: the leases end that last no longer than now. -/
def expireLeases (now : ℤ) : ℕ × RemoteCore :=
  core.endLeases board fun lease => !decide (lease.expiresAt > now)

/-- `release_session`: the leases of the session end. -/
def releaseSession (sessionId : UInt32) : ℕ × RemoteCore :=
  core.endLeases board fun lease => lease.ownerSessionId = sessionId

/-- `make_lease_info`, which tells the number of a lease to its owner alone. -/
def makeLeaseInfo (resourceId requesterSessionId : UInt32) (now : ℤ) : ResourceLeaseInfo :=
  match core.leases.lookup resourceId with
  | none => { resourceId := resourceId }
  | some [] => { resourceId := resourceId }
  | some (first :: rest) =>
    let entries := first :: rest
    let owned := entries.find? fun lease => lease.ownerSessionId = requesterSessionId
    let selected := owned.getD first
    { resourceId := resourceId
      activeLeaseCount := UInt16.ofNat (min entries.length 0xFFFF)
      ownerSessionId := selected.ownerSessionId
      grantedDurationMs := selected.grantedDurationMs
      mode := selected.mode
      leaseId := if owned.isSome then selected.leaseId else 0
      remainingMs :=
        if selected.expiresAt > now then
          UInt32.ofNat (min ((selected.expiresAt - now) / 1000000).toNat 0xFFFFFFFF)
        else 0 }

end RemoteCore

end RemoteBSP.MockMcu
