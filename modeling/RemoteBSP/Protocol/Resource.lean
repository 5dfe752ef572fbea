import RemoteBSP.Protocol.Wire

/-!
# Resource payloads

`protocol/src/resource.cpp`. A node reads the requests about resources and leases, and writes the
descriptors, states, contracts and leases that it answers with; a host does the reverse.
-/

namespace RemoteBSP

/-- `ResourceType`, what a resource of a board is. -/
inductive ResourceType
  | gpio
  | uart
  | spi
  | i2c
  | adc
  | pwm
  | timer
  | storage
  | stepgenAxis
deriving DecidableEq, Repr

/-- The number of a resource type. -/
def ResourceType.value : ResourceType → UInt8
  | .gpio => 1
  | .uart => 2
  | .spi => 3
  | .i2c => 4
  | .adc => 5
  | .pwm => 6
  | .timer => 7
  | .storage => 8
  | .stepgenAxis => 9

/-- The resource type of a number, if `valid_type` admits it. -/
def ResourceType.ofValue (value : UInt8) : Option ResourceType :=
  if value = 1 then some .gpio
  else if value = 2 then some .uart
  else if value = 3 then some .spi
  else if value = 4 then some .i2c
  else if value = 5 then some .adc
  else if value = 6 then some .pwm
  else if value = 7 then some .timer
  else if value = 8 then some .storage
  else if value = 9 then some .stepgenAxis
  else none

/-- `kResourceContractVersion`, the only version that a contract may have. -/
def kResourceContractVersion : UInt16 := 1

/-- `kResourceAccessSharedRead`: sessions may share the resource for reading. -/
def kResourceAccessSharedRead : UInt16 := 0x0004

/-- `kResourceAccessLeaseSupported`: a session may lease the resource. -/
def kResourceAccessLeaseSupported : UInt16 := 0x0010

/-- `kResourceAccessLeaseRequired`: without a lease no session may use the resource. -/
def kResourceAccessLeaseRequired : UInt16 := 0x0020

/-- `ResourceDescriptor`, an entry of the catalog of a board. -/
structure ResourceDescriptor where
  /-- The ID by which requests name the resource. -/
  resourceId : UInt32
  /-- What the resource is. -/
  type : ResourceType
  /-- The pin, the port or the number of the axis. -/
  instance' : UInt16
  /-- How the resource is implemented, as bits. -/
  flags : UInt16 := 0
  /-- The bytes that its receive buffer holds. -/
  rxCapacity : UInt32 := 0
  /-- The bytes that its transmit buffer holds. -/
  txCapacity : UInt32 := 0
deriving DecidableEq, Repr

/-- `ResourceHealth`, the state of a resource at a glance. -/
inductive ResourceHealth
  | normal
  | busy
  | degraded
  | failed
  | disabled
deriving DecidableEq, Repr

/-- The byte by which a health is sent. -/
def ResourceHealth.value : ResourceHealth → UInt8
  | .normal => 0
  | .busy => 1
  | .degraded => 2
  | .failed => 3
  | .disabled => 4

/-- The health of a number, if there is one. -/
def ResourceHealth.ofValue (value : UInt8) : Option ResourceHealth :=
  if value = 0 then some .normal
  else if value = 1 then some .busy
  else if value = 2 then some .degraded
  else if value = 3 then some .failed
  else if value = 4 then some .disabled
  else none

/-- `ResourceStatusPayload`, the answer to RESOURCE_STATUS. -/
structure ResourceStatusPayload where
  /-- The resource that was asked about. -/
  resourceId : UInt32
  /-- Its state at a glance. -/
  health : ResourceHealth := .normal
  /-- The errors that the resource reports, as bits. -/
  errorFlags : UInt32 := 0
  /-- The bytes that it has received and nobody has read. -/
  rxBuffered : UInt32 := 0
  /-- The bytes that were written to it and are not sent yet. -/
  txBuffered : UInt32 := 0
  /-- The bytes that it has received and lost. -/
  rxOverruns : UInt32 := 0
  /-- The bytes that it has refused to take. -/
  txOverruns : UInt32 := 0
deriving DecidableEq, Repr

/-- `ResourceContract`: what the firmware promises of a resource. -/
structure ResourceContract where
  /-- The resource that the contract is for. -/
  resourceId : UInt32
  /-- The version of the contract's layout. -/
  version : UInt16 := kResourceContractVersion
  /-- How the resource may be accessed. -/
  accessFlags : UInt16 := 0
  /-- The finest time that the resource resolves, zero if not stated. -/
  timingResolutionNs : UInt32 := 0
  /-- The longest time that an operation takes, zero if not stated. -/
  worstCaseLatencyUs : UInt32 := 0
  /-- The rate at which it takes operations, zero if not stated. -/
  maximumOperationsPerSecond : UInt32 := 0
  /-- How many operations it queues, zero if not stated. -/
  queueCapacity : UInt32 := 0
  /-- The rate at which it receives, zero if not stated. -/
  maximumRxBitsPerSecond : UInt32 := 0
  /-- The rate at which it sends, zero if not stated. -/
  maximumTxBitsPerSecond : UInt32 := 0
deriving DecidableEq, Repr

/-- Whether some of the access flags are set. -/
def ResourceContract.hasAccess (contract : ResourceContract) (flag : UInt16) : Bool :=
  contract.accessFlags &&& flag ≠ 0

/-- `ResourceLeaseMode`, whether a lease may be shared. -/
inductive ResourceLeaseMode
  | none
  | sharedRead
  | exclusive
deriving DecidableEq, Repr

/-- The byte by which a mode is sent. -/
def ResourceLeaseMode.value : ResourceLeaseMode → UInt8
  | .none => 0
  | .sharedRead => 1
  | .exclusive => 2

/-- The mode of a number that a request may ask for: `valid_lease_mode` without `None`. -/
def ResourceLeaseMode.ofValue (value : UInt8) : Option ResourceLeaseMode :=
  if value = 1 then some .sharedRead else if value = 2 then some .exclusive else Option.none

/-- The mode of a number: `valid_lease_mode` with `None`. -/
def ResourceLeaseMode.ofInfoValue (value : UInt8) : Option ResourceLeaseMode :=
  if value = 0 then some .none else ofValue value

/-- `ResourceLeaseRequest`, the payload of RESOURCE_ACQUIRE. -/
structure ResourceLeaseRequest where
  /-- The resource to be leased. -/
  resourceId : UInt32
  /-- How long the lease shall last. -/
  durationMs : UInt32
  /-- Whether the session wants the resource to itself. -/
  mode : ResourceLeaseMode
deriving DecidableEq, Repr

/-- `ResourceLeaseTokenRequest`, the payload of RESOURCE_RENEW and RESOURCE_RELEASE. -/
structure ResourceLeaseTokenRequest where
  /-- The resource that is leased. -/
  resourceId : UInt32
  /-- The lease that the session has been granted. -/
  leaseId : UInt64
  /-- How long the lease shall last from now. -/
  durationMs : UInt32
deriving DecidableEq, Repr

/-- `ResourceLeaseInfo`, the answer to the requests about leases. -/
structure ResourceLeaseInfo where
  /-- The resource that was asked about. -/
  resourceId : UInt32
  /-- The lease, if it is the requester's own. -/
  leaseId : UInt64 := 0
  /-- The session that has the lease, zero if there is none. -/
  ownerSessionId : UInt32 := 0
  /-- How long the lease lasts from its grant. -/
  grantedDurationMs : UInt32 := 0
  /-- How long the lease still lasts, in milliseconds. -/
  remainingMs : UInt32 := 0
  /-- Whether the lease may be shared, or that there is none. -/
  mode : ResourceLeaseMode := .none
  /-- The number of leases on the resource. -/
  activeLeaseCount : UInt16 := 0
deriving DecidableEq, Repr

/-- `kResourceErrorRxOverflow`: received bytes have been lost. -/
def kResourceErrorRxOverflow : UInt32 := 0x00000001

/-- `kResourceErrorTxOverflow`: a write has been refused for want of room. -/
def kResourceErrorTxOverflow : UInt32 := 0x00000002

/-- `kResourceErrorBackendFailure`: the resource itself has failed. -/
def kResourceErrorBackendFailure : UInt32 := 0x00000004

/-- `kResourceErrorRxHighWater`: three quarters of the receive buffer are taken. -/
def kResourceErrorRxHighWater : UInt32 := 0x00000008

/-- `kResourceErrorTxHighWater`: three quarters of the transmit buffer are taken. -/
def kResourceErrorTxHighWater : UInt32 := 0x00000010

/-- `ResourcePayloadError`, the reasons for which a codec throws. -/
inductive ResourcePayloadError
  | invalidLength
  | invalidType
  | invalidHealth
  | invalidContractVersion
  | invalidLeaseMode
  | tooManyResources
deriving DecidableEq, Repr

/-- `ResourcePayloadException`, a reason with its text. -/
structure ResourcePayloadException where
  /-- Which rule the resource, the lease or the bytes break. -/
  code : ResourcePayloadError
  /-- The text of `what`, which names the field. -/
  message : String
deriving DecidableEq, Repr

/-- `decode_resource_id`: a payload of four bytes. -/
def decodeResourceId (payload : List UInt8) : Except ResourcePayloadException UInt32 :=
  if payload.length ≠ 4 then .error ⟨.invalidLength, "资源 ID 载荷长度无效"⟩
  else .ok (getU32 payload 0)

/-- `encode_resource_descriptor`. The type is one of the nine, so that error is not possible. -/
def encodeResourceDescriptor (descriptor : ResourceDescriptor) : List UInt8 :=
  putU32 descriptor.resourceId ++ [descriptor.type.value] ++ putU16 descriptor.instance' ++
    putU16 descriptor.flags ++ putU32 descriptor.rxCapacity ++ putU32 descriptor.txCapacity

/-- `encode_resource_list`: the number of the descriptors, then each of them. -/
def encodeResourceList (resources : List ResourceDescriptor) :
    Except ResourcePayloadException (List UInt8) :=
  if resources.length > 0xFFFF then .error ⟨.tooManyResources, "资源数量超过协议范围"⟩
  else .ok (putU16 (UInt16.ofNat resources.length) ++ resources.flatMap encodeResourceDescriptor)

/-- `encode_resource_status`. The health is one of the five, so that error is not possible. -/
def encodeResourceStatus (status : ResourceStatusPayload) : List UInt8 :=
  putU32 status.resourceId ++ [status.health.value] ++ putU32 status.errorFlags ++
    putU32 status.rxBuffered ++ putU32 status.txBuffered ++ putU32 status.rxOverruns ++
    putU32 status.txOverruns

/-- `encode_resource_contract`, which refuses any other version of the layout. -/
def encodeResourceContract (contract : ResourceContract) :
    Except ResourcePayloadException (List UInt8) :=
  if contract.version ≠ kResourceContractVersion then
    .error ⟨.invalidContractVersion, "资源能力合同版本无效"⟩
  else .ok (putU32 contract.resourceId ++ putU16 contract.version ++ putU16 contract.accessFlags ++
    putU32 contract.timingResolutionNs ++ putU32 contract.worstCaseLatencyUs ++
    putU32 contract.maximumOperationsPerSecond ++ putU32 contract.queueCapacity ++
    putU32 contract.maximumRxBitsPerSecond ++ putU32 contract.maximumTxBitsPerSecond)

/-- `kLeaseRequestSize`: a resource, a duration and a mode. -/
def kLeaseRequestSize : ℕ := 9

/-- `kLeaseTokenRequestSize`: a resource, a lease and a duration. -/
def kLeaseTokenRequestSize : ℕ := 16

/-- `decode_resource_lease_request`, which checks the length and the mode. -/
def decodeResourceLeaseRequest (payload : List UInt8) :
    Except ResourcePayloadException ResourceLeaseRequest :=
  if payload.length ≠ kLeaseRequestSize then .error ⟨.invalidLength, "资源租约请求载荷长度无效"⟩
  else match ResourceLeaseMode.ofValue (byteAt payload 8) with
    | none => .error ⟨.invalidLeaseMode, "资源租约请求模式无效"⟩
    | some mode => .ok {
        resourceId := getU32 payload 0
        durationMs := getU32 payload 4
        mode := mode }

/-- `decode_resource_lease_token_request`, which checks the length alone. -/
def decodeResourceLeaseTokenRequest (payload : List UInt8) :
    Except ResourcePayloadException ResourceLeaseTokenRequest :=
  if payload.length ≠ kLeaseTokenRequestSize then
    .error ⟨.invalidLength, "资源租约令牌载荷长度无效"⟩
  else .ok {
    resourceId := getU32 payload 0
    leaseId := getU64 payload 4
    durationMs := getU32 payload 12 }

/-- `encode_resource_lease_info`. The mode is one of the three, so that error is not possible. -/
def encodeResourceLeaseInfo (info : ResourceLeaseInfo) : List UInt8 :=
  putU32 info.resourceId ++ putU64 info.leaseId ++ putU32 info.ownerSessionId ++
    putU32 info.grantedDurationMs ++ putU32 info.remainingMs ++ [info.mode.value] ++
    putU16 info.activeLeaseCount

/-- A lease request asks for a mode, never for none. -/
theorem decodeResourceLeaseRequest_mode {payload : List UInt8} {request : ResourceLeaseRequest}
    (h : decodeResourceLeaseRequest payload = .ok request) :
    request.mode = .sharedRead ∨ request.mode = .exclusive := by
  unfold decodeResourceLeaseRequest at h
  split at h
  · cases h
  · unfold ResourceLeaseMode.ofValue at h
    split at h
    · cases h
    · next mode hmode =>
      obtain rfl := Except.ok.inj h
      split at hmode
      · exact .inl (Option.some.inj hmode).symm
      · split at hmode
        · exact .inr (Option.some.inj hmode).symm
        · cases hmode

/-! ## The side of the host -/

/-- `kDescriptorSize`: two IDs, a type, flags and two capacities. -/
def kDescriptorSize : ℕ := 17

/-- `kContractSize`: a resource, two half words and six words. -/
def kContractSize : ℕ := 32

/-- `kLeaseInfoSize`: a resource, a lease, three words, a mode and a count. -/
def kLeaseInfoSize : ℕ := 27

/-- `encode_resource_id`, in four bytes. -/
def encodeResourceId (resourceId : UInt32) : List UInt8 := putU32 resourceId

/-- `decode_resource_descriptor`, which checks the length and the type. -/
def decodeResourceDescriptor (payload : List UInt8) :
    Except ResourcePayloadException ResourceDescriptor :=
  if payload.length ≠ kDescriptorSize then .error ⟨.invalidLength, "资源描述载荷长度无效"⟩
  else match ResourceType.ofValue (byteAt payload 4) with
    | none => .error ⟨.invalidType, "资源类型无效"⟩
    | some type => .ok {
        resourceId := getU32 payload 0
        type := type
        instance' := getU16 payload 5
        flags := getU16 payload 7
        rxCapacity := getU32 payload 9
        txCapacity := getU32 payload 13 }

/-- `decode_resource_list`, which checks the count against the length and each descriptor. -/
def decodeResourceList (payload : List UInt8) :
    Except ResourcePayloadException (List ResourceDescriptor) :=
  if payload.length < 2 then .error ⟨.invalidLength, "资源列表载荷长度无效"⟩
  else
    let count := (getU16 payload 0).toNat
    if payload.length ≠ 2 + count * kDescriptorSize then
      .error ⟨.invalidLength, "资源列表数量与长度不匹配"⟩
    else (List.range count).mapM fun index =>
      decodeResourceDescriptor ((payload.drop (2 + index * kDescriptorSize)).take kDescriptorSize)

/-- `decode_resource_status`, which checks the length and the health. -/
def decodeResourceStatus (payload : List UInt8) :
    Except ResourcePayloadException ResourceStatusPayload :=
  if payload.length ≠ 25 then .error ⟨.invalidLength, "资源状态载荷长度无效"⟩
  else match ResourceHealth.ofValue (byteAt payload 4) with
    | none => .error ⟨.invalidHealth, "资源健康状态无效"⟩
    | some health => .ok {
        resourceId := getU32 payload 0
        health := health
        errorFlags := getU32 payload 5
        rxBuffered := getU32 payload 9
        txBuffered := getU32 payload 13
        rxOverruns := getU32 payload 17
        txOverruns := getU32 payload 21 }

/-- `decode_resource_contract`, which checks the length and the version. -/
def decodeResourceContract (payload : List UInt8) :
    Except ResourcePayloadException ResourceContract :=
  if payload.length ≠ kContractSize then .error ⟨.invalidLength, "资源能力合同载荷长度无效"⟩
  else if getU16 payload 4 ≠ kResourceContractVersion then
    .error ⟨.invalidContractVersion, "资源能力合同版本不受支持"⟩
  else .ok {
    resourceId := getU32 payload 0
    version := getU16 payload 4
    accessFlags := getU16 payload 6
    timingResolutionNs := getU32 payload 8
    worstCaseLatencyUs := getU32 payload 12
    maximumOperationsPerSecond := getU32 payload 16
    queueCapacity := getU32 payload 20
    maximumRxBitsPerSecond := getU32 payload 24
    maximumTxBitsPerSecond := getU32 payload 28 }

/-- `encode_resource_lease_request`, which refuses a mode that cannot be asked for. -/
def encodeResourceLeaseRequest (request : ResourceLeaseRequest) :
    Except ResourcePayloadException (List UInt8) :=
  if request.mode = .none then .error ⟨.invalidLeaseMode, "资源租约模式无效"⟩
  else .ok (putU32 request.resourceId ++ putU32 request.durationMs ++ [request.mode.value])

/-- `encode_resource_lease_token_request`, for any resource, lease and duration. -/
def encodeResourceLeaseTokenRequest (request : ResourceLeaseTokenRequest) : List UInt8 :=
  putU32 request.resourceId ++ putU64 request.leaseId ++ putU32 request.durationMs

/-- `decode_resource_lease_info`, which checks the length and the mode. -/
def decodeResourceLeaseInfo (payload : List UInt8) :
    Except ResourcePayloadException ResourceLeaseInfo :=
  if payload.length ≠ kLeaseInfoSize then .error ⟨.invalidLength, "资源租约状态载荷长度无效"⟩
  else match ResourceLeaseMode.ofInfoValue (byteAt payload 24) with
    | none => .error ⟨.invalidLeaseMode, "资源租约状态模式无效"⟩
    | some mode => .ok {
        resourceId := getU32 payload 0
        leaseId := getU64 payload 4
        ownerSessionId := getU32 payload 12
        grantedDurationMs := getU32 payload 16
        remainingMs := getU32 payload 20
        mode := mode
        activeLeaseCount := getU16 payload 25 }

end RemoteBSP
