import RemoteBSP.MockMcu.Json
import RemoteBSP.MockMcu.MotionExecutor
import RemoteBSP.MockMcu.RemoteCore

/-!
# The manifests of boards and the scenarios of faults

The loader of `mock_mcu/src/board_manifest.cpp`, behind its JSON parser: `parse_board_manifest` and
`parse_fault_scenario`, with every check in the order of the source. The sets of the resources that
have been read so far are those of the lists that are read into, since an entry is put into both
together. The functions that read a file are left out.
-/

namespace RemoteBSP.MockMcu

open Json (JsonValue)

/-- The bytes of a text, which the parser compares keys with and exceptions carry. -/
def utf8 (text : String) : List UInt8 := text.toUTF8.data.toList

/-- `ManifestError`, the reasons for which a manifest or a scenario is refused. -/
inductive ManifestError
  | io
  | invalidJson
  | invalidSchema
  | invalidValue
  | conflict
deriving DecidableEq, Repr

/-- `ManifestException`. The text may have bytes of the input in it. -/
structure ManifestException where
  /-- What kind of rule the file breaks. -/
  code : ManifestError
  /-- The bytes of the text that `what` returns. -/
  message : List UInt8
deriving DecidableEq, Repr

/-- `kBoardManifestSchemaVersion`, the only version of a manifest that is accepted. -/
def kBoardManifestSchemaVersion : UInt32 := 1

/-- `kFaultScenarioSchemaVersion`, the only version of a scenario that is accepted. -/
def kFaultScenarioSchemaVersion : UInt32 := 1

/-- `ReservedResource`, a pin or a port that the board uses itself. -/
structure ReservedResource where
  /-- What the resource is. -/
  type : ResourceType
  /-- The pin, the port or the number of the axis. -/
  instance' : UInt16
  /-- What the board uses it for, in words. -/
  owner : List UInt8
deriving DecidableEq, Repr

/-- `BoardManifest`, the description of a board. -/
structure BoardManifest where
  /-- The version of the layout that the text declares. -/
  schemaVersion : UInt32
  /-- The name of the board. -/
  name : List UInt8
  /-- The UUID, the version of the firmware and the kind of board. -/
  nodeInfo : NodeInfo
  /-- The capabilities that the board declares, as bits. -/
  capabilities : UInt64 := 0
  /-- The catalog of the resources. -/
  resources : List ResourceDescriptor := []
  /-- The contracts, one for each resource of the catalog. -/
  contracts : List ResourceContract := []
  /-- The resources that the board itself uses. -/
  reservedResources : List ReservedResource := []
  /-- How the axes of the catalog move. -/
  motionAxes : List MotionAxisConfig := []
  /-- The length of the queue of segments. -/
  motionQueueCapacity : ℕ := 32
deriving DecidableEq, Repr

/-- `FaultAction`, what an event of a scenario does to the twin. -/
inductive FaultAction
  | setUartFailed
  | setGpioInput
  | setNodeOnline
  | triggerMotionLimit
deriving DecidableEq, Repr

/-- `FaultEvent`, an event of a scenario with its operands. -/
structure FaultEvent where
  /-- The time of the event, in milliseconds from the start of the scenario. -/
  atMs : UInt64
  /-- What the event does. -/
  action : FaultAction
  /-- The resource that it happens to, zero for the node. -/
  resourceId : UInt32 := 0
  /-- Whether the port has failed, the pin is high or the node is online. -/
  value : Bool := false
deriving DecidableEq, Repr

/-- `FaultScenario`, the events that befall a twin. -/
structure FaultScenario where
  /-- The version of the layout that the text declares. -/
  schemaVersion : UInt32 := kFaultScenarioSchemaVersion
  /-- The events, in the order of their times. -/
  events : List FaultEvent := []
deriving DecidableEq, Repr

/-- The members of an object of JSON, by their keys. -/
abbrev JsonObject := List (List UInt8 × JsonValue)

/-! ## The fields of objects -/

section Fields

variable {α : Type}

/-- `schema_error`, which throws the reason with its text. -/
def schemaError (code : ManifestError) (message : String) : Except ManifestException α :=
  .error ⟨code, utf8 message⟩

/-- `require_object`: the value is an object. -/
def requireObject (field : String) : JsonValue → Except ManifestException JsonObject
  | .object object => .ok object
  | _ => schemaError .invalidSchema (field ++ " 必须是对象")

/-- `require_field`: the object has a member of that name. -/
def requireField (object : JsonObject) (field : String) : Except ManifestException JsonValue :=
  match object.find? fun entry => entry.1 = utf8 field with
  | some entry => .ok entry.2
  | none => schemaError .invalidSchema ("缺少字段 " ++ field)

/-- `reject_unknown`: the object has no members but those that are allowed. -/
def rejectUnknown (object : JsonObject) (allowed : List String) (context : String) :
    Except ManifestException Unit :=
  match object.find? fun entry => ¬allowed.any fun name => entry.1 = utf8 name with
  | some entry => .error ⟨.invalidSchema, utf8 (context ++ " 包含未知字段 ") ++ entry.1⟩
  | none => .ok ()

/-- `require_integer`: the member is a number that the parser takes for an integer. -/
def requireInteger (object : JsonObject) (field : String) : Except ManifestException UInt64 := do
  match ← requireField object field with
  | .integer integer => return integer
  | _ => schemaError .invalidSchema (field ++ " 必须是非负整数")

/-- `require_u32`: the member is an integer of 32 bits. -/
def requireU32 (object : JsonObject) (field : String) : Except ManifestException UInt32 := do
  let value ← requireInteger object field
  if value > 0xFFFFFFFF then schemaError .invalidValue (field ++ " 超出 32 位无符号整数范围")
  else return value.toUInt32

/-- `require_u16`: the member is an integer of 16 bits. -/
def requireU16 (object : JsonObject) (field : String) : Except ManifestException UInt16 := do
  let value ← requireInteger object field
  if value > 0xFFFF then schemaError .invalidValue (field ++ " 超出 16 位无符号整数范围")
  else return value.toUInt16

/-- `require_string`: the member is a string. -/
def requireString (object : JsonObject) (field : String) :
    Except ManifestException (List UInt8) := do
  match ← requireField object field with
  | .string string => return string
  | _ => schemaError .invalidSchema (field ++ " 必须是字符串")

/-- `require_boolean`: the member is a truth value. -/
def requireBoolean (object : JsonObject) (field : String) : Except ManifestException Bool := do
  match ← requireField object field with
  | .boolean boolean => return boolean
  | _ => schemaError .invalidSchema (field ++ " 必须是布尔值")

/-- `require_array`: the member is an array. -/
def requireArray (object : JsonObject) (field : String) :
    Except ManifestException (List JsonValue) := do
  match ← requireField object field with
  | .array array => return array
  | _ => schemaError .invalidSchema (field ++ " 必须是数组")

end Fields

/-! ## Values -/

/-- `parse_resource_type`, by its name. -/
def parseResourceType (text : List UInt8) : Except ManifestException ResourceType :=
  if text = utf8 "gpio" then .ok .gpio
  else if text = utf8 "uart" then .ok .uart
  else if text = utf8 "spi" then .ok .spi
  else if text = utf8 "i2c" then .ok .i2c
  else if text = utf8 "adc" then .ok .adc
  else if text = utf8 "pwm" then .ok .pwm
  else if text = utf8 "timer" then .ok .timer
  else if text = utf8 "storage" then .ok .storage
  else if text = utf8 "stepgen_axis" then .ok .stepgenAxis
  else .error ⟨.invalidValue, utf8 "未知资源类型 " ++ text⟩

/-- `capability_mask` of `resource_capability`: the capability that a resource of the type needs. -/
def resourceCapability : ResourceType → UInt64
  | .gpio => capabilityGpio
  | .uart => capabilityUart
  | .spi => (1 : UInt64) <<< 2
  | .i2c => (1 : UInt64) <<< 3
  | .adc => (1 : UInt64) <<< 4
  | .pwm => (1 : UInt64) <<< 5
  | .timer => (1 : UInt64) <<< 6
  | .storage => (1 : UInt64) <<< 7
  | .stepgenAxis => capabilityMotion

/-- `capability_mask` of `parse_capability`: the capability of that name. -/
def parseCapability (text : List UInt8) : Except ManifestException UInt64 :=
  if text = utf8 "bootloader" then .ok capabilityBootloader
  else if text = utf8 "motion" then .ok capabilityMotion
  else (parseResourceType text).map resourceCapability

/-- The flag of an element of `access`. -/
def accessFlag (text : List UInt8) : Except ManifestException UInt16 :=
  if text = utf8 "read" then .ok 0x0001
  else if text = utf8 "write" then .ok 0x0002
  else if text = utf8 "shared_read" then .ok kResourceAccessSharedRead
  else if text = utf8 "exclusive_write" then .ok 0x0008
  else if text = utf8 "lease_supported" then .ok kResourceAccessLeaseSupported
  else if text = utf8 "lease_required" then .ok kResourceAccessLeaseRequired
  else .error ⟨.invalidValue, utf8 "未知资源访问标志 " ++ text⟩

/-- An iteration of `parse_access_flags`: the flag of a name, which must not have been set before.
-/
def addAccessFlag (flags : UInt16) : JsonValue → Except ManifestException UInt16
  | .string text => do
    let flag ← accessFlag text
    if flags &&& flag ≠ 0 then .error ⟨.conflict, utf8 "资源访问标志重复 " ++ text⟩
    else return flags ||| flag
  | _ => schemaError .invalidSchema "contract.access 元素必须是字符串"

/-- `parse_access_flags`: a lease may be required only where leases are supported. -/
def parseAccessFlags (values : List JsonValue) : Except ManifestException UInt16 := do
  let flags ← values.foldlM addAccessFlag 0
  if flags &&& kResourceAccessLeaseRequired ≠ 0 ∧ flags &&& kResourceAccessLeaseSupported = 0 then
    schemaError .conflict "lease_required 必须同时声明 lease_supported"
  else return flags

/-- The value of two digits, as `std::from_chars` reads them. -/
def hexByte (high low : UInt8) : Option UInt8 := do
  let high ← Json.hexDigit high
  let low ← Json.hexDigit low
  return (high * 16 + low).toUInt8

/-- `parse_uuid`, in 32 hexadecimal digits. -/
def parseUuid (text : List UInt8) : Except ManifestException NodeUuid :=
  if text.length ≠ 32 then schemaError .invalidValue "uuid 必须是 32 个十六进制字符"
  else
    match (List.range 16).mapM fun index =>
        hexByte (byteAt text (2 * index)) (byteAt text (2 * index + 1)) with
    | none => schemaError .invalidValue "uuid 包含非十六进制字符"
    | some bytes => .ok (.ofPayload bytes)

/-- An element of `firmware_version`, a number of 16 bits. -/
def parseVersion : JsonValue → Except ManifestException UInt16
  | .integer integer =>
    if integer > 0xFFFF then schemaError .invalidValue "firmware_version 元素超出范围"
    else .ok integer.toUInt16
  | _ => schemaError .invalidValue "firmware_version 元素超出范围"

/-- An iteration over `capabilities`: the bit of a name, which must not have been set before. -/
def addCapability (capabilities : UInt64) : JsonValue → Except ManifestException UInt64
  | .string text => do
    let bit ← parseCapability text
    if capabilities &&& bit ≠ 0 then .error ⟨.conflict, utf8 "能力重复 " ++ text⟩
    else return capabilities ||| bit
  | _ => schemaError .invalidSchema "capabilities 元素必须是字符串"

/-! ## Resources -/

/-- The flag of `source`, which says how a group of resources is implemented. -/
def parseSource (text : List UInt8) : Except ManifestException UInt16 :=
  if text = utf8 "native" then .ok 0x0001
  else if text = utf8 "expanded" then .ok 0x0002
  else schemaError .invalidValue "source 必须是 native 或 expanded"

/-- The contract of a group, for one of its resources. -/
def parseContract (value : JsonValue) :
    Except ManifestException (UInt32 → ResourceContract) := do
  let contract ← requireObject "contract" value
  rejectUnknown contract ["access", "timing_resolution_ns", "worst_case_latency_us",
    "maximum_operations_per_second", "queue_capacity", "maximum_rx_bits_per_second",
    "maximum_tx_bits_per_second"] "contract"
  let accessFlags ← parseAccessFlags (← requireArray contract "access")
  let timingResolutionNs ← requireU32 contract "timing_resolution_ns"
  let worstCaseLatencyUs ← requireU32 contract "worst_case_latency_us"
  let maximumOperationsPerSecond ← requireU32 contract "maximum_operations_per_second"
  let queueCapacity ← requireU32 contract "queue_capacity"
  let maximumRxBitsPerSecond ← requireU32 contract "maximum_rx_bits_per_second"
  let maximumTxBitsPerSecond ← requireU32 contract "maximum_tx_bits_per_second"
  return fun resourceId => ⟨resourceId, kResourceContractVersion, accessFlags, timingResolutionNs,
    worstCaseLatencyUs, maximumOperationsPerSecond, queueCapacity, maximumRxBitsPerSecond,
    maximumTxBitsPerSecond⟩

/-- A group of resources of one type with consecutive numbers and IDs. -/
structure ResourceGroup where
  /-- The type that its resources share. -/
  type : ResourceType
  /-- The number of the first one. -/
  firstInstance : UInt16
  /-- How many resources it stands for. -/
  count : UInt16
  /-- The ID of the first one. -/
  idBase : UInt32
  /-- The flags that its resources share. -/
  flags : UInt16
  /-- The receive buffer that each of its resources has. -/
  rxCapacity : UInt32
  /-- The transmit buffer that each of its resources has. -/
  txCapacity : UInt32
  /-- The contract that its resources share, but for the ID. -/
  contract : UInt32 → ResourceContract

/-- The checks of the numbers of a group. -/
def checkGroupRange (type : ResourceType) (firstInstance count : UInt16) (idBase : UInt32) :
    Except ManifestException Unit :=
  if count = 0 ∨ count > 256 then schemaError .invalidValue "resource_group.count 必须位于 1～256"
  else if firstInstance.toUInt32 + count.toUInt32 > 65536 then
    schemaError .invalidValue "资源实例号范围溢出"
  else if type = .uart ∧ firstInstance.toUInt32 + count.toUInt32 > 256 then
    schemaError .invalidValue "UART 实例号必须位于 0～255"
  else if idBase > 0xFFFFFFFF - (count.toUInt32 - 1) then schemaError .invalidValue "资源 ID 范围溢出"
  else .ok ()

/-- The part of the loop over `resource_groups` that reads a group. -/
def parseGroup (capabilities : UInt64) (resources : ℕ) (value : JsonValue) :
    Except ManifestException ResourceGroup := do
  let group ← requireObject "resource_group" value
  rejectUnknown group ["type", "first_instance", "count", "id_base", "source", "rx_capacity",
    "tx_capacity", "contract"] "resource_group"
  let type ← parseResourceType (← requireString group "type")
  let firstInstance ← requireU16 group "first_instance"
  let count ← requireU16 group "count"
  let idBase ← requireU32 group "id_base"
  checkGroupRange type firstInstance count idBase
  let flags ← parseSource (← requireString group "source")
  let rxCapacity ← requireU32 group "rx_capacity"
  let txCapacity ← requireU32 group "tx_capacity"
  let contract ← parseContract (← requireField group "contract")
  if capabilities &&& resourceCapability type = 0 then
    schemaError .conflict "资源组对应的能力未在 capabilities 中声明"
  else if resources > 0xFFFF - count.toNat then
    schemaError .invalidValue "公开资源总数超过协议上限 65535"
  else return ⟨type, firstInstance, count, idBase, flags, rxCapacity, txCapacity, contract⟩

/-- The types and numbers of the resources. -/
def BoardManifest.instances (manifest : BoardManifest) : List (ResourceType × UInt16) :=
  manifest.resources.map fun resource => (resource.type, resource.instance')

/-- One resource of a group, with the number and the ID at its place. -/
def ResourceGroup.resource (group : ResourceGroup) (offset : ℕ) : ResourceDescriptor where
  resourceId := group.idBase + UInt32.ofNat offset
  type := group.type
  instance' := (group.firstInstance.toUInt32 + UInt32.ofNat offset).toUInt16
  flags := group.flags
  rxCapacity := group.rxCapacity
  txCapacity := group.txCapacity

/-- An iteration over the resources of a group. -/
def addResource (group : ResourceGroup) (manifest : BoardManifest) (offset : ℕ) :
    Except ManifestException BoardManifest :=
  let resource := group.resource offset
  if resource.resourceId ∈ manifest.resources.map ResourceDescriptor.resourceId ∨
      (resource.type, resource.instance') ∈ manifest.instances then
    schemaError .conflict "资源 ID 或类型/实例重复"
  else .ok { manifest with
    resources := manifest.resources ++ [resource]
    contracts := manifest.contracts ++ [group.contract resource.resourceId] }

/-- An iteration over `resource_groups`: the resources of a group join the catalog. -/
def addGroup (manifest : BoardManifest) (value : JsonValue) :
    Except ManifestException BoardManifest := do
  let group ← parseGroup manifest.capabilities manifest.resources.length value
  (List.range group.count.toNat).foldlM (addResource group) manifest

/-- An iteration over `reserved_resources`: another resource is taken out of use. -/
def addReserved (manifest : BoardManifest) (value : JsonValue) :
    Except ManifestException BoardManifest := do
  let reserved ← requireObject "reserved_resource" value
  rejectUnknown reserved ["type", "instance", "owner"] "reserved_resource"
  let type ← parseResourceType (← requireString reserved "type")
  let instance' ← requireU16 reserved "instance"
  let owner ← requireString reserved "owner"
  if owner = [] ∨ owner.length > 64 then
    schemaError .invalidValue "reserved_resource.owner 长度必须位于 1～64 字节"
  else if (type, instance') ∈ manifest.reservedResources.map fun entry =>
      (entry.type, entry.instance') then
    schemaError .conflict "保留资源类型/实例重复"
  else if (type, instance') ∈ manifest.instances then
    schemaError .conflict "同一资源不能既公开又被内部占用"
  else return { manifest with
    reservedResources := manifest.reservedResources ++ [⟨type, instance', owner⟩] }

/-! ## Axes -/

/-- `find_resource`, by the ID. -/
def BoardManifest.findResource (manifest : BoardManifest) (resourceId : UInt32) :
    Option ResourceDescriptor :=
  manifest.resources.find? fun resource => resource.resourceId = resourceId

/-- An iteration over `motion_axes`: how another axis of the catalog moves. -/
def addMotionAxis (manifest : BoardManifest) (value : JsonValue) :
    Except ManifestException BoardManifest := do
  let axis ← requireObject "motion_axis" value
  rejectUnknown axis ["resource_id", "maximum_step_rate_hz", "step_pulse_width_ns",
    "minimum_step_low_ns", "direction_setup_ns"] "motion_axis"
  let resourceId ← requireU32 axis "resource_id"
  let maximumStepRateHz ← requireU32 axis "maximum_step_rate_hz"
  let stepPulseWidthNs ← requireU32 axis "step_pulse_width_ns"
  let minimumStepLowNs ← requireU32 axis "minimum_step_low_ns"
  let directionSetupNs ← requireU32 axis "direction_setup_ns"
  if ¬(manifest.findResource resourceId).any fun resource => resource.type = .stepgenAxis then
    schemaError .conflict "motion_axis 必须引用公开的 STEPGEN_AXIS 资源"
  else if resourceId ∈ manifest.motionAxes.map MotionAxisConfig.resourceId then
    schemaError .conflict "motion_axis 资源 ID 重复"
  else return { manifest with
    motionAxes := manifest.motionAxes ++ [⟨resourceId, maximumStepRateHz, stepPulseWidthNs,
      minimumStepLowNs, directionSetupNs⟩] }

/-- The part of the loader that reads `motion_axes`, which may be missing. -/
def addMotionAxes (root : JsonObject) (manifest : BoardManifest) :
    Except ManifestException BoardManifest :=
  match root.find? fun entry => entry.1 = utf8 "motion_axes" with
  | none => .ok manifest
  | some (_, .array axes) => axes.foldlM addMotionAxis manifest
  | some _ => schemaError .invalidSchema "motion_axes 必须是数组"

/-- The axes of the catalog, in its order. -/
def BoardManifest.axes (manifest : BoardManifest) : List ResourceDescriptor :=
  manifest.resources.filter fun resource => resource.type = .stepgenAxis

/-- An iteration of the check of the queues of the axes, with the length of the queue so far. -/
def checkQueueCapacity (manifest : BoardManifest) (capacity : Option UInt32)
    (resource : ResourceDescriptor) : Except ManifestException (Option UInt32) :=
  let found := manifest.contracts.find? fun contract =>
    contract.resourceId = resource.resourceId
  match found with
  | none => schemaError .invalidValue "STEPGEN_AXIS 必须声明 1～1024 的运动段队列容量"
  | some contract =>
    if contract.queueCapacity = 0 ∨ contract.queueCapacity > 1024 then
      schemaError .invalidValue "STEPGEN_AXIS 必须声明 1～1024 的运动段队列容量"
    else if capacity.any fun capacity => capacity ≠ contract.queueCapacity then
      schemaError .conflict "同一节点的 STEPGEN_AXIS 必须共享相同运动队列容量"
    else .ok (some contract.queueCapacity)

/-- The checks of the axes at the end of the loader. -/
def checkAxes (manifest : BoardManifest) : Except ManifestException BoardManifest := do
  if manifest.axes.any fun resource =>
      resource.resourceId ∉ manifest.motionAxes.map MotionAxisConfig.resourceId then
    schemaError .conflict "公开的 STEPGEN_AXIS 缺少 motion_axes 配置"
  else
    let capacity ← manifest.axes.foldlM (checkQueueCapacity manifest) none
    if manifest.motionAxes.length > kMaximumMotionAxes then
      schemaError .invalidValue "单节点运动轴数量超过协议允许的 64 轴"
    else match capacity with
      | none => return manifest
      | some capacity => return { manifest with motionQueueCapacity := capacity.toNat }

/-! ## The loader -/

/-- The exception of the JSON parser. -/
def jsonError (e : Json.JsonException) : ManifestException :=
  ⟨.invalidJson, utf8 (e.message ++ "，字节偏移 " ++ toString e.position)⟩

/-- The part of the loader that reads what is not a list of objects. -/
def parseHeader (root : JsonObject) : Except ManifestException BoardManifest := do
  let schemaVersion ← requireU32 root "schema_version"
  if schemaVersion ≠ kBoardManifestSchemaVersion then
    schemaError .invalidSchema "不支持的板卡描述 schema_version"
  else
    let name ← requireString root "name"
    if name = [] ∨ name.length > 64 then schemaError .invalidValue "name 长度必须位于 1～64 字节"
    else
      let boardType ← requireU32 root "board_type"
      let uuid ← parseUuid (← requireString root "uuid")
      let firmware ← requireArray root "firmware_version"
      match firmware with
      | [major, minor, patch] =>
        let major ← parseVersion major
        let minor ← parseVersion minor
        let patch ← parseVersion patch
        let capabilities ← (← requireArray root "capabilities").foldlM addCapability 0
        return {
          schemaVersion := schemaVersion
          name := name
          nodeInfo := ⟨uuid, major, minor, patch, boardType, kProtocolVersion⟩
          capabilities := capabilities }
      | _ => schemaError .invalidValue "firmware_version 必须包含三个整数"

/-- `parse_board_manifest`, behind the JSON parser. -/
def manifestOfJson (value : JsonValue) : Except ManifestException BoardManifest := do
  let root ← requireObject "板卡描述根" value
  rejectUnknown root ["schema_version", "name", "board_type", "uuid", "firmware_version",
    "capabilities", "resource_groups", "reserved_resources", "motion_axes"] "板卡描述根"
  let manifest ← parseHeader root
  let manifest ← (← requireArray root "resource_groups").foldlM addGroup manifest
  let manifest ← (← requireArray root "reserved_resources").foldlM addReserved manifest
  let manifest ← addMotionAxes root manifest
  checkAxes manifest

/-- `parse_board_manifest`: the text is JSON, and describes a board. -/
def parseBoardManifest (text : List UInt8) : Except ManifestException BoardManifest :=
  match Json.parse text with
  | .error e => .error (jsonError e)
  | .ok value => manifestOfJson value

/-- `instantiate_node_info`: the last byte of the UUID tells the nodes of one manifest apart. -/
def instantiateNodeInfo (manifest : BoardManifest) (instance' : UInt32) :
    Except ManifestException NodeInfo :=
  if instance' = 0 ∨ instance' > 127 then
    schemaError .invalidValue "Mock MCU 实例号必须位于 1～127"
  else .ok { manifest.nodeInfo with
    uuid := ⟨manifest.nodeInfo.uuid.bytes.set 15 instance'.toUInt8, by
      rw [List.length_set, manifest.nodeInfo.uuid.length_bytes]⟩ }

/-! ## Scenarios -/

/-- The action of an event, and the resource that it names. -/
def parseAction (event : JsonObject) (action : List UInt8) :
    Except ManifestException (FaultAction × UInt32) := do
  if action = utf8 "uart_failed" then
    return (.setUartFailed, ← requireU32 event "resource_id")
  else if action = utf8 "gpio_input" then
    return (.setGpioInput, ← requireU32 event "resource_id")
  else if action = utf8 "node_online" then
    if event.any fun entry => entry.1 = utf8 "resource_id" then
      schemaError .invalidSchema "node_online 事件不能包含 resource_id"
    else return (.setNodeOnline, 0)
  else if action = utf8 "motion_limit" then
    let resourceId ← requireU32 event "resource_id"
    if event.any fun entry => entry.1 = utf8 "value" then
      schemaError .invalidSchema "motion_limit 事件不能包含 value"
    else return (.triggerMotionLimit, resourceId)
  else .error ⟨.invalidValue, utf8 "未知故障动作 " ++ action⟩

/-- An iteration over `events`, behind those that have been read. -/
def addEvent (events : List FaultEvent) (value : JsonValue) :
    Except ManifestException (List FaultEvent) := do
  if events.length ≥ 0xFFFF then schemaError .invalidValue "故障事件数量超过 65535"
  else
    let event ← requireObject "故障事件" value
    rejectUnknown event ["at_ms", "action", "resource_id", "value"] "故障事件"
    let atMs ← requireInteger event "at_ms"
    if atMs > 0x7FFFFFFFFFFFFFFF then schemaError .invalidValue "故障事件 at_ms 超出单调时钟范围"
    else
      let (action, resourceId) ← parseAction event (← requireString event "action")
      let flag ←
        if action = .triggerMotionLimit then pure false else requireBoolean event "value"
      if events.getLast?.any fun last => atMs < last.atMs then
        schemaError .invalidValue "故障事件必须按 at_ms 非递减排列"
      else return events ++ [⟨atMs, action, resourceId, flag⟩]

/-- `parse_fault_scenario`, behind the JSON parser. -/
def scenarioOfJson (value : JsonValue) : Except ManifestException FaultScenario := do
  let root ← requireObject "故障场景根" value
  rejectUnknown root ["schema_version", "events"] "故障场景根"
  let schemaVersion ← requireU32 root "schema_version"
  if schemaVersion ≠ kFaultScenarioSchemaVersion then
    schemaError .invalidSchema "不支持的故障场景 schema_version"
  else
    let events ← (← requireArray root "events").foldlM addEvent []
    return ⟨schemaVersion, events⟩

/-- `parse_fault_scenario`: the text is JSON, and lists events. -/
def parseFaultScenario (text : List UInt8) : Except ManifestException FaultScenario :=
  match Json.parse text with
  | .error e => .error (jsonError e)
  | .ok value => scenarioOfJson value

end RemoteBSP.MockMcu
