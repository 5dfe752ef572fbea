import RemoteBSP.Protocol.Wire

/-!
# Discovery payloads

`protocol/src/discovery.cpp`: the payloads of the messages by which nodes are found, numbered and
watched.
-/

namespace RemoteBSP

/-- `NodeUuid`, the sixteen bytes that tell boards apart. -/
structure NodeUuid where
  /-- The bytes in the order in which they are sent. -/
  bytes : List UInt8
  /-- There are sixteen of them. -/
  length_bytes : bytes.length = 16
deriving DecidableEq, Repr

/-- The UUID of a board that has none is as long as any other. -/
theorem NodeUuid.length_zeros : (List.replicate 16 (0 : UInt8)).length = 16 :=
  List.length_replicate

/-- The sixteen bytes at the beginning of a payload. -/
def NodeUuid.ofPayload (payload : List UInt8) : NodeUuid :=
  ⟨(List.range 16).map (byteAt payload), by rw [List.length_map, List.length_range]⟩

/-- `DiscoveryRequestPayload`, the versions that the host speaks. -/
structure DiscoveryRequestPayload where
  /-- The lowest version that it speaks. -/
  minimumProtocolVersion : UInt8
  /-- The highest version that it speaks. -/
  maximumProtocolVersion : UInt8
deriving DecidableEq, Repr

/-- `NodeIdentity`, the payload of a discovery response. -/
structure NodeIdentity where
  /-- The UUID of the board. -/
  uuid : NodeUuid
  /-- The major version of the firmware. -/
  firmwareMajor : UInt16
  /-- The minor version of the firmware. -/
  firmwareMinor : UInt16
  /-- The patch level of the firmware. -/
  firmwarePatch : UInt16
  /-- The number of the kind of board. -/
  boardType : UInt32
  /-- The version of the protocol that the node speaks. -/
  protocolVersion : UInt8
deriving DecidableEq, Repr

/-- `NodeAssignment`, the payload of NODE_ASSIGN. -/
structure NodeAssignment where
  /-- The UUID of the board that the assignment is for. -/
  uuid : NodeUuid
  /-- The node ID that it gets. -/
  nodeId : UInt32
deriving DecidableEq, Repr

/-- `HeartbeatPayload`, the payload of a heartbeat. -/
structure HeartbeatPayload where
  /-- The UUID of the board that is alive. -/
  uuid : NodeUuid
  /-- The version of the protocol that the node speaks. -/
  protocolVersion : UInt8
deriving DecidableEq, Repr

/-- `DiscoveryPayloadError`, the reasons for which a codec throws. -/
inductive DiscoveryPayloadError
  | invalidLength
  | invalidVersionRange
  | invalidNodeId
deriving DecidableEq, Repr

/-- `DiscoveryPayloadException`, a reason with its text. -/
structure DiscoveryPayloadException where
  /-- Which rule the message or the bytes break. -/
  code : DiscoveryPayloadError
  /-- The text of `what`, which names the field. -/
  message : String
deriving DecidableEq, Repr

/-- `encode_discovery_request`, which refuses an empty range of versions. -/
def encodeDiscoveryRequest (payload : DiscoveryRequestPayload) :
    Except DiscoveryPayloadException (List UInt8) :=
  if payload.minimumProtocolVersion = 0 ∨
      payload.minimumProtocolVersion > payload.maximumProtocolVersion then
    .error ⟨.invalidVersionRange, "发现请求的协议版本范围无效"⟩
  else .ok [payload.minimumProtocolVersion, payload.maximumProtocolVersion]

/-- `decode_discovery_request`. It checks the range by encoding what it has read. -/
def decodeDiscoveryRequest (payload : List UInt8) :
    Except DiscoveryPayloadException DiscoveryRequestPayload :=
  if payload.length ≠ 2 then .error ⟨.invalidLength, "发现请求载荷长度无效"⟩
  else do
    let decoded : DiscoveryRequestPayload := ⟨byteAt payload 0, byteAt payload 1⟩
    let _ ← encodeDiscoveryRequest decoded
    return decoded

/-- `encode_node_identity`: the UUID, the versions of the firmware, the board and the protocol. -/
def encodeNodeIdentity (identity : NodeIdentity) : List UInt8 :=
  identity.uuid.bytes ++ putU16 identity.firmwareMajor ++ putU16 identity.firmwareMinor ++
    putU16 identity.firmwarePatch ++ putU32 identity.boardType ++ [identity.protocolVersion]

/-- `decode_node_identity`, of 27 bytes. -/
def decodeNodeIdentity (payload : List UInt8) : Except DiscoveryPayloadException NodeIdentity :=
  if payload.length ≠ 27 then .error ⟨.invalidLength, "节点信息载荷长度无效"⟩
  else .ok {
    uuid := .ofPayload payload
    firmwareMajor := getU16 payload 16
    firmwareMinor := getU16 payload 18
    firmwarePatch := getU16 payload 20
    boardType := getU32 payload 22
    protocolVersion := byteAt payload 26 }

/-- `encode_node_assignment`, which refuses the node ID zero. -/
def encodeNodeAssignment (assignment : NodeAssignment) :
    Except DiscoveryPayloadException (List UInt8) :=
  if assignment.nodeId = 0 then .error ⟨.invalidNodeId, "节点 ID 不能为零"⟩
  else .ok (assignment.uuid.bytes ++ putU32 assignment.nodeId)

/-- `decode_node_assignment`, of 20 bytes with a node ID that is not zero. -/
def decodeNodeAssignment (payload : List UInt8) :
    Except DiscoveryPayloadException NodeAssignment :=
  if payload.length ≠ 20 then .error ⟨.invalidLength, "节点分配载荷长度无效"⟩
  else if getU32 payload 16 = 0 then .error ⟨.invalidNodeId, "节点 ID 不能为零"⟩
  else .ok { uuid := .ofPayload payload, nodeId := getU32 payload 16 }

/-- `encode_heartbeat`: the UUID, then the version. -/
def encodeHeartbeat (heartbeat : HeartbeatPayload) : List UInt8 :=
  heartbeat.uuid.bytes ++ [heartbeat.protocolVersion]

/-- `decode_heartbeat`, of 17 bytes. -/
def decodeHeartbeat (payload : List UInt8) : Except DiscoveryPayloadException HeartbeatPayload :=
  if payload.length ≠ 17 then .error ⟨.invalidLength, "心跳载荷长度无效"⟩
  else .ok { uuid := .ofPayload payload, protocolVersion := byteAt payload 16 }

end RemoteBSP
