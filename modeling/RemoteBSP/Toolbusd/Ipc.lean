import RemoteBSP.Toolbusd.Clients
import RemoteBSP.Toolbusd.TrafficControl

/-!
# The messages between the clients and the daemon

`toolbusd/src/ipc.cpp`. A message is a body of at most 64 KiB behind its length. A socket is the
list of the bytes that it delivers, so a reader returns what it has read and the bytes that it has
left, and a writer returns the bytes that it sends. The first byte of the body of a request tells
its kind, and thereby the layout of the rest.
-/

namespace RemoteBSP.Toolbusd

/-- `kMaximumIpcBodySize`, above which a message is neither sent nor received. -/
def kMaximumIpcBodySize : ℕ := 64 * 1024

/-- `kNodeInfoSize`, the bytes of a node in the list of nodes. -/
def kNodeInfoSize : ℕ := 33

/-- `kTrafficStatusHeaderSize`, the bytes of a snapshot before its classes. -/
def kTrafficStatusHeaderSize : ℕ := 76

/-- `kTrafficClassCounterSize`, the bytes of a class in a snapshot. -/
def kTrafficClassCounterSize : ℕ := 32

/-- What the functions of `ipc.cpp` throw. -/
inductive IpcError
  /-- `IpcException`, with its text. -/
  | ipc (message : String)
  /-- Thrown by the codec of the packets, and not caught. -/
  | packet (exception : DecodeError)
deriving DecidableEq, Repr

/-- `IpcRequestKind`, what a local client asks the daemon for. -/
inductive IpcRequestKind
  | remotePacket
  | listNodes
  | nextEvent
  | trafficStatus
  | uartStreamRead
deriving DecidableEq, Repr

/-- The byte by which a kind is sent. -/
def IpcRequestKind.value : IpcRequestKind → UInt8
  | .remotePacket => 0
  | .listNodes => 1
  | .nextEvent => 2
  | .trafficStatus => 3
  | .uartStreamRead => 4

/-- The kind of a number, if there is one. -/
def IpcRequestKind.ofValue (value : UInt8) : Option IpcRequestKind :=
  if value = 0 then some .remotePacket
  else if value = 1 then some .listNodes
  else if value = 2 then some .nextEvent
  else if value = 3 then some .trafficStatus
  else if value = 4 then some .uartStreamRead
  else none

/-- `IpcRequest`, what the daemon has read from a client. -/
structure IpcRequest where
  /-- What the client asks for. -/
  kind : IpcRequestKind := .remotePacket
  /-- The node that the request is for, zero if it is for the daemon. -/
  nodeId : UInt32 := 0
  /-- The packet to be sent to the node. -/
  packet : Packet := ⟨{}, []⟩
  /-- The object whose received bytes are asked for. -/
  objectId : UInt32 := 0
  /-- The most bytes that the client wants. -/
  maximumLength : UInt32 := 0
  /-- How long to wait for them. -/
  timeoutMs : UInt32 := 0
deriving DecidableEq, Repr

/-! ## Bodies -/

/-- `send_body`: the bytes that are sent. -/
def sendBody (body : List UInt8) : Except IpcError (List UInt8) :=
  if body.length > kMaximumIpcBodySize then .error (.ipc "本地 IPC 消息超过最大长度")
  else .ok (putU32 (UInt32.ofNat body.length) ++ body)

/-- `receive_all`: the bytes read, and those that are left. -/
def receiveAll (socket : List UInt8) (size : ℕ) : Except IpcError (List UInt8 × List UInt8) :=
  if socket.length < size then .error (.ipc "本地 IPC 对端提前关闭连接")
  else .ok (socket.take size, socket.drop size)

/-- `receive_body`: the length in four bytes, then as many bytes. -/
def receiveBody (socket : List UInt8) : Except IpcError (List UInt8 × List UInt8) := do
  let (lengthBytes, socket) ← receiveAll socket 4
  let length := (getU32 lengthBytes 0).toNat
  if length > kMaximumIpcBodySize then throw (.ipc "本地 IPC 消息超过最大长度")
  receiveAll socket length

/-! ## Requests -/

/-- The node IDs that a request may name. -/
def invalidNodeId (nodeId : UInt32) : Prop := nodeId = 0 ∨ nodeId > 127

/-- The check of a node ID is computed. -/
instance (nodeId : UInt32) : Decidable (invalidNodeId nodeId) :=
  inferInstanceAs (Decidable (_ ∨ _))

/-- The check of the parameters of a read from a stream. -/
def invalidStreamRead (nodeId objectId maximumLength timeoutMs : UInt32) : Prop :=
  nodeId = 0 ∨ nodeId > 127 ∨ objectId = 0 ∨ maximumLength = 0 ∨
    maximumLength.toNat > kMaximumIpcBodySize - 20 ∨ timeoutMs > 60000

/-- The parameters of a read can be checked. -/
instance (nodeId objectId maximumLength timeoutMs : UInt32) :
    Decidable (invalidStreamRead nodeId objectId maximumLength timeoutMs) :=
  inferInstanceAs (Decidable (_ ∨ _))

/-- `write_ipc_request`: a packet for a node. -/
def writeIpcRequest (packet : Packet) (nodeId : UInt32) : Except IpcError (List UInt8) := do
  if invalidNodeId nodeId then throw (.ipc "目标节点 ID 必须位于 1～127")
  let encoded ← (encode packet).mapError .packet
  sendBody ([IpcRequestKind.remotePacket.value] ++ putU32 nodeId ++ encoded)

/-- `write_ipc_node_list_request`, which has no operands. -/
def writeIpcNodeListRequest : Except IpcError (List UInt8) :=
  sendBody [IpcRequestKind.listNodes.value]

/-- `write_ipc_traffic_status_request`, which has no operands. -/
def writeIpcTrafficStatusRequest : Except IpcError (List UInt8) :=
  sendBody [IpcRequestKind.trafficStatus.value]

/-- `write_ipc_next_event_request`: the next event of a node. -/
def writeIpcNextEventRequest (nodeId : UInt32) : Except IpcError (List UInt8) :=
  if invalidNodeId nodeId then .error (.ipc "事件目标节点 ID 必须位于 1～127")
  else sendBody ([IpcRequestKind.nextEvent.value] ++ putU32 nodeId)

/-- `write_ipc_uart_stream_read_request`: received bytes of an object. -/
def writeIpcUartStreamReadRequest (nodeId objectId maximumLength timeoutMs : UInt32) :
    Except IpcError (List UInt8) :=
  if invalidStreamRead nodeId objectId maximumLength timeoutMs then
    .error (.ipc "UART 流读取参数无效")
  else sendBody ([IpcRequestKind.uartStreamRead.value] ++ putU32 nodeId ++ putU32 objectId ++
    putU32 maximumLength ++ putU32 timeoutMs)

/-- `read_ipc_request`, behind `receive_body`: the kind decides what must follow. -/
def parseIpcRequest (body : List UInt8) : Except IpcError IpcRequest :=
  if body.length = 0 then .error (.ipc "本地 IPC 请求类型无效")
  else match IpcRequestKind.ofValue (byteAt body 0) with
    | none => .error (.ipc "本地 IPC 请求类型无效")
    | some .listNodes =>
      if body.length ≠ 1 then .error (.ipc "本地状态请求载荷无效") else .ok { kind := .listNodes }
    | some .trafficStatus =>
      if body.length ≠ 1 then .error (.ipc "本地状态请求载荷无效")
      else .ok { kind := .trafficStatus }
    | some .nextEvent =>
      if body.length ≠ 5 then .error (.ipc "事件等待请求载荷无效")
      else
        let nodeId := getU32 body 1
        if invalidNodeId nodeId then .error (.ipc "事件目标节点 ID 必须位于 1～127")
        else .ok { kind := .nextEvent, nodeId := nodeId }
    | some .uartStreamRead =>
      if body.length ≠ 17 then .error (.ipc "UART 流读取请求载荷无效")
      else
        let nodeId := getU32 body 1
        let objectId := getU32 body 5
        let maximumLength := getU32 body 9
        let timeoutMs := getU32 body 13
        if invalidStreamRead nodeId objectId maximumLength timeoutMs then
          .error (.ipc "UART 流读取参数无效")
        else .ok {
          kind := .uartStreamRead
          nodeId := nodeId
          objectId := objectId
          maximumLength := maximumLength
          timeoutMs := timeoutMs }
    | some .remotePacket =>
      if body.length < 5 then .error (.ipc "本地 IPC 请求缺少目标节点 ID")
      else
        let nodeId := getU32 body 1
        if invalidNodeId nodeId then .error (.ipc "目标节点 ID 必须位于 1～127")
        else match decode (body.drop 5) with
          | .error exception => .error (.packet exception)
          | .ok packet => .ok { kind := .remotePacket, nodeId := nodeId, packet := packet }

/-- `read_ipc_request`, and what is left in the socket. -/
def readIpcRequest (socket : List UInt8) : Except IpcError (IpcRequest × List UInt8) := do
  let (body, rest) ← receiveBody socket
  let request ← parseIpcRequest body
  return (request, rest)

/-! ## Responses -/

/-- `encode_ipc_uart_stream_chunk`: a version, what has been lost before the bytes, then the bytes.
-/
def encodeIpcUartStreamChunk (chunk : UartStreamChunk) : Except IpcError (List UInt8) :=
  if chunk.data.length > kMaximumIpcBodySize - 20 then
    .error (.ipc "UART 流数据超过本地 IPC 上限")
  else .ok (putU16 1 ++ putU16 0 ++ putU64 chunk.droppedBytes ++ putU64 chunk.lostEvents ++
    chunk.data)

/-- `decode_ipc_uart_stream_chunk`, which checks the length, the version and the reserved bytes. -/
def decodeIpcUartStreamChunk (body : List UInt8) : Except IpcError UartStreamChunk :=
  if body.length < 20 ∨ getU16 body 0 ≠ 1 ∨ getU16 body 2 ≠ 0 then
    .error (.ipc "UART 流响应格式无效")
  else .ok {
    data := body.drop 20
    droppedBytes := getU64 body 4
    lostEvents := getU64 body 12 }

/-- `IpcNodeInfo`, a node in the list of nodes. -/
structure IpcNodeInfo where
  /-- The UUID of the board. -/
  uuid : NodeUuid
  /-- The node ID that the daemon has given it. -/
  nodeId : UInt32
  /-- Whether the node has been heard of lately. -/
  online : Bool
  /-- Whether a heartbeat has confirmed the node ID. -/
  ready : Bool
  /-- The major version of the firmware. -/
  firmwareMajor : UInt16
  /-- The minor version of the firmware. -/
  firmwareMinor : UInt16
  /-- The patch level of the firmware. -/
  firmwarePatch : UInt16
  /-- The number of the kind of board. -/
  boardType : UInt32
  /-- The version of the protocol that the node speaks. -/
  protocolVersion : UInt8
deriving DecidableEq, Repr

/-- The body of the loop of `encode_ipc_node_list`. -/
def encodeIpcNodeInfo (node : IpcNodeInfo) : List UInt8 :=
  node.uuid.bytes ++ putU32 node.nodeId ++ [node.online.toUInt8, node.ready.toUInt8] ++
    putU16 node.firmwareMajor ++ putU16 node.firmwareMinor ++ putU16 node.firmwarePatch ++
    putU32 node.boardType ++ [node.protocolVersion]

/-- `encode_ipc_node_list`: the number of the nodes in one byte, then each of them. -/
def encodeIpcNodeList (nodes : List IpcNodeInfo) : Except IpcError (List UInt8) :=
  if nodes.length > 127 then .error (.ipc "节点数量超过本地 IPC 范围")
  else .ok ([UInt8.ofNat nodes.length, 0] ++ nodes.flatMap encodeIpcNodeInfo)

/-- The body of the loop of `decode_ipc_node_list`, for the bytes of a record. -/
def decodeIpcNodeInfo (input : List UInt8) : Except IpcError IpcNodeInfo :=
  if byteAt input 20 > 1 ∨ byteAt input 21 > 1 then .error (.ipc "节点在线或就绪状态无效")
  else .ok {
    uuid := .ofPayload input
    nodeId := getU32 input 16
    online := byteAt input 20 ≠ 0
    ready := byteAt input 21 ≠ 0
    firmwareMajor := getU16 input 22
    firmwareMinor := getU16 input 24
    firmwarePatch := getU16 input 26
    boardType := getU32 input 28
    protocolVersion := byteAt input 32 }

/-- `decode_ipc_node_list`, which checks the length against the number of the nodes. -/
def decodeIpcNodeList (body : List UInt8) : Except IpcError (List IpcNodeInfo) :=
  let count := (byteAt body 0).toNat
  if body.length < 2 ∨ byteAt body 1 ≠ 0 ∨ body.length ≠ 2 + count * kNodeInfoSize then
    .error (.ipc "节点列表响应长度无效")
  else (List.range count).mapM fun index =>
    decodeIpcNodeInfo ((body.drop (2 + index * kNodeInfoSize)).take kNodeInfoSize)

/-- `TrafficSnapshot::kVersion`, the only version that is decoded. -/
def kTrafficSnapshotVersion : UInt16 := 1

/-- The number of a mode of the bus. -/
def TrafficBusMode.value : TrafficBusMode → UInt8
  | .classical => 0
  | .canFd => 1

/-- The mode of a number, if there is one. -/
def TrafficBusMode.ofValue (value : UInt8) : Option TrafficBusMode :=
  if value = 0 then some .classical else if value = 1 then some .canFd else none

/-- `TrafficSnapshot`, how the daemon's control of the bus load stands. -/
structure TrafficSnapshot where
  /-- The version of the layout. -/
  version : UInt16 := kTrafficSnapshotVersion
  /-- Whether frames are classical or FD. -/
  mode : TrafficBusMode := .classical
  /-- The bit rate of the arbitration phase. -/
  arbitrationBitsPerSecond : UInt32 := 0
  /-- The bit rate of the data phase. -/
  dataBitsPerSecond : UInt32 := 0
  /-- The part of the time that all classes together may use, in thousandths. -/
  maximumUtilizationPermille : UInt16 := 0
  /-- The window that a burst may fill. -/
  burstWindowMs : UInt32 := 0
  /-- The time that the bucket of all classes can hold. -/
  globalCapacityNs : UInt64 := 0
  /-- The time left to all classes together, in nanoseconds. -/
  globalAvailableNs : UInt64 := 0
  /-- How many packets have been admitted. -/
  admittedPackets : UInt64 := 0
  /-- How many packets have been rejected. -/
  rejectedPackets : UInt64 := 0
  /-- How many packets have been admitted although there was no time left. -/
  guaranteedOverruns : UInt64 := 0
  /-- How many frames the admitted packets had. -/
  admittedFrames : UInt64 := 0
  /-- The time that they were estimated to take on the wire. -/
  estimatedWireTimeNs : UInt64 := 0
  /-- What has been counted of each class. -/
  classes : Fin kTrafficClassCount → TrafficClassCounters := fun _ => {}

/-- The body of the loop of `encode_ipc_traffic_status`. -/
def encodeTrafficClassCounters (counters : TrafficClassCounters) : List UInt8 :=
  putU64 counters.admittedPackets ++ putU64 counters.rejectedPackets ++
    putU64 counters.admittedFrames ++ putU64 counters.estimatedWireTimeNs

/-- `encode_ipc_traffic_status`. The mode is one of the two, so only the version is checked. -/
def encodeIpcTrafficStatus (snapshot : TrafficSnapshot) : Except IpcError (List UInt8) :=
  if snapshot.version ≠ kTrafficSnapshotVersion then
    .error (.ipc "CAN 流量状态版本或模式无效")
  else .ok (putU16 snapshot.version ++
    [snapshot.mode.value, UInt8.ofNat kTrafficClassCount] ++
    putU32 snapshot.arbitrationBitsPerSecond ++ putU32 snapshot.dataBitsPerSecond ++
    putU16 snapshot.maximumUtilizationPermille ++ putU16 0 ++ putU32 snapshot.burstWindowMs ++
    putU64 snapshot.globalCapacityNs ++ putU64 snapshot.globalAvailableNs ++
    putU64 snapshot.admittedPackets ++ putU64 snapshot.rejectedPackets ++
    putU64 snapshot.guaranteedOverruns ++ putU64 snapshot.admittedFrames ++
    putU64 snapshot.estimatedWireTimeNs ++
    (List.ofFn snapshot.classes).flatMap encodeTrafficClassCounters)

/-- The body of the loop of `decode_ipc_traffic_status`, for the counters at an offset. -/
def decodeTrafficClassCounters (body : List UInt8) (input : ℕ) : TrafficClassCounters where
  admittedPackets := getU64 body input
  rejectedPackets := getU64 body (input + 8)
  admittedFrames := getU64 body (input + 16)
  estimatedWireTimeNs := getU64 body (input + 24)

/-- `decode_ipc_traffic_status`, which checks the version, the mode, the number of the classes and
the length. -/
def decodeIpcTrafficStatus (body : List UInt8) : Except IpcError TrafficSnapshot :=
  let expected := kTrafficStatusHeaderSize + kTrafficClassCount * kTrafficClassCounterSize
  match TrafficBusMode.ofValue (byteAt body 2) with
  | none => .error (.ipc "CAN 流量状态响应长度或版本无效")
  | some mode =>
    if body.length ≠ expected ∨ getU16 body 0 ≠ kTrafficSnapshotVersion ∨
        byteAt body 3 ≠ UInt8.ofNat kTrafficClassCount ∨ getU16 body 14 ≠ 0 then
      .error (.ipc "CAN 流量状态响应长度或版本无效")
    else .ok {
      version := getU16 body 0
      mode := mode
      arbitrationBitsPerSecond := getU32 body 4
      dataBitsPerSecond := getU32 body 8
      maximumUtilizationPermille := getU16 body 12
      burstWindowMs := getU32 body 16
      globalCapacityNs := getU64 body 20
      globalAvailableNs := getU64 body 28
      admittedPackets := getU64 body 36
      rejectedPackets := getU64 body 44
      guaranteedOverruns := getU64 body 52
      admittedFrames := getU64 body 60
      estimatedWireTimeNs := getU64 body 68
      classes := fun index => decodeTrafficClassCounters body
        (kTrafficStatusHeaderSize + index * kTrafficClassCounterSize) }

end RemoteBSP.Toolbusd
