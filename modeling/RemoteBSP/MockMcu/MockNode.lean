import RemoteBSP.Lib.FifoCache
import RemoteBSP.MockMcu.Handlers
import RemoteBSP.Protocol.Reassembler

/-!
# The mock node

`MockNode` of `mock_mcu/src/mock_node.cpp`: the core behind the fragments. A frame goes to the
reassembler, the packet that it completes is decoded, and the reply is found in the cache of
responses or made by the core and put there. What the constructor is given and never changes is the
`NodeConfig`, whose checks are fields.

Whatever is thrown leaves the node in the state returned beside it. `nodeMachine` is the node in its
surroundings: frames, heartbeats, events of the ports, the timer and the ends of sessions in any
order, while the outside acts on the pins, the ports and the motion executor.
-/

namespace RemoteBSP.MockMcu

/-- `NodeReply`, the frames of a packet from the node. -/
structure NodeReply where
  /-- The transfer ID that the frames carry. -/
  transferId : UInt16
  /-- The data of the frames, in their order. -/
  frames : List (List UInt8)
deriving DecidableEq, Repr

/-- `MockNodeError`, the reasons for which the node itself throws. -/
inductive MockNodeError
  | invalidCacheSize
  | conflictingDuplicateRequest
deriving DecidableEq, Repr

/-- `MockNodeException`, a reason with its text. -/
structure MockNodeException where
  /-- Whether the node cannot be made, or the request conflicts with a cached one. -/
  code : MockNodeError
  /-- The text of `what`, which says so. -/
  message : String
deriving DecidableEq, Repr

/-- What a node may throw. The exceptions of the standard library have only a text. -/
inductive NodeException
  | fragment (e : FragmentException)
  | packet (e : DecodeError)
  | node (e : MockNodeException)
  | discovery (e : DiscoveryPayloadException)
  | handle (e : HandleException)
  | invalidArgument (message : String)
deriving DecidableEq, Repr

/-- What a node is made for. -/
structure NodeConfig where
  /-- What the core of the node is made for. -/
  board : Board
  /-- The most bytes of data that a frame carries. -/
  mtu : ℕ
  /-- How long a transfer may go without a fragment, in nanoseconds. -/
  reassemblyTimeout : ℤ
  /-- The number of responses that are kept. -/
  maximumCachedRequests : ℕ
  /-- The constructor has checked the length of a frame. -/
  room : kFragmentHeaderSize < mtu
  /-- The constructor has checked the timeout. -/
  timeout_pos : 0 < reassemblyTimeout
  /-- The constructor has checked the size of the cache. -/
  capacity_pos : 0 < maximumCachedRequests

/-- The checks of the constructor, in their order. -/
def NodeConfig.create (board : Board) (mtu : ℕ) (reassemblyTimeout : ℤ)
    (maximumCachedRequests : ℕ) : Except NodeException NodeConfig :=
  if hroom : kFragmentHeaderSize < mtu then
    if htimeout : 0 < reassemblyTimeout then
      if hcapacity : 0 < maximumCachedRequests then
        .ok ⟨board, mtu, reassemblyTimeout, maximumCachedRequests, hroom, htimeout, hcapacity⟩
      else .error (.node ⟨.invalidCacheSize, "重复请求缓存容量必须大于零"⟩)
    else .error (.invalidArgument "reassembly timeout must be positive")
  else .error (.fragment ⟨.invalidMtu, "MTU leaves no room for fragment data"⟩)

/-- `MockNode::CachedRequest`, a request that was executed, with its response. -/
structure CachedRequest where
  /-- The request as it was decoded. -/
  request : Packet
  /-- The bytes of the response, which a repetition of the request is answered with. -/
  encodedResponse : List UInt8

/-- `MockNode`, a core behind the transport with its cache. -/
structure MockNode where
  /-- The objects, the leases and the devices. -/
  core : RemoteCore
  /-- The transfers to the node that are under way. -/
  reassembler : Reassembler
  /-- The node's ID, zero for none. -/
  nodeId : UInt32
  /-- The next transfer from the node. -/
  nextOutboundTransferId : UInt16 := 1
  /-- The responses that are kept, by `requestKey`. -/
  cache : FifoCache UInt64 CachedRequest := .empty
  /-- The requests that have been executed. -/
  executedRequestCount : UInt64 := 0
  /-- The requests that have been answered from the cache. -/
  cachedResponseCount : UInt64 := 0

/-- `MockNode::request_key`, the session above and the ID below. -/
def requestKey (sessionId requestId : UInt32) : UInt64 :=
  (sessionId.toUInt64 <<< 32) ||| requestId.toUInt64

/-- The key that a request is remembered under. -/
def keyOf (request : Packet) : UInt64 :=
  requestKey request.header.sessionId request.header.requestId

/-- `MockNode::same_request`: the fields and the payload agree. -/
def sameRequest (left right : Packet) : Bool :=
  left.header.version = right.header.version ∧
    left.header.messageType = right.header.messageType ∧
    left.header.command = right.header.command ∧
    left.header.sessionId = right.header.sessionId ∧
    left.header.requestId = right.header.requestId ∧
    left.header.objectId = right.header.objectId ∧
    left.header.flags = right.header.flags ∧
    left.payload = right.payload

namespace MockNode

variable (config : NodeConfig) (node : MockNode)

/-- The node that the constructor makes. -/
def create (core : RemoteCore) (nodeId : UInt32) : MockNode where
  core := core
  reassembler := .create config.mtu config.reassemblyTimeout config.room config.timeout_pos
  nodeId := nodeId

/-! ## What the node sends -/

/-- `MockNode::allocate_transfer_id`, which never returns zero. -/
def allocateTransferId : UInt16 × MockNode :=
  let next := node.nextOutboundTransferId + 1
  (node.nextOutboundTransferId,
    { node with nextOutboundTransferId := if next = 0 then 1 else next })

/-- A reply with the next transfer ID. -/
def reply (encoded : List UInt8) : Except NodeException NodeReply × MockNode :=
  let (transferId, node) := node.allocateTransferId
  match split config.mtu encoded transferId with
  | .error e => (.error (.fragment e), node)
  | .ok frames => (.ok ⟨transferId, frames⟩, node)

/-- The heartbeat of the node: its node ID, its UUID and the version that it speaks. -/
def heartbeat : Packet where
  header := {
    messageType := .event
    command := Command.heartbeat
    objectId := node.nodeId }
  payload := encodeHeartbeat ⟨config.board.nodeInfo.uuid, config.board.nodeInfo.protocolVersion⟩

/-- The packet in frames, with the next transfer ID. The ID is allocated first. -/
def sendPacket (packet : Packet) : Except NodeException NodeReply × MockNode :=
  match encode packet with
  | .error e => (.error (.packet e), node.allocateTransferId.2)
  | .ok encoded => node.reply config encoded

/-- `MockNode::make_heartbeat`, in frames. -/
def makeHeartbeat : Except NodeException NodeReply × MockNode :=
  node.sendPacket config (node.heartbeat config)

/-- The loop of `poll_uart_events`: the events are split into frames one after the other. -/
def sendAll (node : MockNode) : List Packet → Except NodeException (List NodeReply) × MockNode
  | [] => (.ok [], node)
  | event :: rest =>
    match node.sendPacket config event with
    | (.error e, node) => (.error e, node)
    | (.ok first, node) =>
      match sendAll node rest with
      | (.error e, node) => (.error e, node)
      | (.ok replies, node) => (.ok (first :: replies), node)

/-- `MockNode::poll_uart_events`: the events of the core, in frames. -/
def pollUartEvents (maximumPayload : ℕ) : Except NodeException (List NodeReply) × MockNode :=
  match node.core.pollUartEvents maximumPayload with
  | (none, core) => (.error (.invalidArgument "UART 事件载荷长度无效"), { node with core := core })
  | (some events, core) => { node with core := core }.sendAll config events

/-! ## Requests -/

/-- The response to a discovery, if the versions match. -/
def discoveryResponse (request : Packet) : Except NodeException (Option Packet) :=
  let info := config.board.nodeInfo
  match decodeDiscoveryRequest request.payload with
  | .error e => .error (.discovery e)
  | .ok discovery =>
    if info.protocolVersion < discovery.minimumProtocolVersion ∨
        info.protocolVersion > discovery.maximumProtocolVersion then .ok none
    else .ok (some {
      header := {
        version := kProtocolVersion
        messageType := .response
        command := Command.discoveryResponse
        sessionId := request.header.sessionId
        requestId := request.header.requestId }
      payload := encodeNodeIdentity ⟨info.uuid, info.firmwareMajor, info.firmwareMinor,
        info.firmwarePatch, info.boardType, info.protocolVersion⟩ })

/-- The response to an assignment, if it is meant for this node, and the node with its new ID. -/
def assignmentResponse (request : Packet) : Except NodeException (Option Packet) × MockNode :=
  match decodeNodeAssignment request.payload with
  | .error e => (.error (.discovery e), node)
  | .ok assignment =>
    if assignment.uuid ≠ config.board.nodeInfo.uuid then (.ok none, node)
    else
      (.ok (some {
        header := {
          version := kProtocolVersion
          messageType := .response
          command := request.header.command
          sessionId := request.header.sessionId
          requestId := request.header.requestId
          objectId := assignment.nodeId }
        payload := [0] }), { node with nodeId := assignment.nodeId })

/-- The part of `process_request` that executes a request. -/
def execute (request : Packet) (now : ℤ) : Except NodeException (Option Packet) × MockNode :=
  if request.header.command = Command.discoveryRequest then
    (discoveryResponse config request, node)
  else if request.header.command = Command.nodeAssign then node.assignmentResponse config request
  else match node.core.handle config.board request now with
    | (.error e, core) => (.error (.handle e), { node with core := core })
    | (.ok response, core) => (.ok (some response), { node with core := core })

/-- `MockNode::insert_cache`: the oldest entries give way. -/
def insertCache (key : UInt64) (entry : CachedRequest) : MockNode :=
  { node with cache := node.cache.insert config.maximumCachedRequests key entry }

/-- The part of `process_request` that answers a request that is not in the cache. -/
def answer (request : Packet) (now : ℤ) : Except NodeException (Option NodeReply) × MockNode :=
  match node.execute config request now with
  | (.error e, node) => (.error e, node)
  | (.ok none, node) => (.ok none, node)
  | (.ok (some response), node) =>
    match encode response with
    | .error e => (.error (.packet e), node)
    | .ok encoded =>
      let node := { node with executedRequestCount := node.executedRequestCount + 1 }
      let node := node.insertCache config (keyOf request) ⟨request, encoded⟩
      let (sent, node) := node.reply config encoded
      (sent.map some, node)

/-- The part of `process_request` that answers from the cache. -/
def replay (found : CachedRequest) (request : Packet) :
    Except NodeException (Option NodeReply) × MockNode :=
  if ¬sameRequest found.request request then
    (.error (.node ⟨.conflictingDuplicateRequest, "相同会话 ID 和请求 ID 对应了不同请求内容"⟩), node)
  else
    let node := { node with cachedResponseCount := node.cachedResponseCount + 1 }
    let (sent, node) := node.reply config found.encodedResponse
    (sent.map some, node)

/-- `MockNode::process_request`: a request that is remembered is answered out of the cache. -/
def processRequest (request : Packet) (now : ℤ) :
    Except NodeException (Option NodeReply) × MockNode :=
  match node.cache.lookup (keyOf request) with
  | some found => node.replay config found request
  | none => node.answer config request now

/-- The first part of `handle_frame`: the request that a frame completes, or completes again. -/
def receive (streamId : UInt32) (frame : List UInt8) (now : ℤ) :
    Except NodeException (Option Packet) × MockNode :=
  let (result, reassembler) := node.reassembler.accept streamId frame now
  let node := { node with reassembler := reassembler }
  match result with
  | .error e => (.error (.fragment e), node)
  | .ok result =>
    -- The frame is decoded again only for a duplicate.
    let repeatedLast : Except FragmentException Bool :=
      if result.status = .duplicate then
        (decodeFragment frame config.mtu).map fun fragment => fragment.isLast
      else .ok false
    match repeatedLast with
    | .error e => (.error (.fragment e), node)
    | .ok repeatedLast =>
      if result.status ≠ .complete ∧ ¬repeatedLast then (.ok none, node)
      else match result.packet with
        | none => (.ok none, node)
        | some packet =>
          match decode packet with
          | .error e => (.error (.packet e), node)
          | .ok request => (.ok (some request), node)

/-- `MockNode::handle_frame`: the last fragment of a request has the request processed. -/
def handleFrame (streamId : UInt32) (frame : List UInt8) (now : ℤ) :
    Except NodeException (Option NodeReply) × MockNode :=
  match node.receive config streamId frame now with
  | (.error e, node) => (.error e, node)
  | (.ok none, node) => (.ok none, node)
  | (.ok (some request), node) => node.processRequest config request now

/-! ## Time and sessions -/

/-- `MockNode::expire`: transfers that have waited for too long are dropped, and leases end. -/
def expire (now : ℤ) : ℕ × MockNode :=
  let (transfers, reassembler) := node.reassembler.expire now
  let (leases, core) := node.core.expireLeases config.board now
  (transfers + leases, { node with reassembler := reassembler, core := core })

/-- Whether a key belongs to a session. -/
def ofSession (sessionId : UInt32) (key : UInt64) : Bool := (key >>> 32).toUInt32 = sessionId

/-- `MockNode::clear_session`: what a session has is released, and its requests are forgotten. -/
def clearSession (sessionId : UInt32) : ℕ × MockNode :=
  let cache := node.cache.eraseIf (ofSession sessionId)
  let (released, core) := node.core.releaseSession config.board sessionId
  (node.cache.size - cache.size + released, { node with cache := cache, core := core })

end MockNode

/-! ## The node in its surroundings -/

/-- The calls that change a node. -/
inductive NodeOp
  | handleFrame (streamId : UInt32) (frame : List UInt8) (now : ℤ)
  | makeHeartbeat
  | pollUartEvents (maximumPayload : ℕ)
  | allocateTransferId
  | expire (now : ℤ)
  | clearSession (sessionId : UInt32)
  /-- The outside may leave the pins, the ports and the motion executor in any state. -/
  | outside (gpioBsp : MockGpioBsp) (uartBsp : MockUartBsp) (motion : MotionExecutor)

/-- What a call returns. -/
inductive NodeOutcome
  | reply (sent : Except NodeException (Option NodeReply))
  | replies (sent : Except NodeException (List NodeReply))
  | transferId (transferId : UInt16)
  | removed (count : ℕ)
  | done

/-- The node as a machine, whose outcomes are what its calls return. -/
def nodeMachine (config : NodeConfig) : Machine MockNode NodeOp NodeOutcome where
  step node op :=
    match op with
    | .handleFrame streamId frame now =>
      let (sent, node) := node.handleFrame config streamId frame now
      (node, .reply sent)
    | .makeHeartbeat =>
      let (sent, node) := node.makeHeartbeat config
      (node, .reply (sent.map some))
    | .pollUartEvents maximumPayload =>
      let (sent, node) := node.pollUartEvents config maximumPayload
      (node, .replies sent)
    | .allocateTransferId => (node.allocateTransferId.2, .transferId node.allocateTransferId.1)
    | .expire now => ((node.expire config now).2, .removed (node.expire config now).1)
    | .clearSession sessionId =>
      ((node.clearSession config sessionId).2, .removed (node.clearSession config sessionId).1)
    | .outside gpioBsp uartBsp motion =>
      ({ node with
        core := { node.core with
          gpioBsp := node.core.gpioBsp.map fun _ => gpioBsp
          uartBsp := node.core.uartBsp.map fun _ => uartBsp
          motion := node.core.motion.map fun _ => motion } }, .done)

end RemoteBSP.MockMcu
