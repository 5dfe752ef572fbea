import RemoteBSP.Protocol.Reassembler
import RemoteBSP.Toolbusd.NodeRegistry
import RemoteBSP.Toolbusd.RequestManager
import RemoteBSP.Transport.CanFrame

/-!
# The daemon

`ToolbusDaemon` of `toolbusd/src/main.cpp`, as far as the state behind `state_mutex_` goes: what it
does with the messages from the bus, with the time, and with the requests of its clients. A section
of the code under the mutex is one function here, so the threads of the daemon interleave between
these functions. An exception leaves the daemon in the state returned beside it.

Whether the traffic controller admits a packet is an argument of `sendPacket`.
-/

namespace RemoteBSP.Toolbusd

/-- `kBroadcastRequestCanId`, under which the daemon looks for nodes and assigns their IDs. -/
def kBroadcastRequestCanId : UInt32 := 0x700

/-- `kNodeRequestBaseCanId`, plus the node ID of the node that is asked. -/
def kNodeRequestBaseCanId : UInt32 := 0x600

/-- `kNodeResponseBaseCanId`, plus the node ID of the node that answers. -/
def kNodeResponseBaseCanId : UInt32 := 0x580

/-- `kNodeHeartbeatBaseCanId`, plus the node ID of the node that reports. -/
def kNodeHeartbeatBaseCanId : UInt32 := 0x500

/-- `kProvisionalResponseBaseCanId`, plus the provisional ID of a node without a node ID. -/
def kProvisionalResponseBaseCanId : UInt32 := 0x480

/-- `kMaximumNodeId`, the greatest node ID that the daemon assigns. -/
def kMaximumNodeId : UInt32 := 127

/-- `kMaximumQueuedEventsPerNode`, above which the oldest event is dropped. -/
def kMaximumQueuedEventsPerNode : ℕ := 256

/-- `kUartStreamBufferCapacity`, the received bytes that are kept for a client. -/
def kUartStreamBufferCapacity : ℕ := 64 * 1024

/-- The exceptions that stop the work on a message or on a client. -/
inductive DaemonError
  /-- Thrown by the reassembler or the fragmenter. -/
  | fragment (exception : FragmentException)
  /-- Thrown by the codec of the packets. -/
  | packet (exception : DecodeError)
  /-- Thrown by the registry that the daemon has called. -/
  | registry (exception : RegistryError)
  /-- Thrown by the request manager that the daemon has called. -/
  | request (exception : RequestManagerException)
  /-- `std::runtime_error`, with its text. -/
  | runtimeError (message : String)
  /-- `std::invalid_argument`, with its text. -/
  | invalidArgument (message : String)
deriving DecidableEq, Repr

/-- `UartStreamBuffer`, what the daemon keeps of the events of one object. -/
structure UartStreamBuffer where
  /-- The bytes that no client has read yet. -/
  bytes : List UInt8
  /-- How many bytes had no room since the last read. -/
  droppedBytes : UInt64
  /-- How many events have been missed since the last read, by their numbers. -/
  lostEvents : UInt64
  /-- The sequence of the last event. -/
  lastSequence : UInt32
  /-- Whether there has been an event with a sequence. -/
  sequenceInitialized : Bool
deriving DecidableEq, Repr

/-- `ToolbusDaemon`, the side of the host behind its locks. -/
structure Daemon where
  /-- Whether frames are classical or FD. -/
  mode : CanMode
  /-- The transfers from the nodes that are under way. -/
  reassembler : Reassembler
  /-- The requests of the clients that wait for their responses. -/
  requests : RequestManager
  /-- The nodes that have been heard of. -/
  nodes : NodeRegistry
  /-- The responses that no client has taken yet. -/
  responses : Map UInt64 Packet
  /-- The requests that have been given up and that no client has noticed yet. -/
  timedOut : Finset UInt64
  /-- The identifier that each pending request has been sent under, by session and ID. -/
  requestCanIds : Map UInt64 UInt32
  /-- The events of each node that no client has asked for yet, the oldest first. -/
  eventQueues : Map UInt32 (List Packet)
  /-- The bytes received by the ports of the nodes. -/
  uartStreamBuffers : Map UInt64 UartStreamBuffer
  /-- The transfer ID that the next packet will be sent under. -/
  nextTransferId : UInt16
  /-- The ID of the next message of the daemon's own. -/
  nextControlRequestId : UInt32
  /-- The next node ID to allot. -/
  nextNodeId : UInt32
  /-- The session of the daemon's clients, chosen at its start. -/
  sessionId : UInt32
  /-- `make_session_id` returns no zero. -/
  sessionId_ne_zero : sessionId ≠ 0

/-- There is room for data in a frame of either mode. -/
theorem mtu_room (mode : CanMode) : kFragmentHeaderSize < mode.mtu := by
  cases mode <;> decide

namespace UartStreamBuffer

/-- The buffer of an object that no event has been received of. -/
def empty : UartStreamBuffer := ⟨[], 0, 0, 0, false⟩

/-- The check of an event's sequence: whether its bytes are taken. -/
def acceptSequence (stream : UartStreamBuffer) (sequence : UInt32) : Bool × UartStreamBuffer :=
  if sequence = 0 then (true, stream)
  else if !stream.sequenceInitialized then
    (true, { stream with sequenceInitialized := true, lastSequence := sequence })
  else
    let distance := sequence - stream.lastSequence
    if distance = 0 ∨ 0x80000000 ≤ distance then (false, stream)
    else
      (true, { stream with
        lostEvents :=
          if 1 < distance then stream.lostEvents + (distance - 1).toUInt64 else stream.lostEvents
        lastSequence := sequence })

/-- One more byte. A full buffer loses its oldest one. -/
def push (stream : UartStreamBuffer) (byte : UInt8) : UartStreamBuffer :=
  if stream.bytes.length = kUartStreamBufferCapacity then
    { stream with bytes := stream.bytes.tail ++ [byte], droppedBytes := stream.droppedBytes + 1 }
  else { stream with bytes := stream.bytes ++ [byte] }

end UartStreamBuffer

namespace Daemon

/-- The reassembler does not keep what is incomplete for ever. -/
theorem reassemblyTimeout_pos : (0 : ℤ) < 500000000 := by decide

/-- The request manager waits for a response. -/
theorem requestTimeout_pos : 0 < ({} : RequestManagerConfig).timeout := by decide

/-- The request manager remembers a response. -/
theorem duplicateWindow_pos : 0 < ({} : RequestManagerConfig).duplicateWindow := by decide

/-- A node is online for a while. -/
theorem offlineTimeout_pos : (0 : ℤ) < 2000000000 := by decide

/-- The first session is a session. -/
theorem one_session : (1 : UInt32) ≠ 0 := by decide

/-- The daemon that the constructor makes. -/
def create (mode : CanMode) (sessionId : UInt32) (sessionId_ne_zero : sessionId ≠ 0) : Daemon where
  mode := mode
  reassembler := .create mode.mtu 500000000 (mtu_room mode) reassemblyTimeout_pos
  requests := .create {} requestTimeout_pos duplicateWindow_pos
  nodes := .create 2000000000 offlineTimeout_pos
  responses := ∅
  timedOut := ∅
  requestCanIds := ∅
  eventQueues := ∅
  uartStreamBuffers := ∅
  nextTransferId := 1
  nextControlRequestId := 0x80000000
  nextNodeId := 1
  sessionId := sessionId
  sessionId_ne_zero := sessionId_ne_zero

/-- `send_packet`: the frames of a packet, none if it is not admitted. -/
def sendPacket (daemon : Daemon) (packet : Packet) (canId : UInt32) (admitted : Bool) :
    Except DaemonError (Option (List CanMessage)) × Daemon :=
  match encode packet with
  | .error exception => (.error (.packet exception), daemon)
  | .ok bytes =>
    match split daemon.mode.mtu bytes daemon.nextTransferId with
    | .error exception =>
      (.error (.fragment exception), { daemon with nextTransferId := daemon.nextTransferId + 1 })
    | .ok frames =>
      (.ok (if admitted then
          some (frames.map fun frame =>
            ⟨canId, false, frame, daemon.mode = .flexibleDataRate⟩)
        else none),
        { daemon with nextTransferId := daemon.nextTransferId + 1 })

/-- `send_discovery`: the request to send, under the next ID of session zero. -/
def sendDiscovery (daemon : Daemon) : Except DaemonError Packet × Daemon :=
  ((NodeRegistry.makeDiscoveryRequest daemon.nextControlRequestId kProtocolVersion
      kProtocolVersion).mapError .registry,
    { daemon with nextControlRequestId := daemon.nextControlRequestId + 1 })

/-- Whether an identifier is one of a node that has no node ID yet. -/
def provisional (identifier : UInt32) : Bool :=
  kProvisionalResponseBaseCanId < identifier ∧
    identifier ≤ kProvisionalResponseBaseCanId + kMaximumNodeId

/-- Whether an identifier is one of a node's responses. -/
def fromResponses (identifier : UInt32) : Bool :=
  kNodeResponseBaseCanId < identifier ∧ identifier ≤ kNodeResponseBaseCanId + kMaximumNodeId

/-- Whether an identifier is one of a node's events. -/
def fromEvents (identifier : UInt32) : Bool :=
  kNodeHeartbeatBaseCanId < identifier ∧ identifier ≤ kNodeHeartbeatBaseCanId + kMaximumNodeId

/-- The assignment of a node ID, under the next ID of the daemon's own messages. -/
def assign (daemon : Daemon) (uuid : NodeUuid) (nodeId : UInt32) :
    Except DaemonError (Option Packet) × Daemon :=
  let requestId := daemon.nextControlRequestId
  let daemon := { daemon with nextControlRequestId := daemon.nextControlRequestId + 1 }
  match daemon.nodes.makeNodeAssignment uuid nodeId requestId with
  | .error exception => (.error (.registry exception), daemon)
  | .ok (assignment, nodes) => (.ok (some assignment), { daemon with nodes := nodes })

/-- The part of `handle_can_message` behind the registry's acceptance of a discovery response. -/
def assignDiscovered (daemon : Daemon) (update : NodeUpdate) (uuid : NodeUuid) :
    Except DaemonError (Option Packet) × Daemon :=
  match update with
  | .added =>
    if kMaximumNodeId < daemon.nextNodeId then
      (.error (.runtimeError "可分配节点 ID 已耗尽"), daemon)
    else
      { daemon with nextNodeId := daemon.nextNodeId + 1 }.assign uuid daemon.nextNodeId
  | .updated =>
    match daemon.nodes.find uuid with
    | none => (.ok none, daemon)
    | some node =>
      -- The assignment may have been lost, so the same node ID is sent again.
      if !node.assigned ∧ node.nodeId ≠ 0 then daemon.assign uuid node.nodeId
      else (.ok none, daemon)

/-- `handle_can_message` for a discovery response: the node is registered and assigned its ID. -/
def handleDiscoveryResponse (daemon : Daemon) (identifier : UInt32) (packet : Packet) (now : ℤ) :
    Except DaemonError (Option Packet) × Daemon :=
  match daemon.nodes.acceptDiscoveryResponse packet now with
  | .error exception => (.error (.registry exception), daemon)
  | .ok (update, nodes) =>
    match decodeNodeIdentity packet.payload with
    | .error exception => (.error (.registry (.payload exception)), { daemon with nodes := nodes })
    | .ok identity =>
      -- A node that answers from a provisional identifier has lost its node ID.
      let nodes :=
        if provisional identifier then (nodes.markAssignmentUnconfirmed identity.uuid).2 else nodes
      { daemon with nodes := nodes }.assignDiscovered update identity.uuid

/-- `handle_can_message` for a heartbeat: the node is known to be there. -/
def handleHeartbeat (daemon : Daemon) (packet : Packet) (now : ℤ) :
    Except DaemonError (Option Packet) × Daemon :=
  match daemon.nodes.acceptHeartbeat packet now with
  | .error exception => (.error (.registry exception), daemon)
  | .ok (_, nodes) => (.ok none, { daemon with nodes := nodes })

/-- `uart_stream_key`, the node above and the object below. -/
def uartStreamKey (nodeId objectId : UInt32) : UInt64 :=
  (nodeId.toUInt64 <<< 32) ||| objectId.toUInt64

/-- The stream buffers behind an event. -/
def bufferUartEvent (daemon : Daemon) (nodeId : UInt32) (packet : Packet) :
    Map UInt64 UartStreamBuffer :=
  if packet.header.command = Command.uartRxEvent ∧ packet.header.objectId ≠ 0 then
    let streamKey := uartStreamKey nodeId packet.header.objectId
    let stream := (daemon.uartStreamBuffers.lookup streamKey).getD .empty
    let (accept, stream) := stream.acceptSequence packet.header.requestId
    daemon.uartStreamBuffers.insert streamKey
      (if accept then packet.payload.foldl UartStreamBuffer.push stream else stream)
  else daemon.uartStreamBuffers

/-- `handle_can_message` for an event other than a heartbeat. -/
def handleEvent (daemon : Daemon) (identifier : UInt32) (packet : Packet) : Daemon :=
  if !fromEvents identifier then daemon
  else
    let nodeId := identifier - kNodeHeartbeatBaseCanId
    let queue := (daemon.eventQueues.lookup nodeId).getD []
    let queue := if queue.length = kMaximumQueuedEventsPerNode then queue.tail else queue
    { daemon with
      uartStreamBuffers := daemon.bufferUartEvent nodeId packet
      eventQueues := daemon.eventQueues.insert nodeId (queue ++ [packet]) }

/-- `handle_can_message` for a response, which must come from where the request was sent to. -/
def handleResponse (daemon : Daemon) (identifier : UInt32) (packet : Packet) (now : ℤ) : Daemon :=
  if !fromResponses identifier then daemon
  else
    let responseKey := RequestManager.key packet.header.sessionId packet.header.requestId
    let responseNodeId := identifier - kNodeResponseBaseCanId
    if daemon.requestCanIds.lookup responseKey ≠ some (kNodeRequestBaseCanId + responseNodeId) then
      daemon
    else
      let (result, requests) := daemon.requests.acceptResponse packet now
      let daemon := { daemon with requests := requests }
      match result with
      | ⟨.matched, some response⟩ =>
        { daemon with responses := daemon.responses.insert responseKey response }
      | _ => daemon

/-- The part of `handle_can_message` behind the codec: the assignment to send, if there is one. -/
def handlePacket (daemon : Daemon) (identifier : UInt32) (packet : Packet) (now : ℤ) :
    Except DaemonError (Option Packet) × Daemon :=
  if packet.header.command = Command.discoveryResponse then
    daemon.handleDiscoveryResponse identifier packet now
  else if packet.header.command = Command.heartbeat then
    daemon.handleHeartbeat packet now
  else if packet.header.messageType = .event then
    (.ok none, daemon.handleEvent identifier packet)
  else (.ok none, daemon.handleResponse identifier packet now)

/-- `handle_can_message`, by the packet that the frame completes. -/
def handleCanMessage (daemon : Daemon) (message : CanMessage) (now : ℤ) :
    Except DaemonError (Option Packet) × Daemon :=
  let (result, reassembler) := daemon.reassembler.accept message.identifier message.data now
  let daemon := { daemon with reassembler := reassembler }
  match result with
  | .error exception => (.error (.fragment exception), daemon)
  | .ok ⟨.complete, some bytes⟩ =>
    match decode bytes with
    | .error exception => (.error (.packet exception), daemon)
    | .ok packet => daemon.handlePacket message.identifier packet now
  | .ok _ => (.ok none, daemon)

/-- The part of `can_loop` behind `receive`: messages that are not from nodes are dropped. -/
def receive (daemon : Daemon) (message : CanMessage) (now : ℤ) :
    Except DaemonError (Option Packet) × Daemon :=
  if !message.extendedIdentifier ∧
      (fromResponses message.identifier ∨ fromEvents message.identifier ∨
        provisional message.identifier) then
    daemon.handleCanMessage message now
  else (.ok none, daemon)

/-- What `process_request_timers` does with an event of the request manager. -/
def handleRequestEvent (retries : List (Packet × UInt32) × Daemon) (event : RequestEvent) :
    List (Packet × UInt32) × Daemon :=
  let daemon := retries.2
  let requestKey := RequestManager.key event.sessionId event.requestId
  match event.type, event.packet with
  | .retry, some packet =>
    match daemon.requestCanIds.lookup requestKey with
    | some target => (retries.1 ++ [(packet, target)], daemon)
    | none => retries
  | .retry, none => retries
  | .timedOut, _ =>
    (retries.1, { daemon with
      timedOut := insert requestKey daemon.timedOut
      requestCanIds := daemon.requestCanIds.erase requestKey })

/-- `process_request_timers`: the requests to send again, and where to. -/
def processRequestTimers (daemon : Daemon) (now : ℤ) : List (Packet × UInt32) × Daemon :=
  let (events, requests) := daemon.requests.poll now
  let (retries, daemon) := events.foldl handleRequestEvent
    ([], { daemon with requests := requests })
  (retries, { daemon with nodes := (daemon.nodes.expire now).2 })

/-- The first section of `handle_client` under the mutex: a client's request for a node. -/
def submitRequest (daemon : Daemon) (nodeId : UInt32) (request : Packet) (now : ℤ) :
    Except DaemonError Submission × Daemon :=
  if request.header.messageType ≠ .request then
    (.error (.invalidArgument "本地客户端只能提交请求消息"), daemon)
  else
    -- The session belongs to the daemon; the one of the client is not used.
    let request := { request with header := { request.header with sessionId := daemon.sessionId } }
    match daemon.nodes.findByNodeId nodeId with
    | none => (.error (.runtimeError "目标节点尚未发现或已经离线"), daemon)
    | some node =>
      if !node.online ∨ !node.assigned then
        (.error (.runtimeError "目标节点尚未发现或已经离线"), daemon)
      else
        match daemon.requests.submit request now with
        | (.error exception, requests) =>
          (.error (.request exception), { daemon with requests := requests })
        | (.ok submission, requests) =>
          (.ok submission, { daemon with
            requests := requests
            requestCanIds := daemon.requestCanIds.insert
              (RequestManager.key submission.packet.header.sessionId submission.requestId)
              (kNodeRequestBaseCanId + nodeId) })

/-- The section of `handle_client` for a request that is not admitted to the bus. -/
def rejectRequest (daemon : Daemon) (submission : Submission) : DaemonError × Daemon :=
  let sessionId := submission.packet.header.sessionId
  (.runtimeError "CAN 带宽准入拒绝：当前业务类别预算不足", { daemon with
    requests := (daemon.requests.cancel sessionId submission.requestId).2
    requestCanIds := daemon.requestCanIds.erase
      (RequestManager.key sessionId submission.requestId) })

/-- The last section of `handle_client`: the response, or nothing if the request has been given
up. -/
def finishRequest (daemon : Daemon) (requestKey : UInt64) : Option Packet × Daemon :=
  match daemon.responses.lookup requestKey with
  | some response =>
    (some response, { daemon with
      responses := daemon.responses.erase requestKey
      requestCanIds := daemon.requestCanIds.erase requestKey })
  | none => (none, { daemon with timedOut := daemon.timedOut.erase requestKey })

/-! ## The pending requests -/

/-- No request becomes pending, and the pending ones are not changed, but for their deadlines and
retries. -/
def KeepsPending (daemon daemon' : Daemon) : Prop :=
  ∀ requestKey pending', daemon'.requests.pending.lookup requestKey = some pending' →
    ∃ pending, daemon.requests.pending.lookup requestKey = some pending ∧
      pending'.packet = pending.packet

/-- A call that leaves the pending requests as they are keeps them. -/
theorem KeepsPending.of_eq {daemon daemon' : Daemon}
    (h : daemon'.requests.pending = daemon.requests.pending) : KeepsPending daemon daemon' :=
  fun _ pending hlookup => ⟨pending, h ▸ hlookup, rfl⟩

/-- A request is not pending any more. -/
theorem KeepsPending.of_erase {daemon daemon' : Daemon} {requestKey : UInt64}
    (h : daemon'.requests.pending = daemon.requests.pending.erase requestKey) :
    KeepsPending daemon daemon' := by
  intro requestKey' pending hlookup
  rw [h, Map.lookup_erase_ite] at hlookup
  split_ifs at hlookup
  exact ⟨pending, hlookup, rfl⟩

/-- An assignment leaves the requests alone. -/
theorem requests_assign (daemon : Daemon) (uuid : NodeUuid) (nodeId : UInt32) :
    (daemon.assign uuid nodeId).2.requests = daemon.requests := by
  unfold assign
  dsimp only
  split <;> rfl

/-- An assignment behind a discovery leaves the requests alone. -/
theorem requests_assignDiscovered (daemon : Daemon) (update : NodeUpdate) (uuid : NodeUuid) :
    (daemon.assignDiscovered update uuid).2.requests = daemon.requests := by
  unfold assignDiscovered
  split
  · split
    · rfl
    · rw [requests_assign]
  · split
    · rfl
    · split
      · rw [requests_assign]
      · rfl

/-- A packet makes no request pending. -/
theorem keepsPending_handlePacket (daemon : Daemon) (identifier : UInt32) (packet : Packet)
    (now : ℤ) : KeepsPending daemon (daemon.handlePacket identifier packet now).2 := by
  unfold handlePacket
  split_ifs
  · apply KeepsPending.of_eq
    unfold handleDiscoveryResponse
    split
    · rfl
    · split
      · rfl
      · dsimp only
        rw [requests_assignDiscovered]
  · apply KeepsPending.of_eq
    unfold handleHeartbeat
    split <;> rfl
  · apply KeepsPending.of_eq
    unfold handleEvent
    dsimp only
    split <;> rfl
  · unfold handleResponse
    dsimp only
    split
    · exact .of_eq rfl
    · split
      · exact .of_eq rfl
      · rcases daemon.requests.pending_acceptResponse packet now with hpending | hpending
        · split <;> exact .of_eq hpending
        · split <;> exact .of_erase hpending

/-- A message makes no request pending. -/
theorem keepsPending_receive (daemon : Daemon) (message : CanMessage) (now : ℤ) :
    KeepsPending daemon (daemon.receive message now).2 := by
  unfold receive
  split
  · unfold handleCanMessage
    dsimp only
    split
    · exact .of_eq rfl
    · split
      · exact .of_eq rfl
      · exact keepsPending_handlePacket _ _ _ _
    · exact .of_eq rfl
  · exact .of_eq rfl

/-- The timers do with the requests what the request manager does. -/
theorem requests_processRequestTimers (daemon : Daemon) (now : ℤ) :
    (daemon.processRequestTimers now).2.requests = (daemon.requests.poll now).2 := by
  have hfold : ∀ (events : List RequestEvent) (retries : List (Packet × UInt32) × Daemon),
      (events.foldl handleRequestEvent retries).2.requests = retries.2.requests := by
    intro events
    induction events with
    | nil => exact fun retries => rfl
    | cons event events ih =>
      intro retries
      rw [List.foldl_cons, ih]
      unfold handleRequestEvent
      dsimp only
      split
      · cases AList.lookup (RequestManager.key event.sessionId event.requestId)
          retries.2.requestCanIds <;> rfl
      · rfl
      · rfl
  exact hfold _ _

/-- The timers make no request pending. -/
theorem keepsPending_timers (daemon : Daemon) (now : ℤ) :
    KeepsPending daemon (daemon.processRequestTimers now).2 := by
  intro requestKey pending' hlookup
  rw [requests_processRequestTimers, RequestManager.pending_poll, Map.lookup_mapValues,
    Map.lookup_filterEntries, Option.map_eq_some_iff] at hlookup
  obtain ⟨pending, hfilter, rfl⟩ := hlookup
  obtain ⟨hpending, -⟩ := Option.filter_eq_some_iff.1 hfilter
  exact ⟨pending, hpending, RequestManager.packet_polled _ _ _⟩

/-- The requests that the timers send again are pending. -/
theorem retry_pending {daemon : Daemon} {now : ℤ} {retry : Packet × UInt32}
    (h : retry ∈ (daemon.processRequestTimers now).1) :
    ∃ requestKey pending, daemon.requests.pending.lookup requestKey = some pending ∧
      retry.1 = pending.packet := by
  -- A retry that the loop collects is the packet of an event of `poll`.
  have hfold : ∀ (events : List RequestEvent) (retries : List (Packet × UInt32) × Daemon),
      (∀ event ∈ events, event ∈ (daemon.requests.poll now).1) →
      (∀ retry ∈ retries.1, ∃ event ∈ (daemon.requests.poll now).1, retry.1 ∈ event.packet) →
      ∀ retry ∈ (events.foldl handleRequestEvent retries).1,
        ∃ event ∈ (daemon.requests.poll now).1, retry.1 ∈ event.packet := by
    intro events
    induction events with
    | nil => exact fun retries _ hretries => hretries
    | cons event events ih =>
      intro retries hevents hretries
      rw [List.foldl_cons]
      refine ih _ (fun e he => hevents e (List.mem_cons_of_mem _ he)) fun retry hretry => ?_
      unfold handleRequestEvent at hretry
      dsimp only at hretry
      split at hretry
      · rename_i packet _ hpacket
        cases htarget : AList.lookup (RequestManager.key event.sessionId event.requestId)
            retries.2.requestCanIds with
        | none =>
          rw [htarget] at hretry
          exact hretries retry hretry
        | some target =>
          rw [htarget] at hretry
          rcases List.mem_append.1 hretry with hold | hnew
          · exact hretries retry hold
          · obtain rfl := List.mem_singleton.1 hnew
            exact ⟨event, hevents event List.mem_cons_self, hpacket⟩
      · exact hretries retry hretry
      · exact hretries retry hretry
  obtain ⟨event, hevent, hpacket⟩ := hfold _ ([], { daemon with
    requests := (daemon.requests.poll now).2 }) (fun _ => id)
    (fun _ hnil => absurd hnil List.not_mem_nil) retry h
  obtain ⟨requestKey, pending, hpending, heq, -⟩ := RequestManager.retry_mem_poll hevent hpacket
  exact ⟨requestKey, pending, hpending, heq⟩

/-- A client's request becomes pending under its session and its ID, and no other does. -/
theorem submitRequest_pending (daemon : Daemon) (nodeId : UInt32) (request : Packet) (now : ℤ) :
    match (daemon.submitRequest nodeId request now).1 with
    | .error _ => KeepsPending daemon (daemon.submitRequest nodeId request now).2
    | .ok submission => ∃ pending, pending.packet = submission.packet ∧
        (daemon.submitRequest nodeId request now).2.requests.pending =
          daemon.requests.pending.insert (RequestManager.key submission.packet.header.sessionId
            submission.packet.header.requestId) pending := by
  unfold submitRequest
  by_cases htype : request.header.messageType ≠ .request
  · rw [if_pos htype]
    exact .of_eq rfl
  rw [if_neg htype]
  dsimp only
  cases daemon.nodes.findByNodeId nodeId with
  | none => exact .of_eq rfl
  | some node =>
    dsimp only
    split_ifs with hoffline
    · exact .of_eq rfl
    · have hspec := daemon.requests.submit_spec
        { request with header := { request.header with sessionId := daemon.sessionId } } now
      cases hsubmit : daemon.requests.submit
          { request with header := { request.header with sessionId := daemon.sessionId } } now with
      | mk result requests =>
        rw [hsubmit] at hspec
        cases result with
        | error exception => exact .of_eq hspec
        | ok submission => exact hspec.2

end Daemon

end RemoteBSP.Toolbusd
