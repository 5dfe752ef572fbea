import RemoteBSP.MockMcu.MockNode
import RemoteBSP.MockMcu.Replies
import RemoteBSP.Protocol.PacketCodec
import RemoteBSP.Toolbusd.RequestLifecycle

/-!
# The responses that the mock node keeps

What an operation does to the cache is one of three things: nothing, the erasure of a session, or
the insertion of the one request that has been executed (`cache_step`). The map and the order of the
keys therefore agree in every run with a log of executed requests, no key twice and no more than
there is room for, and the response to a request is under its key (`response_cache_sound`).

A request that has been executed is answered from the cache while its session has not ended and
fewer requests have been executed since than there is room for: the same request gets the same
response, another request with its IDs is refused, and neither reaches the core
(`executed_request_replayed`).
-/

namespace RemoteBSP.MockMcu

open Toolbusd (RequestManager.toUInt32_key)

namespace MockNode

variable {config : NodeConfig} {node : MockNode} {request : Packet} {encoded : List UInt8}

/-! ## What an operation leaves alone -/

/-- A reply takes a transfer ID and nothing else. -/
theorem reply_node (config : NodeConfig) (node : MockNode) (encoded : List UInt8) :
    (node.reply config encoded).2 = node.allocateTransferId.2 := by
  unfold reply
  dsimp only
  split <;> rfl

/-- A packet takes a transfer ID and nothing else. -/
theorem sendPacket_node (config : NodeConfig) (node : MockNode) (packet : Packet) :
    (node.sendPacket config packet).2 = node.allocateTransferId.2 := by
  unfold sendPacket
  split
  · rfl
  · exact reply_node config node _

/-- The events take transfer IDs and nothing else. -/
theorem sendAll_node (config : NodeConfig) (node : MockNode) (events : List Packet) :
    ∃ next, (sendAll config node events).2 = { node with nextOutboundTransferId := next } := by
  induction events generalizing node with
  | nil => exact ⟨_, rfl⟩
  | cons event rest ih =>
    have hsend := sendPacket_node config node event
    unfold sendAll
    rcases heq : node.sendPacket config event with ⟨_ | first, sent⟩
    · rw [heq] at hsend
      exact ⟨_, hsend⟩
    · rw [heq] at hsend
      obtain rfl : sent = node.allocateTransferId.2 := hsend
      obtain ⟨next, hrest⟩ := ih node.allocateTransferId.2
      dsimp only
      rcases hall : sendAll config node.allocateTransferId.2 rest with ⟨_ | replies, last⟩
      · rw [hall] at hrest
        exact ⟨next, hrest⟩
      · rw [hall] at hrest
        exact ⟨next, hrest⟩

/-- The reception of a frame changes the reassembler and nothing else. -/
theorem receive_node (config : NodeConfig) (node : MockNode) (streamId : UInt32)
    (frame : List UInt8) (now : ℤ) :
    (node.receive config streamId frame now).2 =
      { node with reassembler := (node.reassembler.accept streamId frame now).2 } := by
  unfold receive
  dsimp only
  repeat' split
  all_goals rfl

/-- The execution of a request changes the core and the node's ID and nothing else. -/
theorem execute_node (config : NodeConfig) (node : MockNode) (request : Packet) (now : ℤ) :
    ∃ core nodeId, (node.execute config request now).2 =
      { node with core := core, nodeId := nodeId } := by
  unfold execute
  split
  · exact ⟨_, _, rfl⟩
  · split
    · unfold assignmentResponse
      split
      · exact ⟨_, _, rfl⟩
      · split <;> exact ⟨_, _, rfl⟩
    · split <;> exact ⟨_, _, rfl⟩

/-! ## What an operation does to the cache -/

/-- The node executes a request, and this is the response. -/
structure Executed (config : NodeConfig) (node : MockNode) (request : Packet) (now : ℤ)
    (encoded : List UInt8) : Prop where
  /-- The request is not in the cache. -/
  fresh : node.cache.lookup (keyOf request) = none
  /-- The execution has succeeded and given this response. -/
  response : ∃ response, (node.execute config request now).1 = .ok (some response) ∧
    encode response = .ok encoded

/-- An operation executes a request, and this is the response. -/
def Executes (config : NodeConfig) (node : MockNode) (op : NodeOp) (request : Packet)
    (encoded : List UInt8) : Prop :=
  ∃ streamId frame now, op = .handleFrame streamId frame now ∧
    (node.receive config streamId frame now).1 = .ok (some request) ∧
    (node.receive config streamId frame now).2.Executed config request now encoded

/-- The cache and the count of the requests that have been executed are as they were. -/
def SameCache (node node' : MockNode) : Prop :=
  node'.cache = node.cache ∧ node'.executedRequestCount = node.executedRequestCount

/-- An answer from the cache leaves the cache alone. -/
theorem replay_same (found : CachedRequest) (request : Packet) :
    SameCache node (node.replay config found request).2 := by
  unfold replay
  split
  · exact ⟨rfl, rfl⟩
  · dsimp only
    rw [reply_node]
    exact ⟨rfl, rfl⟩

/-- The response of a request that is executed is put into the cache. -/
theorem answer_executed {now : ℤ} {response : Packet}
    (hresponse : (node.execute config request now).1 = .ok (some response))
    (hencode : encode response = .ok encoded) :
    (node.answer config request now).2.cache =
        node.cache.insert config.maximumCachedRequests (keyOf request) ⟨request, encoded⟩ ∧
      (node.answer config request now).2.executedRequestCount =
        node.executedRequestCount + 1 := by
  obtain ⟨core, nodeId, hnode⟩ := execute_node config node request now
  unfold answer
  rcases hexecute : node.execute config request now with ⟨result, behind⟩
  rw [hexecute] at hnode hresponse
  obtain rfl := hnode
  obtain rfl := hresponse
  dsimp only
  rw [hencode]
  dsimp only
  rw [reply_node]
  exact ⟨rfl, rfl⟩

/-- Nothing is put into the cache unless a request is executed. -/
theorem answer_cases (config : NodeConfig) (node : MockNode) (request : Packet) (now : ℤ) :
    SameCache node (node.answer config request now).2 ∨
      ∃ encoded response, (node.execute config request now).1 = .ok (some response) ∧
        encode response = .ok encoded := by
  obtain ⟨core, nodeId, hnode⟩ := execute_node config node request now
  rcases hexecute : node.execute config request now with ⟨_ | _ | response, behind⟩
  · rw [hexecute] at hnode
    obtain rfl := hnode
    left
    unfold answer
    rw [hexecute]
    exact ⟨rfl, rfl⟩
  · rw [hexecute] at hnode
    obtain rfl := hnode
    left
    unfold answer
    rw [hexecute]
    exact ⟨rfl, rfl⟩
  · rw [hexecute] at hnode
    obtain rfl := hnode
    rcases hencode : encode response with _ | encoded
    · left
      unfold answer
      rw [hexecute]
      dsimp only
      rw [hencode]
      exact ⟨rfl, rfl⟩
    · exact .inr ⟨encoded, response, rfl, hencode⟩

/-- An operation that executes a request puts the response into the cache. -/
theorem insert_of_executes {op : NodeOp} (h : Executes config node op request encoded) :
    ((nodeMachine config).step node op).1.cache =
        node.cache.insert config.maximumCachedRequests (keyOf request) ⟨request, encoded⟩ ∧
      ((nodeMachine config).step node op).1.executedRequestCount =
        node.executedRequestCount + 1 := by
  obtain ⟨streamId, frame, now, rfl, hreceive, hexecuted⟩ := h
  have hnode := receive_node config node streamId frame now
  show (node.handleFrame config streamId frame now).2.cache = _ ∧
    (node.handleFrame config streamId frame now).2.executedRequestCount = _
  unfold handleFrame
  rcases heq : node.receive config streamId frame now with ⟨result, received⟩
  rw [heq] at hreceive hexecuted hnode
  obtain ⟨hfresh, response, hresponse, hencode⟩ := hexecuted
  obtain rfl := hreceive
  dsimp only
  unfold processRequest
  rw [hfresh]
  dsimp only
  obtain ⟨hcache, hcount⟩ := answer_executed hresponse hencode
  rw [hcache, hcount, hnode]
  exact ⟨rfl, rfl⟩

/-- What an operation does to the cache. -/
theorem cache_step (config : NodeConfig) (node : MockNode) (op : NodeOp) :
    SameCache node ((nodeMachine config).step node op).1 ∨
      (∃ sessionId, op = .clearSession sessionId ∧
        ((nodeMachine config).step node op).1.cache = node.cache.eraseIf (ofSession sessionId) ∧
        ((nodeMachine config).step node op).1.executedRequestCount = node.executedRequestCount) ∨
      ∃ request encoded, Executes config node op request encoded ∧
        ((nodeMachine config).step node op).1.cache =
          node.cache.insert config.maximumCachedRequests (keyOf request) ⟨request, encoded⟩ ∧
        ((nodeMachine config).step node op).1.executedRequestCount =
          node.executedRequestCount + 1 := by
  cases op with
  | handleFrame streamId frame now =>
    -- A frame inserts at most the response to the request that it completes.
    have hreceive := receive_node config node streamId frame now
    simp only [nodeMachine, handleFrame]
    rcases heq : node.receive config streamId frame now with ⟨_ | _ | request, received⟩
    · rw [heq] at hreceive
      obtain rfl := hreceive
      exact .inl ⟨rfl, rfl⟩
    · rw [heq] at hreceive
      obtain rfl := hreceive
      exact .inl ⟨rfl, rfl⟩
    · rw [heq] at hreceive
      obtain rfl := hreceive
      dsimp only
      unfold processRequest
      dsimp only
      rcases hlookup : node.cache.lookup (keyOf request) with _ | found
      -- A request that is not found is executed, and its response is inserted.
      · rcases answer_cases config { node with
            reassembler := (node.reassembler.accept streamId frame now).2 } request now with
          hsame | ⟨encoded, response, hresponse, hencode⟩
        · exact .inl hsame
        · obtain ⟨hcache, hcount⟩ := answer_executed hresponse hencode
          refine .inr (.inr ⟨request, encoded, ⟨streamId, frame, now, rfl, ?_, ?_⟩, hcache, hcount⟩)
          · rw [heq]
          · rw [heq]
            exact ⟨hlookup, response, hresponse, hencode⟩
      · exact .inl (replay_same _ _)
  -- What the node sends by itself does not touch the cache.
  | makeHeartbeat =>
    left
    show SameCache node (node.makeHeartbeat config).2
    unfold makeHeartbeat
    rw [sendPacket_node]
    exact ⟨rfl, rfl⟩
  | pollUartEvents maximumPayload =>
    left
    simp only [nodeMachine, pollUartEvents]
    rcases node.core.pollUartEvents maximumPayload with ⟨_ | events, core⟩
    · exact ⟨rfl, rfl⟩
    · obtain ⟨next, hnode⟩ := sendAll_node config { node with core := core } events
      dsimp only
      rw [hnode]
      exact ⟨rfl, rfl⟩
  | allocateTransferId => exact .inl ⟨rfl, rfl⟩
  | expire now => exact .inl ⟨rfl, rfl⟩
  | clearSession sessionId => exact .inr (.inl ⟨sessionId, rfl, rfl, rfl⟩)
  | outside gpioBsp uartBsp motion => exact .inl ⟨rfl, rfl⟩

/-! ## The log of the requests that have been executed -/

/-- A response to a request: the session, the ID and the command say which one. -/
structure Answers (request response : Packet) : Prop where
  /-- A response is marked as one. -/
  messageType : response.header.messageType = .response
  /-- A response carries the session of its request. -/
  sessionId : response.header.sessionId = request.header.sessionId
  /-- A response carries the ID of its request. -/
  requestId : response.header.requestId = request.header.requestId
  /-- The command. Only a discovery is answered with another one. -/
  command : response.header.command =
    if request.header.command = Command.discoveryRequest then Command.discoveryResponse
    else request.header.command

/-- What the core replies has a header of `make_response`, but for the object. -/
theorem header_handle {core : RemoteCore} {response : Packet} {now : ℤ}
    (hreply : (core.handle config.board request now).1 = .ok response) :
    ∃ status objectId, response.header =
      { (makeResponse request status).header with objectId := objectId } := by
  have hreplies : RemoteCore.Replies request (core.handle config.board request now).1 :=
    RemoteCore.handle_replies now
  rcases Bool.eq_false_or_eq_true (Command.createsObject request.header.command) with hcreates |
    hcreates
  · rcases hreplies.creates hcreates response hreply with ⟨status, -, hheader⟩ |
      ⟨objectId, -, -, hheader⟩
    · exact ⟨status, _, hheader⟩
    · exact ⟨.ok, objectId, hheader⟩
  · obtain ⟨status, hheader⟩ := hreplies.echoes hcreates response hreply
    exact ⟨status, _, hheader⟩

/-- What the core replies answers the request. -/
theorem answers_handle {core : RemoteCore} {response : Packet} {now : ℤ}
    (hreply : (core.handle config.board request now).1 = .ok response)
    (hcommand : request.header.command ≠ Command.discoveryRequest) :
    Answers request response := by
  obtain ⟨status, objectId, hheader⟩ := header_handle hreply
  refine ⟨?_, ?_, ?_, ?_⟩
  · rw [hheader]
    rfl
  · rw [hheader]
    rfl
  · rw [hheader]
    rfl
  · rw [hheader, if_neg hcommand]
    rfl

/-- What the node replies answers the request. -/
theorem answers_execute {now : ℤ} {response : Packet}
    (h : (node.execute config request now).1 = .ok (some response)) :
    Answers request response := by
  unfold execute at h
  by_cases hdiscovery : request.header.command = Command.discoveryRequest
  · rw [if_pos hdiscovery] at h
    unfold discoveryResponse at h
    dsimp only at h
    split at h
    · exact nomatch h
    · split at h
      · exact nomatch Except.ok.inj h
      · obtain rfl := Option.some.inj (Except.ok.inj h)
        exact ⟨rfl, rfl, rfl, (if_pos hdiscovery).symm⟩
  · rw [if_neg hdiscovery] at h
    by_cases hassign : request.header.command = Command.nodeAssign
    · rw [if_pos hassign] at h
      unfold assignmentResponse at h
      split at h
      · exact nomatch h
      · split at h
        · exact nomatch Except.ok.inj h
        · obtain rfl := Option.some.inj (Except.ok.inj h)
          exact ⟨rfl, rfl, rfl, (if_neg hdiscovery).symm⟩
    · rw [if_neg hassign] at h
      rcases hhandle : node.core.handle config.board request now with ⟨_ | reply, core⟩
      · rw [hhandle] at h
        exact nomatch h
      · rw [hhandle] at h
        obtain rfl := Option.some.inj (Except.ok.inj h)
        have hreply : (node.core.handle config.board request now).1 = .ok reply := by rw [hhandle]
        exact answers_handle hreply hdiscovery

/-- An entry of the log: the response to a request, under the key of the request. -/
def SoundEntry (entry : UInt64 × CachedRequest) : Prop :=
  entry.1 = keyOf entry.2.request ∧
    ∃ response, encode response = .ok entry.2.encodedResponse ∧ Answers entry.2.request response

/-- The cache of a node is that of a log of executed requests. -/
structure Logged (config : NodeConfig) (node : MockNode)
    (log : List (UInt64 × CachedRequest)) : Prop where
  /-- The map and the order of the keys are those of the log. -/
  represents : node.cache.Represents log
  /-- There is room for the log. -/
  length_le : log.length ≤ config.maximumCachedRequests
  /-- Each response is under the key of its request. -/
  sound : ∀ entry ∈ log, SoundEntry entry

variable {log : List (UInt64 × CachedRequest)}

/-- What leaves the cache alone keeps the log. -/
theorem Logged.same {node' : MockNode} (h : Logged config node log)
    (hsame : node'.cache = node.cache) : Logged config node' log :=
  ⟨hsame ▸ h.represents, h.length_le, h.sound⟩

/-- The end of a session filters the log. -/
theorem Logged.erase {node' : MockNode} (h : Logged config node log) (sessionId : UInt32)
    (hcache : node'.cache = node.cache.eraseIf (ofSession sessionId)) :
    Logged config node' (log.filter fun entry => !ofSession sessionId entry.1) := by
  refine ⟨?_, ?_, fun entry hentry => h.sound entry (List.mem_of_mem_filter hentry)⟩
  · rw [hcache]
    exact h.represents.eraseIf _
  · exact (List.length_filter_le _ log).trans h.length_le

/-- The execution of a request appends to the log. -/
theorem Logged.insert {node' : MockNode} {op : NodeOp} (h : Logged config node log)
    (hexecutes : Executes config node op request encoded)
    (hcache : node'.cache =
      node.cache.insert config.maximumCachedRequests (keyOf request) ⟨request, encoded⟩) :
    Logged config node' (FifoCache.room config.maximumCachedRequests log ++
      [(keyOf request, ⟨request, encoded⟩)]) := by
  obtain ⟨streamId, frame, now, -, -, hexecuted⟩ := hexecutes
  rw [receive_node] at hexecuted
  obtain ⟨response, hresponse, hencode⟩ := hexecuted.response
  refine ⟨?_, ?_, fun entry hentry => ?_⟩
  · rw [hcache]
    exact h.represents.insert hexecuted.fresh
  · have hroom := FifoCache.length_room_lt config.capacity_pos h.length_le
    rw [List.length_append, List.length_singleton]
    omega
  · rcases List.mem_append.1 hentry with hold | hnew
    · exact h.sound entry (FifoCache.mem_of_mem_room hold)
    · obtain rfl := List.mem_singleton.1 hnew
      exact ⟨rfl, response, hencode, answers_execute hresponse⟩

/-- A log of executed requests describes the node through every operation. -/
theorem Logged.step (h : Logged config node log) (op : NodeOp) :
    ∃ log', Logged config ((nodeMachine config).step node op).1 log' := by
  rcases cache_step config node op with hsame | ⟨sessionId, -, hcache, -⟩ |
    ⟨request, encoded, hexecutes, hcache, -⟩
  · exact ⟨log, h.same hsame.1⟩
  · exact ⟨_, h.erase sessionId hcache⟩
  · exact ⟨_, h.insert hexecutes hcache⟩

/-- In every run the cache is that of a log of executed requests: no key is there twice, there are
no more than there is room for, and each is the response to the request whose key it has. -/
theorem response_cache_sound (config : NodeConfig) (core : RemoteCore) (nodeId : UInt32)
    (ops : List NodeOp) :
    ∃ log, Logged config ((nodeMachine config).run (create config core nodeId) ops) log :=
  (nodeMachine config).run_induction (P := fun node => ∃ log, Logged config node log)
    (fun _ op ⟨_, hlog⟩ => hlog.step op)
    ⟨[], FifoCache.represents_empty, Nat.zero_le _, fun _ hentry => nomatch hentry⟩ ops

/-! ## A request that comes again -/

/-- The number of requests that a run executes, as the node counts them. -/
def executions (config : NodeConfig) (node : MockNode) : List NodeOp → ℕ
  | [] => 0
  | op :: ops =>
    let next := ((nodeMachine config).step node op).1
    (if next.executedRequestCount = node.executedRequestCount then 0 else 1) +
      executions config next ops

/-- A count that has grown is another one, even if it has wrapped. -/
theorem count_add_one_ne (count : UInt64) : count + 1 ≠ count := by
  intro h
  have hnat := congrArg UInt64.toNat h
  rw [UInt64.toNat_add] at hnat
  have hlt := count.toNat_lt
  have hone : (1 : UInt64).toNat = 1 := rfl
  omega

/-- A key belongs to the session of its request. -/
theorem ofSession_keyOf {sessionId : UInt32} (h : request.header.sessionId ≠ sessionId) :
    ofSession sessionId (keyOf request) = false := by
  have hsession : (keyOf request >>> 32).toUInt32 = request.header.sessionId :=
    RequestManager.toUInt32_key request.header.sessionId request.header.requestId
  unfold ofSession
  rw [hsession, decide_eq_false_iff_not]
  exact h

/-- A response stays in the log while its session does not end and there is room. -/
theorem Logged.recent {entry : UInt64 × CachedRequest} {count : ℕ} {ops : List NodeOp}
    (h : Logged config node log) (hrecent : FifoCache.Recent log entry count)
    (hsession : .clearSession entry.2.request.header.sessionId ∉ ops)
    (hroom : count + executions config node ops < config.maximumCachedRequests) :
    ∃ log' count', Logged config ((nodeMachine config).run node ops) log' ∧
      FifoCache.Recent log' entry count' := by
  induction ops generalizing node log count with
  | nil => exact ⟨log, count, h, hrecent⟩
  | cons op ops ih =>
    have hrest : .clearSession entry.2.request.header.sessionId ∉ ops :=
      fun hmem => hsession (List.mem_cons_of_mem _ hmem)
    unfold executions at hroom
    dsimp only at hroom
    rcases cache_step config node op with hsame |
      ⟨sessionId, hop, hcache, hcount⟩ | ⟨request, encoded, hexecutes, hcache, hcount⟩
    · rw [if_pos hsame.2, Nat.zero_add] at hroom
      exact ih (h.same hsame.1) hrecent hrest hroom
    · rw [if_pos hcount, Nat.zero_add] at hroom
      -- The session that ends is another one.
      have hother : entry.2.request.header.sessionId ≠ sessionId := by
        rintro rfl
        exact hsession (hop ▸ List.mem_cons_self)
      have hkeeps : ofSession sessionId entry.1 = false := by
        rw [(h.sound entry hrecent.mem).1]
        exact ofSession_keyOf hother
      exact ih (h.erase sessionId hcache) (hrecent.eraseIf hkeeps) hrest hroom
    · have hnew : ((nodeMachine config).step node op).1.executedRequestCount ≠
          node.executedRequestCount := by
        rw [hcount]
        exact count_add_one_ne _
      rw [if_neg hnew] at hroom
      exact ih (h.insert hexecutes hcache) (hrecent.insert (by omega) _) hrest (by omega)

/-- A request that has been executed is answered from the cache, in every state that a run reaches
in which its session has not ended and fewer requests have been executed since than there is room
for. The same request gets the response it got; another request with its session and ID is
refused. -/
theorem executed_request_replayed (config : NodeConfig) (core : RemoteCore) (nodeId : UInt32)
    (before after : List NodeOp) (op : NodeOp) (request : Packet) (encoded : List UInt8) :
    let executing := (nodeMachine config).run (create config core nodeId) before
    let executed := ((nodeMachine config).step executing op).1
    let node := (nodeMachine config).run executed after
    Executes config executing op request encoded →
      .clearSession request.header.sessionId ∉ after →
      executions config executed after < config.maximumCachedRequests →
      ∀ streamId frame now again received,
        node.receive config streamId frame now = (.ok (some again), received) →
        keyOf again = keyOf request →
        node.handleFrame config streamId frame now =
          if sameRequest request again then
            let counted := { received with
              cachedResponseCount := received.cachedResponseCount + 1 }
            ((counted.reply config encoded).1.map some, counted.allocateTransferId.2)
          else
            (.error (.node ⟨.conflictingDuplicateRequest,
              "相同会话 ID 和请求 ID 对应了不同请求内容"⟩), received) := by
  intro executing executed node hexecutes hsession hroom streamId frame now again received
    hreceive hkey
  obtain ⟨log, hlog⟩ := response_cache_sound config core nodeId before
  -- The insertion of the response.
  obtain ⟨log', hlog', hrecent⟩ : ∃ log', Logged config executed log' ∧
      FifoCache.Recent log' (keyOf request, ⟨request, encoded⟩) 0 := by
    have hinserted := insert_of_executes hexecutes
    exact ⟨_, hlog.insert hexecutes hinserted.1, FifoCache.recent_insert _ _⟩
  obtain ⟨last, count, hlast, hstays⟩ := hlog'.recent hrecent hsession (by omega)
  -- Less than a full cache of insertions later, the entry is still there.
  have hlookup : node.cache.lookup (keyOf again) = some ⟨request, encoded⟩ := by
    rw [hkey]
    exact (hlast.represents.lookup _ _).2 hstays.mem
  have hfound : received.cache.lookup (keyOf again) = some ⟨request, encoded⟩ := by
    have hnode := receive_node config node streamId frame now
    rw [hreceive] at hnode
    rw [show received = _ from hnode]
    exact hlookup
  unfold handleFrame
  rw [hreceive]
  dsimp only
  unfold processRequest
  rw [hfound]
  dsimp only
  unfold replay
  dsimp only
  -- The same request is answered from it, and another one is refused.
  by_cases hsame : sameRequest request again = true
  · rw [if_neg (not_not.2 hsame), if_pos hsame, reply_node]
  · rw [if_pos hsame, if_neg hsame]

/-- A request is the same as itself. -/
theorem sameRequest_self (request : Packet) : sameRequest request request = true := by
  unfold sameRequest
  simp

/-- A board on which nothing can be asked for but the node itself. -/
def bareBoard : Board where
  nodeInfo := .unnamed
  capabilities := 0
  resources := []
  contracts := []
  version_ok := NodeInfo.version_unnamed
  resources_ok := by decide
  contracts_ok := by decide

/-- A node on CAN FD that keeps two responses. -/
def bareConfig : NodeConfig := ⟨bareBoard, 64, 500000000, 2, by decide, by decide, by decide⟩

/-- A PING with one byte of payload. -/
def pingRequest : Packet where
  header := { command := Command.ping, sessionId := 1, requestId := 7 }
  payload := [42]

/-- The response to the PING, which returns its byte behind the status. -/
def pingResponse : Packet := respond pingRequest [42]

/-- The frame of the ping in a transfer. -/
def pingFrame (transferId : UInt16) : List UInt8 :=
  (Fragment.mk transferId 0 (kFragmentFirst ||| kFragmentLast)
    (packetBytes (pingRequest.header.withLength [42]) [42])).frame

/-- The node behind the first ping. -/
def pingedNode : MockNode :=
  let unused := (nodeMachine bareConfig).run (create bareConfig {} 0) []
  (nodeMachine bareConfig).run
    ((nodeMachine bareConfig).step unused (.handleFrame 5 (pingFrame 1) 0)).1 []

/-- The first PING under a key is executed. -/
theorem pinged_executes : Executes bareConfig ((nodeMachine bareConfig).run
    (create bareConfig {} 0) []) (.handleFrame 5 (pingFrame 1) 0) pingRequest.sealed
    (packetBytes (pingResponse.header.withLength [0, 42]) [0, 42]) :=
  ⟨5, pingFrame 1, 0, rfl, by decide +kernel, ⟨by decide +kernel, pingResponse, by decide +kernel,
    by decide +kernel⟩⟩

/-- A ping that comes again in another transfer is answered with the response to the first one. -/
theorem executed_request_replayed_ping :
    pingedNode.handleFrame bareConfig 5 (pingFrame 2) 1 =
      let received := (pingedNode.receive bareConfig 5 (pingFrame 2) 1).2
      let counted := { received with cachedResponseCount := received.cachedResponseCount + 1 }
      ((counted.reply bareConfig (packetBytes (pingResponse.header.withLength [0, 42])
        [0, 42])).1.map some, counted.allocateTransferId.2) := by
  have hagain : (pingedNode.receive bareConfig 5 (pingFrame 2) 1).1 =
      .ok (some pingRequest.sealed) := by decide +kernel
  have hreceive : pingedNode.receive bareConfig 5 (pingFrame 2) 1 =
      (.ok (some pingRequest.sealed), (pingedNode.receive bareConfig 5 (pingFrame 2) 1).2) := by
    rw [← hagain]
  have hreplayed := executed_request_replayed bareConfig {} 0 [] [] (.handleFrame 5 (pingFrame 1) 0)
    pingRequest.sealed (packetBytes (pingResponse.header.withLength [0, 42]) [0, 42])
    pinged_executes List.not_mem_nil Nat.two_pos 5 (pingFrame 2) 1 pingRequest.sealed
    (pingedNode.receive bareConfig 5 (pingFrame 2) 1).2 hreceive rfl
  rw [if_pos (sameRequest_self _)] at hreplayed
  exact hreplayed

end MockNode

end RemoteBSP.MockMcu
