import RemoteBSP.Protocol.PayloadCodecs
import RemoteBSP.Toolbusd.Ipc

/-!
# The codecs of the local messages

What a client writes as a request is read by the daemon as this request, and the daemon reads
nothing else (`IpcCall.read_write`, `IpcCall.write_of_read`). The responses are read back as they
were written. In the other direction there is an exception: `decode_ipc_node_list` takes lists of up
to 255 nodes, and `encode_ipc_node_list` of up to 127 (`long_node_list_not_encoded`).
-/

namespace RemoteBSP.Toolbusd

/-! ## Bodies -/

/-- `send_body` sends the length and then the body, unless the body is too long. -/
theorem sendBody_eq_ok_iff {body sent : List UInt8} : sendBody body = .ok sent ↔
    body.length ≤ kMaximumIpcBodySize ∧ putU32 (UInt32.ofNat body.length) ++ body = sent := by
  unfold sendBody
  split_ifs with hlong
  · exact ⟨nofun, fun h => absurd h.1 (not_le.2 hlong)⟩
  · exact ⟨fun h => ⟨not_lt.1 hlong, Except.ok.inj h⟩, fun h => congrArg Except.ok h.2⟩

/-- `receive_all` cuts the bytes in two. -/
theorem receiveAll_eq_ok_iff {socket part rest : List UInt8} {size : ℕ} :
    receiveAll socket size = .ok (part, rest) ↔ part.length = size ∧ socket = part ++ rest := by
  unfold receiveAll
  split_ifs with hshort
  · refine ⟨nofun, fun ⟨hpart, hsocket⟩ => ?_⟩
    rw [hsocket, List.length_append] at hshort
    omega
  · constructor
    · intro h
      obtain ⟨rfl, rfl⟩ := Prod.mk.inj (Except.ok.inj h)
      rw [List.length_take, List.take_append_drop]
      exact ⟨by omega, rfl⟩
    · rintro ⟨rfl, rfl⟩
      rw [List.take_left, List.drop_left]

/-- `receive_body` reads what `send_body` has sent, and nothing else. -/
theorem receiveBody_eq_ok_iff {socket body rest : List UInt8} :
    receiveBody socket = .ok (body, rest) ↔
      ∃ sent, sendBody body = .ok sent ∧ socket = sent ++ rest := by
  have hmaximum : kMaximumIpcBodySize < 2^32 := by decide
  unfold receiveBody
  simp only [bind, Except.bind, throw, throwThe, MonadExceptOf.throw]
  constructor
  · intro h
    cases hlength : receiveAll socket 4 with
    | error e =>
      rw [hlength] at h
      cases h
    | ok first =>
      obtain ⟨lengthBytes, socket'⟩ := first
      rw [hlength] at h
      dsimp only at h
      obtain ⟨hfour, rfl⟩ := receiveAll_eq_ok_iff.1 hlength
      split_ifs at h with hlong
      obtain ⟨hbody, rfl⟩ := receiveAll_eq_ok_iff.1 h
      refine ⟨_, sendBody_eq_ok_iff.2 ⟨by omega, rfl⟩, ?_⟩
      rw [hbody, UInt32.ofNat_toNat, putU32_getU32_zero hfour.ge, List.take_of_length_le hfour.le,
        List.append_assoc]
  · rintro ⟨sent, hsent, rfl⟩
    obtain ⟨hlong, rfl⟩ := sendBody_eq_ok_iff.1 hsent
    have hlength := UInt32.toNat_ofNat_of_lt' (lt_of_le_of_lt hlong hmaximum)
    have hfirst : receiveAll (putU32 (UInt32.ofNat body.length) ++ body ++ rest) 4 =
        .ok (putU32 (UInt32.ofNat body.length), body ++ rest) :=
      receiveAll_eq_ok_iff.2 ⟨rfl, List.append_assoc _ _ _⟩
    rw [hfirst]
    dsimp only
    rw [getU32_putU32, hlength, if_neg (not_lt.2 hlong)]
    exact receiveAll_eq_ok_iff.2 ⟨rfl, rfl⟩

/-! ## Requests -/

/-- The number of a kind stands for it. -/
@[simp]
theorem IpcRequestKind.ofValue_value (kind : IpcRequestKind) : ofValue kind.value = some kind := by
  cases kind <;> decide

/-- A number that stands for a kind is its number. -/
theorem IpcRequestKind.value_of_ofValue {value : UInt8} {kind : IpcRequestKind}
    (h : ofValue value = some kind) : kind.value = value := by
  unfold ofValue at h
  split_ifs at h <;> (subst_vars; obtain rfl := Option.some.inj h; rfl)

/-- A call of one of the functions that write a request. -/
inductive IpcCall
  /-- `write_ipc_request`, for a packet to a node. -/
  | remotePacket (packet : Packet) (nodeId : UInt32)
  /-- `write_ipc_node_list_request`, for the table of nodes. -/
  | listNodes
  /-- `write_ipc_next_event_request`, for the next event of a node. -/
  | nextEvent (nodeId : UInt32)
  /-- `write_ipc_traffic_status_request`, for the counters of the bus. -/
  | trafficStatus
  /-- `write_ipc_uart_stream_read_request`, for the bytes of a stream. -/
  | uartStreamRead (nodeId objectId maximumLength timeoutMs : UInt32)

namespace IpcCall

/-- What the function behind a call sends to the daemon. -/
def write : IpcCall → Except IpcError (List UInt8)
  | remotePacket packet nodeId => writeIpcRequest packet nodeId
  | listNodes => writeIpcNodeListRequest
  | nextEvent nodeId => writeIpcNextEventRequest nodeId
  | trafficStatus => writeIpcTrafficStatusRequest
  | uartStreamRead nodeId objectId maximumLength timeoutMs =>
    writeIpcUartStreamReadRequest nodeId objectId maximumLength timeoutMs

/-- The request that the call is meant to submit. A packet gets its length and its checksum when it
is encoded. -/
def request : IpcCall → IpcRequest
  | remotePacket packet nodeId =>
    { kind := .remotePacket, nodeId := nodeId, packet := packet.sealed }
  | listNodes => { kind := .listNodes }
  | nextEvent nodeId => { kind := .nextEvent, nodeId := nodeId }
  | trafficStatus => { kind := .trafficStatus }
  | uartStreamRead nodeId objectId maximumLength timeoutMs => {
      kind := .uartStreamRead
      nodeId := nodeId
      objectId := objectId
      maximumLength := maximumLength
      timeoutMs := timeoutMs }

/-- The body that the function sends. -/
def body : IpcCall → List UInt8
  | remotePacket packet nodeId => [IpcRequestKind.remotePacket.value] ++ putU32 nodeId ++
      packetBytes (packet.header.withLength packet.payload) packet.payload
  | listNodes => [IpcRequestKind.listNodes.value]
  | nextEvent nodeId => [IpcRequestKind.nextEvent.value] ++ putU32 nodeId
  | trafficStatus => [IpcRequestKind.trafficStatus.value]
  | uartStreamRead nodeId objectId maximumLength timeoutMs =>
    [IpcRequestKind.uartStreamRead.value] ++ putU32 nodeId ++ putU32 objectId ++
      putU32 maximumLength ++ putU32 timeoutMs

/-- The calls whose arguments are accepted. -/
def Valid : IpcCall → Prop
  | remotePacket packet nodeId => ¬invalidNodeId nodeId ∧ packet.Encodable
  | listNodes => True
  | nextEvent nodeId => ¬invalidNodeId nodeId
  | trafficStatus => True
  | uartStreamRead nodeId objectId maximumLength timeoutMs =>
    ¬invalidStreamRead nodeId objectId maximumLength timeoutMs

/-- A function that takes its arguments sends its body. -/
theorem write_eq_ok_iff {call : IpcCall} {sent : List UInt8} :
    call.write = .ok sent ↔ call.Valid ∧ sendBody call.body = .ok sent := by
  cases call with
  | remotePacket packet nodeId =>
    unfold write writeIpcRequest Valid body
    simp only [bind, Except.bind, throw, throwThe, MonadExceptOf.throw]
    split_ifs with hnode
    · exact ⟨nofun, fun h => absurd hnode h.1.1⟩
    cases hencode : encode packet with
    | error e =>
      refine ⟨nofun, fun h => ?_⟩
      have hok := encode_eq_ok_iff.2 ⟨h.1.2, rfl⟩
      rw [hencode] at hok
      cases hok
    | ok encoded =>
      obtain ⟨hencodable, rfl⟩ := encode_eq_ok_iff.1 hencode
      exact ⟨fun h => ⟨⟨hnode, hencodable⟩, h⟩, fun h => h.2⟩
  | listNodes => exact ⟨fun h => ⟨trivial, h⟩, fun h => h.2⟩
  | nextEvent nodeId =>
    dsimp only [write, writeIpcNextEventRequest, Valid, body]
    split_ifs with hnode
    · exact ⟨nofun, fun h => absurd hnode h.1⟩
    · exact ⟨fun h => ⟨hnode, h⟩, fun h => h.2⟩
  | trafficStatus => exact ⟨fun h => ⟨trivial, h⟩, fun h => h.2⟩
  | uartStreamRead nodeId objectId maximumLength timeoutMs =>
    dsimp only [write, writeIpcUartStreamReadRequest, Valid, body]
    split_ifs with hread
    · exact ⟨nofun, fun h => absurd hread h.1⟩
    · exact ⟨fun h => ⟨hread, h⟩, fun h => h.2⟩

/-- `read_ipc_request` reads the body of a call as its request. -/
theorem parse_body {call : IpcCall} (h : call.Valid) :
    parseIpcRequest call.body = .ok call.request := by
  cases call with
  | remotePacket packet nodeId =>
    obtain ⟨hnode, hencodable⟩ := h
    have hdecode : decode (packetBytes (packet.header.withLength packet.payload) packet.payload) =
        .ok packet.sealed :=
      packet_codec_bijective.2.1 packet _ (encode_eq_ok_iff.2 ⟨hencodable, rfl⟩)
    have hrest : (body (.remotePacket packet nodeId)).drop 5 =
        packetBytes (packet.header.withLength packet.payload) packet.payload := rfl
    have hlength : ¬(body (.remotePacket packet nodeId)).length < 5 := by
      simp [body]
    have hkind : IpcRequestKind.ofValue (byteAt (body (.remotePacket packet nodeId)) 0) =
        some .remotePacket := rfl
    have hread : getU32 (body (.remotePacket packet nodeId)) 1 = nodeId := by
      simp [body]
    rw [parseIpcRequest, if_neg (by omega), hkind]
    dsimp only
    rw [if_neg hlength, hread, if_neg hnode, hrest, hdecode]
    rfl
  | listNodes => rfl
  | nextEvent nodeId =>
    have hnode : ¬invalidNodeId nodeId := h
    simp [parseIpcRequest, body, request, hnode]
  | trafficStatus => rfl
  | uartStreamRead nodeId objectId maximumLength timeoutMs =>
    have hread : ¬invalidStreamRead nodeId objectId maximumLength timeoutMs := h
    simp [parseIpcRequest, body, request, hread]

/-- A body that `read_ipc_request` accepts is the body of a call, and is read as its request. -/
theorem body_of_parse {b : List UInt8} {read : IpcRequest} (h : parseIpcRequest b = .ok read) :
    ∃ call : IpcCall, call.Valid ∧ call.body = b ∧ call.request = read := by
  unfold parseIpcRequest at h
  by_cases hempty : b.length = 0
  · rw [if_pos hempty] at h
    cases h
  rw [if_neg hempty] at h
  -- The first byte tells the kind.
  have hfirst : ∀ kind, IpcRequestKind.ofValue (byteAt b 0) = some kind →
      [kind.value] = b.take 1 := by
    intro kind hkind
    rw [IpcRequestKind.value_of_ofValue hkind]
    exact take_append_byte (i := 0) (by omega)
  cases hkind : IpcRequestKind.ofValue (byteAt b 0) with
  | none =>
    rw [hkind] at h
    cases h
  | some kind =>
    have hvalue := hfirst kind hkind
    rw [hkind] at h
    cases kind with
    -- A packet is read behind the node ID by its own codec.
    | remotePacket =>
      dsimp only at h
      split_ifs at h with hlength hnode
      cases hdecode : decode (b.drop 5) with
      | error e =>
        rw [hdecode] at h
        cases h
      | ok packet =>
        rw [hdecode] at h
        obtain rfl := Except.ok.inj h
        obtain ⟨hencodable, hsealed, hbytes⟩ := decode_eq_ok_iff.1 hdecode
        have hencode := packet_codec_bijective.2.2.1 _ _ hdecode
        obtain ⟨-, hwritten⟩ := encode_eq_ok_iff.1 hencode
        refine ⟨.remotePacket packet (getU32 b 1), ⟨hnode, hencodable⟩, ?_, ?_⟩
        · rw [body, ← hwritten, hvalue]
          simp (disch := omega) only [take_append_putU32, Nat.reduceAdd, List.take_append_drop]
        · rw [request, hsealed]
    -- The other kinds have a body of fixed length, which is used up by their fields.
    | listNodes =>
      dsimp only at h
      split_ifs at h with hlength
      obtain rfl := Except.ok.inj h
      exact ⟨.listNodes, trivial, hvalue.trans (List.take_of_length_le (by omega)), rfl⟩
    | nextEvent =>
      dsimp only at h
      split_ifs at h with hlength hnode
      obtain rfl := Except.ok.inj h
      refine ⟨.nextEvent (getU32 b 1), hnode, ?_, rfl⟩
      rw [body, hvalue, take_append_putU32 (by omega)]
      exact List.take_of_length_le (by omega)
    | trafficStatus =>
      dsimp only at h
      split_ifs at h with hlength
      obtain rfl := Except.ok.inj h
      exact ⟨.trafficStatus, trivial, hvalue.trans (List.take_of_length_le (by omega)), rfl⟩
    | uartStreamRead =>
      dsimp only at h
      split_ifs at h with hlength hread
      obtain rfl := Except.ok.inj h
      refine ⟨.uartStreamRead (getU32 b 1) (getU32 b 5) (getU32 b 9) (getU32 b 13), hread, ?_, rfl⟩
      rw [body, hvalue]
      simp (disch := omega) only [take_append_putU32, Nat.reduceAdd]
      exact List.take_of_length_le (by omega)

/-- The daemon reads what a client has written, as the request that was meant. -/
theorem read_write {call : IpcCall} {sent : List UInt8} (h : call.write = .ok sent)
    (rest : List UInt8) : readIpcRequest (sent ++ rest) = .ok (call.request, rest) := by
  obtain ⟨hvalid, hsent⟩ := write_eq_ok_iff.1 h
  have hreceive : receiveBody (sent ++ rest) = .ok (call.body, rest) :=
    receiveBody_eq_ok_iff.2 ⟨sent, hsent, rfl⟩
  rw [readIpcRequest, hreceive]
  simp only [bind, Except.bind, parse_body hvalid]
  rfl

/-- The daemon reads nothing but what a client has written. -/
theorem write_of_read {socket rest : List UInt8} {read : IpcRequest}
    (h : readIpcRequest socket = .ok (read, rest)) :
    ∃ call sent, write call = .ok sent ∧ socket = sent ++ rest ∧ call.request = read := by
  unfold readIpcRequest at h
  simp only [bind, Except.bind] at h
  cases hreceive : receiveBody socket with
  | error e =>
    rw [hreceive] at h
    cases h
  | ok received =>
    obtain ⟨b, rest'⟩ := received
    rw [hreceive] at h
    dsimp only at h
    cases hparse : parseIpcRequest b with
    | error e =>
      rw [hparse] at h
      cases h
    | ok parsed =>
      rw [hparse] at h
      obtain ⟨rfl, rfl⟩ := Prod.mk.inj (Except.ok.inj h)
      obtain ⟨sent, hsent, rfl⟩ := receiveBody_eq_ok_iff.1 hreceive
      obtain ⟨call, hvalid, rfl, hrequest⟩ := body_of_parse hparse
      exact ⟨call, sent, write_eq_ok_iff.2 ⟨hvalid, hsent⟩, rfl, hrequest⟩

end IpcCall

/-! ## Responses -/

/-- A stream chunk is read as it was written. -/
theorem decodeIpcUartStreamChunk_encode {b : List UInt8} {chunk : UartStreamChunk}
    (h : encodeIpcUartStreamChunk chunk = .ok b) : decodeIpcUartStreamChunk b = .ok chunk := by
  unfold encodeIpcUartStreamChunk at h
  split_ifs at h with hlong
  obtain rfl := Except.ok.inj h
  have hdata : (putU16 1 ++ putU16 0 ++ putU64 chunk.droppedBytes ++ putU64 chunk.lostEvents ++
      chunk.data).drop 20 = chunk.data := rfl
  rw [decodeIpcUartStreamChunk, hdata, if_neg]
  · simp
  · simp
    omega

/-- A stream chunk that has been received is written as it was read. -/
theorem encodeIpcUartStreamChunk_of_decode {b : List UInt8} {chunk : UartStreamChunk}
    (h : decodeIpcUartStreamChunk b = .ok chunk) (hlength : b.length ≤ kMaximumIpcBodySize) :
    encodeIpcUartStreamChunk chunk = .ok b := by
  unfold decodeIpcUartStreamChunk at h
  split_ifs at h with hbad
  obtain rfl := Except.ok.inj h
  obtain ⟨hshort, hversion, hreserved⟩ : ¬b.length < 20 ∧ getU16 b 0 = 1 ∧ getU16 b 2 = 0 := by
    simpa only [not_or, not_not] using hbad
  unfold encodeIpcUartStreamChunk
  dsimp only
  rw [List.length_drop, if_neg (by omega), ← hversion, ← hreserved, putU16_getU16_zero (by omega)]
  simp (disch := omega) only [take_append_putU16, take_append_putU64, Nat.reduceAdd,
    List.take_append_drop]

/-- The length of a node's record. -/
theorem length_encodeIpcNodeInfo (node : IpcNodeInfo) :
    (encodeIpcNodeInfo node).length = kNodeInfoSize := by
  simp [encodeIpcNodeInfo, node.uuid.length_bytes, kNodeInfoSize]

/-- A flag is written as zero or one. -/
theorem toUInt8_flag (flag : Bool) : ¬flag.toUInt8 > 1 ∧ decide (flag.toUInt8 ≠ 0) = flag := by
  cases flag <;> decide

/-- A byte that is zero or one is a flag. -/
theorem toUInt8_of_le {b : UInt8} (h : ¬b > 1) : (decide (b ≠ 0)).toUInt8 = b := by
  have hle : b.toNat ≤ 1 := UInt8.le_iff_toNat_le.1 (UInt8.not_lt.1 h)
  have hcases : b = 0 ∨ b = 1 := by
    rw [← UInt8.toNat_inj, ← UInt8.toNat_inj]
    have hone : (1 : UInt8).toNat = 1 := rfl
    have hzero : (0 : UInt8).toNat = 0 := rfl
    omega
  rcases hcases with rfl | rfl <;> decide

/-- A node's record is read as it was written. -/
theorem decodeIpcNodeInfo_encode (node : IpcNodeInfo) :
    decodeIpcNodeInfo (encodeIpcNodeInfo node) = .ok node := by
  obtain ⟨honline, honline'⟩ := toUInt8_flag node.online
  obtain ⟨hready, hready'⟩ := toUInt8_flag node.ready
  have hflags : byteAt (encodeIpcNodeInfo node) 20 = node.online.toUInt8 ∧
      byteAt (encodeIpcNodeInfo node) 21 = node.ready.toUInt8 := by
    simp [encodeIpcNodeInfo, node.uuid.length_bytes]
  rw [decodeIpcNodeInfo, hflags.1, hflags.2, if_neg (not_or.2 ⟨honline, hready⟩), honline', hready']
  simp [encodeIpcNodeInfo, node.uuid.length_bytes]

/-- A node's record is written as it was read. -/
theorem encodeIpcNodeInfo_of_decode {b : List UInt8} {node : IpcNodeInfo}
    (hlength : b.length = kNodeInfoSize) (h : decodeIpcNodeInfo b = .ok node) :
    encodeIpcNodeInfo node = b := by
  unfold decodeIpcNodeInfo at h
  split_ifs at h with hbad
  obtain rfl := Except.ok.inj h
  obtain ⟨honline, hready⟩ := not_or.1 hbad
  rw [kNodeInfoSize] at hlength
  rw [encodeIpcNodeInfo]
  dsimp only
  rw [toUInt8_of_le honline, toUInt8_of_le hready, NodeUuid.bytes_ofPayload (by omega)]
  have hflags : ∀ xs : List UInt8, xs ++ [byteAt b 20, byteAt b 21] =
      xs ++ [byteAt b 20] ++ [byteAt b 21] := fun xs => (List.append_assoc xs [_] [_]).symm
  rw [hflags]
  simp (disch := omega) only [take_append_byte, take_append_putU16, take_append_putU32,
    Nat.reduceAdd]
  exact List.take_of_length_le hlength.le

/-- What `decode_ipc_node_list` reads is the chunks behind the number of nodes. -/
theorem decodeIpcNodeList_eq_ok_iff {body : List UInt8} {nodes : List IpcNodeInfo} :
    decodeIpcNodeList body = .ok nodes ↔
      (2 ≤ body.length ∧ byteAt body 1 = 0 ∧
        body.length = 2 + (byteAt body 0).toNat * kNodeInfoSize) ∧
      List.Forall₂ (fun index node =>
          decodeIpcNodeInfo ((body.drop 2).chunk kNodeInfoSize index) = .ok node)
        (List.range (byteAt body 0).toNat) nodes := by
  unfold decodeIpcNodeList
  dsimp only
  split_ifs with hbad
  · refine ⟨nofun, fun h => ?_⟩
    obtain ⟨htwo, hzero, hlength⟩ := h.1
    rcases hbad with hshort | hreserved | hother
    · omega
    · exact absurd hzero hreserved
    · exact absurd hlength hother
  · obtain ⟨hshort, hzero, hlength⟩ : ¬body.length < 2 ∧ byteAt body 1 = 0 ∧
        body.length = 2 + (byteAt body 0).toNat * kNodeInfoSize := by
      simpa only [not_or, not_not] using hbad
    rw [List.mapM_ok_iff]
    simp only [List.chunk, List.drop_drop]
    exact ⟨fun h => ⟨⟨not_lt.1 hshort, hzero, hlength⟩, h⟩, fun h => h.2⟩

/-- The bytes of a list of nodes. -/
def nodeListBytes (nodes : List IpcNodeInfo) : List UInt8 :=
  [UInt8.ofNat nodes.length, 0] ++ nodes.flatMap encodeIpcNodeInfo

/-- `decode_ipc_node_list` reads lists whose length is kept in a byte. -/
theorem decodeIpcNodeList_bytes {nodes : List IpcNodeInfo} (h : nodes.length < 2^8) :
    decodeIpcNodeList (nodeListBytes nodes) = .ok nodes := by
  have hcount := UInt8.toNat_ofNat_of_lt' h
  have hfirst : byteAt (nodeListBytes nodes) 0 = UInt8.ofNat nodes.length := rfl
  have hrest : (nodeListBytes nodes).drop 2 = nodes.flatMap encodeIpcNodeInfo := rfl
  have hlength : (nodeListBytes nodes).length = 2 + nodes.length * kNodeInfoSize := by
    rw [nodeListBytes, List.length_append,
      List.length_flatMap_of_length length_encodeIpcNodeInfo]
    rfl
  rw [decodeIpcNodeList_eq_ok_iff, hfirst, hrest, hcount, hlength]
  refine ⟨⟨Nat.le_add_right _ _, rfl, rfl⟩,
    List.forall₂_iff_get.2 ⟨List.length_range, fun k hk hk' => ?_⟩⟩
  simp only [List.get_eq_getElem, List.getElem_range]
  rw [List.chunk_flatMap_of_length length_encodeIpcNodeInfo nodes hk']
  exact decodeIpcNodeInfo_encode _

/-- A list of nodes is written as it was read, if there are not too many of them. -/
theorem encodeIpcNodeList_of_decode {b : List UInt8} {nodes : List IpcNodeInfo}
    (h : decodeIpcNodeList b = .ok nodes) :
    nodes.length = (byteAt b 0).toNat ∧
      encodeIpcNodeList nodes =
        if nodes.length > 127 then .error (.ipc "节点数量超过本地 IPC 范围") else .ok b := by
  obtain ⟨⟨htwo, hzero, hlength⟩, hread⟩ := decodeIpcNodeList_eq_ok_iff.1 h
  have hcount := hread.length_eq
  rw [List.length_range] at hcount
  refine ⟨hcount.symm, ?_⟩
  have hrest : (b.drop 2).length = (byteAt b 0).toNat * kNodeInfoSize := by
    rw [List.length_drop]
    omega
  -- Each record is written as it was read.
  have hwritten : List.Forall₂ Eq
      ((List.range (byteAt b 0).toNat).map ((b.drop 2).chunk kNodeInfoSize))
      (nodes.map encodeIpcNodeInfo) := by
    rw [List.forall₂_map_left_iff, List.forall₂_map_right_iff]
    refine (List.forall₂_iff_get.1 hread).elim fun _ hall => List.forall₂_iff_get.2
      ⟨hcount ▸ List.length_range, fun k hk hk' => ?_⟩
    rw [List.length_range] at hk
    have hfits : (k + 1) * kNodeInfoSize ≤ (byteAt b 0).toNat * kNodeInfoSize :=
      Nat.mul_le_mul_right _ hk
    have hsize : ((b.drop 2).chunk kNodeInfoSize k).length = kNodeInfoSize := by
      rw [List.length_chunk, hrest]
      rw [Nat.succ_mul] at hfits
      omega
    have hone := hall k (by rwa [List.length_range]) hk'
    simp only [List.get_eq_getElem, List.getElem_range] at hone ⊢
    exact (encodeIpcNodeInfo_of_decode hsize hone).symm
  rw [List.forall₂_eq_eq_eq] at hwritten
  -- The count and the zero are the first two bytes.
  have hfirst : [UInt8.ofNat nodes.length, 0] = b.take 2 := by
    rw [← hcount, UInt8.ofNat_toNat, ← hzero]
    exact (take_eq_map_byteAt htwo).symm
  unfold encodeIpcNodeList
  refine if_congr Iff.rfl rfl (congrArg Except.ok ?_)
  rw [hfirst, List.flatMap_def, ← hwritten, ← List.flatMap_def, List.flatMap_chunk_range,
    List.take_of_length_le hrest.le, List.take_append_drop]

/-- The number of a mode stands for it. -/
@[simp]
theorem TrafficBusMode.ofValue_value (mode : TrafficBusMode) : ofValue mode.value = some mode := by
  cases mode <;> decide

/-- A number that stands for a mode is its number. -/
theorem TrafficBusMode.value_of_ofValue {value : UInt8} {mode : TrafficBusMode}
    (h : ofValue value = some mode) : mode.value = value := by
  unfold ofValue at h
  split_ifs at h <;> (subst_vars; obtain rfl := Option.some.inj h; rfl)

/-- The length of the counters of a class. -/
theorem length_encodeTrafficClassCounters (counters : TrafficClassCounters) :
    (encodeTrafficClassCounters counters).length = kTrafficClassCounterSize := by
  simp [encodeTrafficClassCounters, kTrafficClassCounterSize]

/-- The counters of a class are read as they were written. -/
theorem decodeTrafficClassCounters_of_standsAt {b : List UInt8} {input : ℕ}
    {counters : TrafficClassCounters} (h : StandsAt b input (encodeTrafficClassCounters counters)) :
    decodeTrafficClassCounters b input = counters := by
  obtain ⟨admitted, rejected, frames, time⟩ := counters
  have hadmitted := (h.part (show _ = [] ++ putU64 admitted ++
    (putU64 rejected ++ putU64 frames ++ putU64 time) from rfl)).readU64
  have hrejected := (h.part (show _ = putU64 admitted ++ putU64 rejected ++
    (putU64 frames ++ putU64 time) from rfl)).readU64
  have hframes := (h.part (show _ = (putU64 admitted ++ putU64 rejected) ++ putU64 frames ++
    putU64 time from rfl)).readU64
  have htime := (h.part (show _ = (putU64 admitted ++ putU64 rejected ++ putU64 frames) ++
    putU64 time ++ [] from rfl)).readU64
  rw [List.length_nil, Nat.add_zero] at hadmitted
  rw [decodeTrafficClassCounters, hadmitted]
  exact congr (congr (congrArg _ hrejected) hframes) htime

/-- The fields of a snapshot before the counters of the classes. -/
def TrafficSnapshot.header (snapshot : TrafficSnapshot) : List UInt8 :=
  putU16 snapshot.version ++ [snapshot.mode.value, UInt8.ofNat kTrafficClassCount] ++
    putU32 snapshot.arbitrationBitsPerSecond ++ putU32 snapshot.dataBitsPerSecond ++
    putU16 snapshot.maximumUtilizationPermille ++ putU16 0 ++ putU32 snapshot.burstWindowMs ++
    putU64 snapshot.globalCapacityNs ++ putU64 snapshot.globalAvailableNs ++
    putU64 snapshot.admittedPackets ++ putU64 snapshot.rejectedPackets ++
    putU64 snapshot.guaranteedOverruns ++ putU64 snapshot.admittedFrames ++
    putU64 snapshot.estimatedWireTimeNs

/-- The length of the fields before the counters of the classes. -/
theorem TrafficSnapshot.length_header (snapshot : TrafficSnapshot) :
    snapshot.header.length = kTrafficStatusHeaderSize := by
  simp [header, kTrafficStatusHeaderSize]

/-- The fields of a snapshot, and the counters of its classes. -/
def TrafficSnapshot.bytes (snapshot : TrafficSnapshot) : List UInt8 :=
  snapshot.header ++ (List.ofFn snapshot.classes).flatMap encodeTrafficClassCounters

/-- A snapshot of this version is read as it was written. -/
theorem decodeIpcTrafficStatus_bytes {snapshot : TrafficSnapshot}
    (hversion : snapshot.version = kTrafficSnapshotVersion) :
    decodeIpcTrafficStatus snapshot.bytes = .ok snapshot := by
  have hlength : snapshot.bytes.length =
      kTrafficStatusHeaderSize + kTrafficClassCount * kTrafficClassCounterSize := by
    rw [TrafficSnapshot.bytes, List.length_append, snapshot.length_header,
      List.length_flatMap_of_length length_encodeTrafficClassCounters, List.length_ofFn]
  have hclasses : (fun index : Fin kTrafficClassCount => decodeTrafficClassCounters snapshot.bytes
      (kTrafficStatusHeaderSize + index * kTrafficClassCounterSize)) = snapshot.classes := by
    funext index
    have hindex : index.val < (List.ofFn snapshot.classes).length := by simp
    have hstands := standsAt_flatMap length_encodeTrafficClassCounters snapshot.header
      (List.ofFn snapshot.classes) hindex
    rw [snapshot.length_header, List.getElem_ofFn] at hstands
    exact decodeTrafficClassCounters_of_standsAt hstands
  have hchecked : getU16 snapshot.bytes 0 = snapshot.version ∧
      TrafficBusMode.ofValue (byteAt snapshot.bytes 2) = some snapshot.mode ∧
      byteAt snapshot.bytes 3 = UInt8.ofNat kTrafficClassCount ∧ getU16 snapshot.bytes 14 = 0 := by
    simp [TrafficSnapshot.bytes, TrafficSnapshot.header]
  obtain ⟨hfirst, hmode, hcount, hreserved⟩ := hchecked
  rw [decodeIpcTrafficStatus, hmode]
  dsimp only
  rw [if_neg (by simp [hlength, hfirst, hversion, hcount, hreserved]), hclasses, hfirst]
  simp [TrafficSnapshot.bytes, TrafficSnapshot.header]

/-- A snapshot is written as it was read. -/
theorem bytes_of_decodeIpcTrafficStatus {b : List UInt8} {snapshot : TrafficSnapshot}
    (h : decodeIpcTrafficStatus b = .ok snapshot) :
    snapshot.version = kTrafficSnapshotVersion ∧ snapshot.bytes = b := by
  unfold decodeIpcTrafficStatus at h
  dsimp only at h
  cases hmode : TrafficBusMode.ofValue (byteAt b 2) with
  | none =>
    rw [hmode] at h
    cases h
  | some mode =>
    rw [hmode] at h
    dsimp only at h
    split_ifs at h with hbad
    obtain rfl := Except.ok.inj h
    obtain ⟨hlength, hversion, hcount, hreserved⟩ : b.length =
        kTrafficStatusHeaderSize + kTrafficClassCount * kTrafficClassCounterSize ∧
        getU16 b 0 = kTrafficSnapshotVersion ∧ byteAt b 3 = UInt8.ofNat kTrafficClassCount ∧
        getU16 b 14 = 0 := by
      simpa only [not_or, not_not] using hbad
    have hlong : 76 ≤ b.length := hlength ▸ Nat.le_add_right _ _
    refine ⟨hversion, Eq.trans ?_ (eq_records hlength).symm⟩
    have hsplit : ∀ xs : List UInt8, xs ++ [byteAt b 2, byteAt b 3] =
        xs ++ [byteAt b 2] ++ [byteAt b 3] := fun xs => (List.append_assoc xs [_] [_]).symm
    rw [TrafficSnapshot.bytes, TrafficSnapshot.header]
    dsimp only
    rw [TrafficBusMode.value_of_ofValue hmode, ← hcount, ← hreserved, hsplit,
      putU16_getU16_zero (by omega)]
    simp (disch := omega) only [take_append_byte, take_append_putU16, take_append_putU32,
      take_append_putU64, Nat.reduceAdd]
    refine congrArg _ ?_
    -- One record for each class.
    have hrecord : ∀ input, encodeTrafficClassCounters (decodeTrafficClassCounters b input) =
        (List.range kTrafficClassCounterSize).map fun i => byteAt b (input + i) := by
      intro input
      rw [encodeTrafficClassCounters, decodeTrafficClassCounters]
      dsimp only
      rw [putU64_getU64, putU64_getU64, putU64_getU64, putU64_getU64]
      rfl
    have hrange : List.range kTrafficClassCount =
        (List.finRange kTrafficClassCount).map Fin.val := List.map_coe_finRange_eq_range.symm
    rw [List.ofFn_eq_map, List.flatMap_map, hrange, List.flatMap_map]
    exact List.flatMap_congr fun index _ => hrecord _

/-- The codec of snapshots reads what it writes, and nothing else. -/
theorem trafficStatus_codec :
    InverseOn (fun _ => True) encodeIpcTrafficStatus decodeIpcTrafficStatus :=
  .of_guard (fun _ hversion => decodeIpcTrafficStatus_bytes (not_not.1 hversion))
    fun _ _ h => (bytes_of_decodeIpcTrafficStatus h).imp not_not.2 id

/-! ## All messages -/

/-- The requests and the responses are read as they were written, and written again as they were
read, as long as a list has at most 127 nodes and a chunk has been received in one message. Each
chunk that may be asked for can be sent. -/
theorem ipc_codecs_inverse :
    (∀ (call : IpcCall) sent, call.write = .ok sent →
      ∀ rest, readIpcRequest (sent ++ rest) = .ok (call.request, rest)) ∧
    (∀ socket request rest, readIpcRequest socket = .ok (request, rest) →
      ∃ (call : IpcCall) (sent : List UInt8),
        call.write = .ok sent ∧ socket = sent ++ rest ∧ call.request = request) ∧
    (∀ nodes, nodes.length ≤ 127 →
      ∃ b, encodeIpcNodeList nodes = .ok b ∧ decodeIpcNodeList b = .ok nodes) ∧
    (∀ b nodes, decodeIpcNodeList b = .ok nodes → nodes.length ≤ 127 →
      encodeIpcNodeList nodes = .ok b) ∧
    InverseOn (fun _ => True) encodeIpcTrafficStatus decodeIpcTrafficStatus ∧
    (∀ chunk b, encodeIpcUartStreamChunk chunk = .ok b →
      decodeIpcUartStreamChunk b = .ok chunk) ∧
    (∀ b chunk, decodeIpcUartStreamChunk b = .ok chunk → b.length ≤ kMaximumIpcBodySize →
      encodeIpcUartStreamChunk chunk = .ok b) ∧
    ∀ socket request rest (chunk : UartStreamChunk),
      readIpcRequest socket = .ok (request, rest) → request.kind = .uartStreamRead →
      chunk.data.length ≤ request.maximumLength.toNat →
      ∃ b sent, encodeIpcUartStreamChunk chunk = .ok b ∧ sendBody b = .ok sent := by
  refine ⟨fun call sent h => IpcCall.read_write h, fun socket request rest => IpcCall.write_of_read,
    fun nodes hcount => ?_, fun b nodes h hcount => ?_, trafficStatus_codec,
    fun chunk b => decodeIpcUartStreamChunk_encode,
    fun b chunk => encodeIpcUartStreamChunk_of_decode,
    fun socket request rest chunk h hkind hle => ?_⟩
  · have hlt : nodes.length < 2^8 := by omega
    exact ⟨nodeListBytes nodes, if_neg (not_lt.2 hcount), decodeIpcNodeList_bytes hlt⟩
  · rw [(encodeIpcNodeList_of_decode h).2, if_neg (not_lt.2 hcount)]
  · obtain ⟨call, sent, hwrite, -, rfl⟩ := IpcCall.write_of_read h
    obtain ⟨hvalid, -⟩ := IpcCall.write_eq_ok_iff.1 hwrite
    cases call with
    | uartStreamRead nodeId objectId maximumLength timeoutMs =>
      have hread : ¬invalidStreamRead nodeId objectId maximumLength timeoutMs := hvalid
      simp only [invalidStreamRead, not_or] at hread
      have hlength : chunk.data.length ≤ kMaximumIpcBodySize - 20 :=
        hle.trans (not_lt.1 hread.2.2.2.2.1)
      refine ⟨_, _, if_neg (not_lt.2 hlength), sendBody_eq_ok_iff.2 ⟨?_, rfl⟩⟩
      simp only [List.length_append, length_putU16, length_putU64]
      have hmaximum : kMaximumIpcBodySize = 65536 := rfl
      omega
    | remotePacket _ _ => cases hkind
    | listNodes => cases hkind
    | nextEvent _ => cases hkind
    | trafficStatus => cases hkind

/-- The record of a node in the table of nodes. -/
def someNode : IpcNodeInfo :=
  ⟨⟨List.replicate 16 0, NodeUuid.length_zeros⟩, 1, true, true, 1, 0, 0, 7, 1⟩

/-- The longest list, and a request for the longest chunk. -/
theorem ipc_codecs_inverse_at_limits :
    (∃ b, encodeIpcNodeList (List.replicate 127 someNode) = .ok b ∧
      decodeIpcNodeList b = .ok (List.replicate 127 someNode)) ∧
    readIpcRequest [17, 0, 0, 0, 4, 1, 0, 0, 0, 7, 0, 0, 0, 0xEC, 0xFF, 0, 0, 100, 0, 0, 0] =
      .ok (IpcCall.request (.uartStreamRead 1 7 65516 100), []) :=
  ⟨ipc_codecs_inverse.2.2.1 _ (by rw [List.length_replicate]),
    ipc_codecs_inverse.1 (.uartStreamRead 1 7 65516 100) _ rfl []⟩

/-- A list of 128 nodes is read, but cannot be written. -/
theorem long_node_list_not_encoded : ¬∀ b nodes, decodeIpcNodeList b = .ok nodes →
    encodeIpcNodeList nodes = .ok b := by
  intro h
  have hlength : (List.replicate 128 someNode).length = 128 := List.length_replicate
  have hread : decodeIpcNodeList (nodeListBytes (List.replicate 128 someNode)) =
      .ok (List.replicate 128 someNode) := decodeIpcNodeList_bytes (by rw [hlength]; decide)
  have hwritten := h _ _ hread
  rw [encodeIpcNodeList, hlength, if_pos (by decide)] at hwritten
  cases hwritten

end RemoteBSP.Toolbusd
