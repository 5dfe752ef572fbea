import RemoteBSP.Firmware.Core
import RemoteBSP.Protocol.PacketCodec

/-!
# The codec of the firmware and the codec of the host

`core.c` has its own `decode_request` and `encode_packet`. `codecs_agree`: the firmware accepts the
requests that the host's `decode` accepts, and reads the same from them; and it writes the bytes
that the host's `encode` writes.

`encode_packet` writes into a buffer in which the payload may already lie, and computes the checksum
from the buffer, where its own field is zero. `encodePacketInto` is the function on the buffer, and
`encodePacketInto_eq` says that behind it the buffer starts with `encodePacket`, the value that the
rest of the firmware's model works with.
-/

namespace RemoteBSP.Firmware

/-! ## The buffer -/

/-- Bytes written into a buffer at an offset. -/
def writeAt (buffer : List UInt8) (offset : ℕ) (bytes : List UInt8) : List UInt8 :=
  buffer.take offset ++ bytes ++ buffer.drop (offset + bytes.length)

/-- Where the payload lies: elsewhere, or in the output buffer. -/
inductive PayloadSource
  | elsewhere (bytes : List UInt8)
  | inOutput (offset length : ℕ)
deriving DecidableEq, Repr

namespace PayloadSource

/-- The length of the payload. -/
def length : PayloadSource → ℕ
  | .elsewhere bytes => bytes.length
  | .inOutput _ length => length

/-- The payload. -/
def read (output : List UInt8) : PayloadSource → List UInt8
  | .elsewhere bytes => bytes
  | .inOutput offset length => (output.drop offset).take length

/-- A payload in the output buffer lies behind the header, and within the buffer. -/
def Fits (output : List UInt8) : PayloadSource → Prop
  | .elsewhere _ => True
  | .inOutput offset length => RBSP_HEADER_SIZE ≤ offset ∧ offset + length ≤ output.length

end PayloadSource

/-- The header fields of `encode_packet`, each written where it belongs, the checksum as zero. -/
def writeHeader (output : List UInt8) (messageType : MessageType) (command : UInt16)
    (sessionId requestId objectId : UInt32) (flags payloadLength : UInt16) : List UInt8 :=
  let output := writeAt output 0 [RBSP_PROTOCOL_VERSION]
  let output := writeAt output 1 [messageType.value]
  let output := writeAt output 2 (putU16 command)
  let output := writeAt output 4 (putU32 sessionId)
  let output := writeAt output 8 (putU32 requestId)
  let output := writeAt output 12 (putU32 objectId)
  let output := writeAt output 16 (putU16 payloadLength)
  let output := writeAt output 18 (putU16 flags)
  writeAt output 20 (putU32 0)

/-- The `memmove` of `encode_packet`: a payload that is where it belongs stays there. -/
def movePayload (output : List UInt8) (payload : PayloadSource) : List UInt8 :=
  if payload.length ≠ 0 ∧ payload ≠ .inOutput RBSP_HEADER_SIZE payload.length then
    writeAt output RBSP_HEADER_SIZE (payload.read output)
  else output

/-- `encode_packet`, on the output buffer: the buffer and the size of the packet. -/
def encodePacketInto (output : List UInt8) (messageType : MessageType) (command : UInt16)
    (sessionId requestId objectId : UInt32) (flags : UInt16) (payload : PayloadSource) :
    List UInt8 × UInt16 :=
  let payloadLength := UInt16.ofNat payload.length
  let size := UInt16.ofNat RBSP_HEADER_SIZE + payloadLength
  let output := writeHeader output messageType command sessionId requestId objectId flags
    payloadLength
  let output := movePayload output payload
  (writeAt output 20 (putU32 (packetCrc (output.take size.toNat))), size)

/-- Bytes written behind the beginning of a buffer. -/
theorem writeAt_append {front rest bytes : List UInt8} {offset : ℕ} (h : front.length = offset) :
    writeAt (front ++ rest) offset bytes = front ++ bytes ++ rest.drop bytes.length := by
  rw [writeAt, ← h, List.take_left, List.drop_append, List.drop_eq_nil_of_le (Nat.le_add_right _ _),
    Nat.add_sub_cancel_left, List.nil_append]

/-- The header of `encode_packet`. -/
def packetHeader (messageType : MessageType) (command : UInt16)
    (sessionId requestId objectId : UInt32) (flags payloadLength : UInt16) : List UInt8 :=
  [RBSP_PROTOCOL_VERSION, messageType.value] ++ putU16 command ++ putU32 sessionId ++
    putU32 requestId ++ putU32 objectId ++ putU16 payloadLength ++ putU16 flags

/-- The header is written in front of what was in the buffer. -/
theorem writeHeader_eq (output : List UInt8) (messageType : MessageType) (command : UInt16)
    (sessionId requestId objectId : UInt32) (flags payloadLength : UInt16) :
    writeHeader output messageType command sessionId requestId objectId flags payloadLength =
      packetHeader messageType command sessionId requestId objectId flags payloadLength ++
      putU32 0 ++
        output.drop RBSP_HEADER_SIZE := by
  unfold writeHeader packetHeader
  dsimp only
  rw [← List.nil_append output, writeAt_append, writeAt_append, writeAt_append, writeAt_append,
    writeAt_append, writeAt_append, writeAt_append, writeAt_append, writeAt_append]
  · simp only [List.drop_drop, length_putU16, length_putU32, List.length_singleton, List.nil_append]
    rfl
  all_goals rfl

/-- The payload is behind the header. -/
theorem movePayload_eq {header rest : List UInt8} {payload : PayloadSource}
    (hheader : header.length = RBSP_HEADER_SIZE) {output : List UInt8}
    (hrest : rest = output.drop RBSP_HEADER_SIZE) (hfits : payload.Fits output) :
    ∃ tail, movePayload (header ++ rest) payload = header ++ payload.read output ++ tail := by
  have hread : payload.read (header ++ rest) = payload.read output := by
    cases payload with
    | elsewhere bytes => rfl
    | inOutput offset length =>
      rw [PayloadSource.read, PayloadSource.read, List.drop_append,
        List.drop_eq_nil_of_le (hheader.trans_le hfits.1), List.nil_append, hrest, List.drop_drop,
        hheader, Nat.add_sub_cancel' hfits.1]
  unfold movePayload
  split
  · rw [writeAt_append hheader, hread]
    exact ⟨_, rfl⟩
  · next hstay =>
    by_cases hempty : payload.length = 0
    · have hnil : payload.read output = [] := by
        cases payload with
        | elsewhere bytes => exact List.length_eq_zero_iff.1 hempty
        | inOutput offset length =>
          rw [PayloadSource.read, show length = 0 from hempty, List.take_zero]
      exact ⟨rest, by rw [hnil, List.append_nil]⟩
    · -- The payload is where it belongs.
      have hplace := not_not.1 (not_and.1 hstay hempty)
      rw [hplace, PayloadSource.read, ← hrest]
      exact ⟨rest.drop payload.length, by rw [List.append_assoc, List.take_append_drop]⟩

/-- The length of a payload that fits. -/
theorem length_read {payload : PayloadSource} {output : List UInt8} (hfits : payload.Fits output) :
    (payload.read output).length = payload.length := by
  cases payload with
  | elsewhere bytes => rfl
  | inOutput offset length =>
    have hle := hfits.2
    rw [PayloadSource.read, List.length_take, List.length_drop, PayloadSource.length]
    omega

/-- `encode_packet` leaves the packet at the beginning of the buffer. -/
theorem encodePacketInto_eq {output : List UInt8} (messageType : MessageType) (command : UInt16)
    (sessionId requestId objectId : UInt32) (flags : UInt16) {payload : PayloadSource}
    (hfits : payload.Fits output) (hsize : RBSP_HEADER_SIZE + payload.length < 2^16) :
    let encoded := encodePacketInto output messageType command sessionId requestId objectId flags
      payload
    encoded.1.take encoded.2.toNat =
      encodePacket messageType command sessionId requestId objectId flags
        (payload.read output) := by
  intro encoded
  set header := packetHeader messageType command sessionId requestId objectId flags
    (UInt16.ofNat payload.length) with hheader
  -- The payload is moved behind the header before the checksum is put in.
  obtain ⟨tail, hmoved⟩ : ∃ tail, movePayload (header ++ putU32 0 ++ output.drop RBSP_HEADER_SIZE)
      payload = header ++ putU32 0 ++ payload.read output ++ tail :=
    movePayload_eq rfl rfl hfits
  have hlength : header.length = 20 := rfl
  -- The length is counted in sixteen bits, which suffice for it.
  have htoNat : encoded.2.toNat = RBSP_HEADER_SIZE + payload.length := by
    have hpayload : payload.length < 2^16 := by omega
    have h24 : RBSP_HEADER_SIZE < 2^16 := by decide
    change (UInt16.ofNat RBSP_HEADER_SIZE + UInt16.ofNat payload.length).toNat = _
    rw [UInt16.toNat_add, UInt16.toNat_ofNat_of_lt' h24, UInt16.toNat_ofNat_of_lt' hpayload,
      Nat.mod_eq_of_lt hsize]
  -- So the checksum is that of the packet with its field left zero.
  have hbuffer : encoded.1 = header ++ putU32 (packetCrc (header ++ putU32 0 ++
      payload.read output)) ++ (payload.read output ++ tail) := by
    change writeAt (movePayload (writeHeader _ _ _ _ _ _ _ _) _) 20 (putU32 (packetCrc
      ((movePayload (writeHeader _ _ _ _ _ _ _ _) _).take encoded.2.toNat))) = _
    rw [writeHeader_eq, ← hheader, hmoved, htoNat]
    have htake : (header ++ putU32 0 ++ payload.read output ++ tail).take
        (RBSP_HEADER_SIZE + payload.length) = header ++ putU32 0 ++ payload.read output := by
      rw [List.take_left']
      rw [List.length_append, length_read hfits]
      rfl
    rw [htake, List.append_assoc, List.append_assoc, writeAt_append hlength]
    rfl
  rw [hbuffer, htoNat, encodePacket, length_read hfits, ← List.append_assoc, List.take_left']
  · rfl
  · rw [List.length_append, length_read hfits]
    rfl

/-! ## The host -/

/-- The checksum of a packet, in two pieces or in one. -/
theorem packetCrc_eq (packet : List UInt8) :
    packetCrc packet = crc32 (packet.take 20 ++ packet.drop RBSP_HEADER_SIZE) := by
  rw [packetCrc, crc32, List.foldl_append]

/-- A request, as the firmware sees it. -/
def Request.ofPacket (packet : Packet) : Request where
  command := packet.header.command
  sessionId := packet.header.sessionId
  requestId := packet.header.requestId
  objectId := packet.header.objectId
  flags := packet.header.flags
  crc := packet.header.crc
  payload := packet.payload

/-- The firmware accepts the requests that the host accepts. -/
theorem decodeRequest_eq_some_iff {data : List UInt8} (hsize : data.length ≤ kMaximumPacketSize)
    {request : Request} : decodeRequest data = some request ↔ ∃ packet, decode data = .ok packet ∧
      packet.header.messageType = .request ∧ request = .ofPacket packet := by
  constructor
  · intro h
    unfold decodeRequest at h
    dsimp only at h
    split_ifs at h with hheader hrest
    obtain ⟨hlength, hversion, htype⟩ : ¬data.length < RBSP_HEADER_SIZE ∧
        byteAt data 0 = RBSP_PROTOCOL_VERSION ∧ byteAt data 1 = MessageType.request.value := by
      simpa only [not_or, not_not] using hheader
    obtain ⟨hpayload, hcrc⟩ : RBSP_HEADER_SIZE + (getU16 data 16).toNat = data.length ∧
        packetCrc data = getU32 data 20 := by
      simpa only [not_or, not_not] using hrest
    refine ⟨⟨readHeader .request data, data.drop kPacketHeaderSize⟩, ?_, rfl,
      (Option.some.inj h).symm⟩
    refine decode_eq_ok_iff_read.2 ⟨.request, ?_, not_lt.1 hlength, hsize, hversion, hpayload.symm,
      ?_, rfl⟩
    · rw [htype, MessageType.ofValue_value]
    · rw [← hcrc, packetCrc_eq]
      rfl
  · rintro ⟨packet, hdecode, hrequest, rfl⟩
    obtain ⟨type, htype, hshort, -, hversion, hlength, hcrc, rfl⟩ := decode_eq_ok_iff_read.1 hdecode
    obtain rfl : type = .request := hrequest
    have hvalue := MessageType.value_of_ofValue htype
    unfold decodeRequest
    rw [if_neg, if_neg]
    · rfl
    · rw [not_or, not_not, not_not, packetCrc_eq]
      exact ⟨hlength.symm, hcrc⟩
    · rw [not_or, not_or, not_not, not_not]
      exact ⟨not_lt.2 hshort, hversion, hvalue.symm⟩

/-- The firmware writes what the host writes. -/
theorem encode_eq_encodePacket {header : PacketHeader} {payload : List UInt8}
    (hversion : header.version = kProtocolVersion)
    (hsize : RBSP_HEADER_SIZE + payload.length ≤ kMaximumPacketSize) :
    encode ⟨header, payload⟩ = .ok (encodePacket header.messageType header.command header.sessionId
      header.requestId header.objectId header.flags payload) := by
  refine encode_eq_ok_iff.2 ⟨⟨hversion, ?_⟩, ?_⟩
  · exact Nat.le_sub_of_add_le' hsize
  · rw [encodePacket, packetBytes, packetChecksum, packetCrc_eq]
    have hfields : headerWithoutCrc (header.withLength payload) =
        packetHeader header.messageType header.command header.sessionId header.requestId
          header.objectId header.flags (UInt16.ofNat payload.length) := by
      rw [headerWithoutCrc, PacketHeader.withLength]
      dsimp only
      rw [hversion]
      rfl
    rw [hfields]
    rfl

/-- The codecs agree: for a byte string that fits into a packet of the firmware, the firmware
accepts the requests among the packets that the host accepts, and reads the same; and a packet that
fits is written as the host writes it, wherever its payload lies. -/
theorem codecs_agree (config : CoreConfig) :
    (∀ data : List UInt8, data.length ≤ config.maxPacketSize → ∀ request,
      decodeRequest data = some request ↔ ∃ packet, decode data = .ok packet ∧
        packet.header.messageType = .request ∧ request = .ofPacket packet) ∧
    ∀ (output : List UInt8) (header : PacketHeader) (payload : PayloadSource),
      output.length = config.maxPacketSize → payload.Fits output →
      RBSP_HEADER_SIZE + payload.length ≤ config.maxPacketSize →
      header.version = kProtocolVersion →
      let encoded := encodePacketInto output header.messageType header.command header.sessionId
        header.requestId header.objectId header.flags payload
      encode ⟨header, payload.read output⟩ = .ok (encoded.1.take encoded.2.toNat) := by
  have hmaximum : config.maxPacketSize ≤ kMaximumPacketSize := config.maxPacketSize_range.2
  refine ⟨fun data hdata request => decodeRequest_eq_some_iff (hdata.trans hmaximum), ?_⟩
  intro output header payload _ hfits hsize hversion encoded
  have hmaximum' : kMaximumPacketSize < 2^16 := by decide
  have heq := encodePacketInto_eq header.messageType header.command header.sessionId
    header.requestId header.objectId header.flags hfits (by omega)
  rw [heq]
  refine encode_eq_encodePacket hversion ?_
  rw [length_read hfits]
  exact hsize.trans hmaximum

end RemoteBSP.Firmware
