import RemoteBSP.Lib.Chunks
import RemoteBSP.Protocol.Packet

/-!
# The packet codec is a bijection

`packet_codec_bijective`: `decode` inverts `encode` up to the two fields that `encode` fills in
(`Packet.sealed`), `encode` inverts `decode`, and so `decode` accepts what `encode` writes and
nothing else.

Both directions rest on the same picture of a packet, `packetBytes`: twenty bytes of header fields,
the checksum of these and of the payload, and the payload. `encode_eq` says that `encode` writes it,
and `decode_eq_ok_iff` that `decode` reads it.
-/

namespace RemoteBSP

/-! ## Fields -/

/-- The bytes of a 16-bit field, read and written again. -/
theorem putU16_getU16 (data : List UInt8) (i : ℕ) :
    putU16 (getU16 data i) = [byteAt data i, byteAt data (i + 1)] := by
  have h0 := (byteAt data i).toNat_lt
  have h1 := (byteAt data (i + 1)).toNat_lt
  have hvalue := toNat_getU16 data i
  have hlow : (getU16 data i).toUInt8 = byteAt data i := by
    apply UInt8.toNat_inj.1
    rw [UInt16.toNat_toUInt8, hvalue]
    omega
  have hhigh : (getU16 data i >>> 8).toUInt8 = byteAt data (i + 1) := by
    apply UInt8.toNat_inj.1
    simp only [UInt16.toNat_toUInt8, UInt16.toNat_shiftRight, UInt16.reduceToNat, Nat.reduceMod,
      Nat.shiftRight_eq_div_pow, hvalue]
    omega
  rw [putU16, hlow, hhigh]

/-- The bytes of a 32-bit field, read and written again. -/
theorem putU32_getU32 (data : List UInt8) (i : ℕ) : putU32 (getU32 data i) =
    [byteAt data i, byteAt data (i + 1), byteAt data (i + 2), byteAt data (i + 3)] := by
  have h0 := (byteAt data i).toNat_lt
  have h1 := (byteAt data (i + 1)).toNat_lt
  have h2 := (byteAt data (i + 2)).toNat_lt
  have h3 := (byteAt data (i + 3)).toNat_lt
  have hvalue := toNat_getU32 data i
  have hbyte0 : (getU32 data i).toUInt8 = byteAt data i := by
    apply UInt8.toNat_inj.1
    rw [UInt32.toNat_toUInt8, hvalue]
    omega
  have hbyte1 : (getU32 data i >>> 8).toUInt8 = byteAt data (i + 1) := by
    apply UInt8.toNat_inj.1
    simp only [UInt32.toNat_toUInt8, UInt32.toNat_shiftRight, UInt32.reduceToNat, Nat.reduceMod,
      Nat.shiftRight_eq_div_pow, hvalue]
    omega
  have hbyte2 : (getU32 data i >>> 16).toUInt8 = byteAt data (i + 2) := by
    apply UInt8.toNat_inj.1
    simp only [UInt32.toNat_toUInt8, UInt32.toNat_shiftRight, UInt32.reduceToNat, Nat.reduceMod,
      Nat.shiftRight_eq_div_pow, hvalue]
    omega
  have hbyte3 : (getU32 data i >>> 24).toUInt8 = byteAt data (i + 3) := by
    apply UInt8.toNat_inj.1
    simp only [UInt32.toNat_toUInt8, UInt32.toNat_shiftRight, UInt32.reduceToNat, Nat.reduceMod,
      Nat.shiftRight_eq_div_pow, hvalue]
    omega
  rw [putU32, hbyte0, hbyte1, hbyte2, hbyte3]

/-- The bytes of a 64-bit field, read and written again. -/
theorem putU64_getU64 (data : List UInt8) (i : ℕ) : putU64 (getU64 data i) =
    [byteAt data i, byteAt data (i + 1), byteAt data (i + 2), byteAt data (i + 3),
      byteAt data (i + 4), byteAt data (i + 5), byteAt data (i + 6), byteAt data (i + 7)] := by
  have h0 := (byteAt data i).toNat_lt
  have h1 := (byteAt data (i + 1)).toNat_lt
  have h2 := (byteAt data (i + 2)).toNat_lt
  have h3 := (byteAt data (i + 3)).toNat_lt
  have h4 := (byteAt data (i + 4)).toNat_lt
  have h5 := (byteAt data (i + 5)).toNat_lt
  have h6 := (byteAt data (i + 6)).toNat_lt
  have h7 := (byteAt data (i + 7)).toNat_lt
  have hvalue := toNat_getU64 data i
  generalize getU64 data i = value at hvalue
  generalize byteAt data i = b0 at *
  generalize byteAt data (i + 1) = b1 at *
  generalize byteAt data (i + 2) = b2 at *
  generalize byteAt data (i + 3) = b3 at *
  generalize byteAt data (i + 4) = b4 at *
  generalize byteAt data (i + 5) = b5 at *
  generalize byteAt data (i + 6) = b6 at *
  generalize byteAt data (i + 7) = b7 at *
  -- Each byte of the value is a quotient and a remainder.
  simp only [putU64, List.cons.injEq, ← UInt8.toNat_inj, UInt64.toNat_toUInt8,
    UInt64.toNat_shiftRight, UInt64.reduceToNat, Nat.reduceMod, Nat.shiftRight_eq_div_pow, hvalue,
    and_true]
  refine ⟨?_, ?_, ?_, ?_, ?_, ?_, ?_, ?_⟩ <;> omega

/-- The first bytes of a list. -/
theorem take_eq_map_byteAt {data : List UInt8} {n : ℕ} (h : n ≤ data.length) :
    data.take n = (List.range n).map (byteAt data) := by
  refine List.ext_getElem (by simp [h]) fun i hi hi' => ?_
  have hlt : i < data.length := by
    rw [List.length_take] at hi
    omega
  rw [List.getElem_take, List.getElem_map, List.getElem_range, byteAt,
    List.getD_eq_getElem _ _ hlt]

/-- A list is given by its length and its bytes. -/
theorem eq_map_byteAt {data : List UInt8} {n : ℕ} (h : data.length = n) :
    data = (List.range n).map (byteAt data) := by
  rw [← take_eq_map_byteAt h.ge, List.take_of_length_le h.le]

/-- A byte behind the beginning of a list. -/
theorem byteAt_drop (data : List UInt8) (n i : ℕ) :
    byteAt (data.drop n) i = byteAt data (n + i) := by
  rw [byteAt, byteAt, List.getD_eq_getElem?_getD, List.getD_eq_getElem?_getD, List.getElem?_drop]

/-- The bytes of a list in front of an offset, and the ones from there. -/
theorem take_append_map_byteAt {data : List UInt8} {i n : ℕ} (h : i + n ≤ data.length) :
    data.take i ++ (List.range n).map (fun j => byteAt data (i + j)) = data.take (i + n) := by
  have hfits : n ≤ (data.drop i).length := by
    rw [List.length_drop]
    omega
  rw [List.take_add, take_eq_map_byteAt hfits]
  exact congrArg _ (List.map_congr_left fun j _ => (byteAt_drop data i j).symm)

/-- The bytes in front of an offset, and the one there. -/
theorem take_append_byte {data : List UInt8} {i : ℕ} (h : i + 1 ≤ data.length) :
    data.take i ++ [byteAt data i] = data.take (i + 1) := take_append_map_byteAt h

/-- The bytes in front of an offset, and a 16-bit field there, written again. -/
theorem take_append_putU16 {data : List UInt8} {i : ℕ} (h : i + 2 ≤ data.length) :
    data.take i ++ putU16 (getU16 data i) = data.take (i + 2) := by
  rw [putU16_getU16]
  exact take_append_map_byteAt h

/-- The bytes in front of an offset, and a 32-bit field there, written again. -/
theorem take_append_putU32 {data : List UInt8} {i : ℕ} (h : i + 4 ≤ data.length) :
    data.take i ++ putU32 (getU32 data i) = data.take (i + 4) := by
  rw [putU32_getU32]
  exact take_append_map_byteAt h

/-- The bytes in front of an offset, and a 64-bit field there, written again. -/
theorem take_append_putU64 {data : List UInt8} {i : ℕ} (h : i + 8 ≤ data.length) :
    data.take i ++ putU64 (getU64 data i) = data.take (i + 8) := by
  rw [putU64_getU64]
  exact take_append_map_byteAt h

/-- The first bytes, read as a 16-bit field and written again. -/
theorem putU16_getU16_zero {data : List UInt8} (h : 2 ≤ data.length) :
    putU16 (getU16 data 0) = data.take 2 := by
  rw [putU16_getU16]
  exact (take_eq_map_byteAt h).symm

/-- The first bytes, read as a 32-bit field and written again. -/
theorem putU32_getU32_zero {data : List UInt8} (h : 4 ≤ data.length) :
    putU32 (getU32 data 0) = data.take 4 := by
  rw [putU32_getU32]
  exact (take_eq_map_byteAt h).symm

/-- The bytes of a list: a header, and records of one length. -/
theorem eq_records {data : List UInt8} {header count size : ℕ}
    (h : data.length = header + count * size) :
    data = data.take header ++ (List.range count).flatMap fun k =>
      (List.range size).map fun i => byteAt data (header + k * size + i) := by
  have hrest : (data.drop header).length = count * size := by
    rw [List.length_drop, h, Nat.add_sub_cancel_left]
  have hrecord : ∀ k ∈ List.range count, (data.drop header).chunk size k =
      (List.range size).map fun i => byteAt data (header + k * size + i) := by
    intro k hk
    have hle : (k + 1) * size ≤ count * size := Nat.mul_le_mul_right _ (List.mem_range.1 hk)
    have hfits : size ≤ ((data.drop header).drop (k * size)).length := by
      rw [List.length_drop, hrest]
      rw [Nat.succ_mul] at hle
      omega
    rw [List.chunk, take_eq_map_byteAt hfits]
    refine List.map_congr_left fun i _ => ?_
    rw [byteAt_drop, byteAt_drop, Nat.add_assoc]
  have hall := List.flatMap_chunk_range size (data.drop header) count
  rw [List.take_of_length_le hrest.le] at hall
  rw [← List.flatMap_congr hrecord, hall, List.take_append_drop]

/-- The number of a message type stands for it. -/
theorem MessageType.ofValue_value (type : MessageType) : ofValue type.value = some type := by
  cases type <;> rfl

/-- A number that stands for a message type is its number. -/
theorem MessageType.value_of_ofValue {value : UInt8} {type : MessageType}
    (h : ofValue value = some type) : type.value = value := by
  unfold ofValue at h
  split_ifs at h with h1 h2 h3
  · rw [← Option.some.inj h, h1]; rfl
  · rw [← Option.some.inj h, h2]; rfl
  · rw [← Option.some.inj h, h3]; rfl

/-! ## Packets -/

/-- The CRC-32 that a packet carries, over its header with the place of the checksum left zero. -/
def packetChecksum (header : PacketHeader) (payload : List UInt8) : UInt32 :=
  crc32 (headerWithoutCrc header ++ payload)

/-- The bytes of a packet: its header with the checksum, then its payload. -/
def packetBytes (header : PacketHeader) (payload : List UInt8) : List UInt8 :=
  headerWithoutCrc header ++ putU32 (packetChecksum header payload) ++ payload

/-- The header with the length that `encode` fills in. -/
def PacketHeader.withLength (header : PacketHeader) (payload : List UInt8) : PacketHeader :=
  { header with payloadLength := UInt16.ofNat payload.length }

/-- The packet with the length and the checksum that `encode` fills in. -/
def Packet.sealed (packet : Packet) : Packet :=
  let header := packet.header.withLength packet.payload
  { packet with header := { header with crc := packetChecksum header packet.payload } }

/-- The packets for which `encode` does not throw. -/
def Packet.Encodable (packet : Packet) : Prop :=
  packet.header.version = kProtocolVersion ∧ packet.payload.length ≤ kMaximumPayloadSize

/-- What `encode` takes, and what it writes. -/
theorem encode_eq_ok_iff {packet : Packet} {bytes : List UInt8} :
    encode packet = .ok bytes ↔
      packet.Encodable ∧ bytes = packetBytes (packet.header.withLength packet.payload)
        packet.payload := by
  have hmaximum : kMaximumPayloadSize < 65535 := by decide
  unfold encode Packet.Encodable
  simp only [bind, Except.bind, throw, throwThe, MonadExceptOf.throw, pure, Except.pure]
  split_ifs with hversion hlength
  · exact ⟨nofun, fun h => absurd h.1.1 hversion⟩
  · refine ⟨nofun, fun h => ?_⟩
    have hle := h.1.2
    omega
  · refine ⟨fun h => ⟨⟨not_not.1 hversion, ?_⟩, (Except.ok.inj h).symm⟩, fun h => ?_⟩
    · exact not_lt.1 (not_or.1 hlength).1
    · rw [h.2]
      rfl

/-- A packet is as long as its header and its payload. -/
theorem length_packetBytes (header : PacketHeader) (payload : List UInt8) :
    (packetBytes header payload).length = kPacketHeaderSize + payload.length := by
  simp only [packetBytes, headerWithoutCrc, List.length_append, List.length_cons, List.length_nil,
    length_putU16, length_putU32, kPacketHeaderSize]

/-- The header that `decode` reads off the first bytes. -/
def readHeader (type : MessageType) (data : List UInt8) : PacketHeader where
  version := byteAt data 0
  messageType := type
  command := getU16 data 2
  sessionId := getU32 data 4
  requestId := getU32 data 8
  objectId := getU32 data 12
  payloadLength := getU16 data 16
  flags := getU16 data 18
  crc := getU32 data 20

/-- The header that `decode` reads has the bytes that were read. -/
theorem headerWithoutCrc_readHeader {type : MessageType} {data : List UInt8}
    (htype : type.value = byteAt data 1) (hlength : 20 ≤ data.length) :
    headerWithoutCrc (readHeader type data) = data.take 20 := by
  simp only [headerWithoutCrc, readHeader, putU16_getU16, putU32_getU32, htype]
  rw [take_eq_map_byteAt hlength]
  rfl

/-- The header that `decode` reads is the one that was written. -/
theorem readHeader_packetBytes (header : PacketHeader) (payload : List UInt8) :
    readHeader header.messageType (packetBytes header payload) =
      { header with crc := packetChecksum header payload } := by
  have hcommand : getU16 (packetBytes header payload) 2 = header.command :=
    getU16_eq_of_bytes rfl rfl
  have hsession : getU32 (packetBytes header payload) 4 = header.sessionId :=
    getU32_eq_of_bytes rfl rfl rfl rfl
  have hrequest : getU32 (packetBytes header payload) 8 = header.requestId :=
    getU32_eq_of_bytes rfl rfl rfl rfl
  have hobject : getU32 (packetBytes header payload) 12 = header.objectId :=
    getU32_eq_of_bytes rfl rfl rfl rfl
  have hpayload : getU16 (packetBytes header payload) 16 = header.payloadLength :=
    getU16_eq_of_bytes rfl rfl
  have hflags : getU16 (packetBytes header payload) 18 = header.flags :=
    getU16_eq_of_bytes rfl rfl
  have hcrc : getU32 (packetBytes header payload) 20 = packetChecksum header payload :=
    getU32_eq_of_bytes rfl rfl rfl rfl
  rw [readHeader, hcommand, hsession, hrequest, hobject, hpayload, hflags, hcrc]
  rfl

/-- What `decode` takes, and what it reads. -/
theorem decode_eq_ok_iff_read {data : List UInt8} {packet : Packet} :
    decode data = .ok packet ↔ ∃ type, MessageType.ofValue (byteAt data 1) = some type ∧
      kPacketHeaderSize ≤ data.length ∧ data.length ≤ kMaximumPacketSize ∧
      byteAt data 0 = kProtocolVersion ∧
      data.length = kPacketHeaderSize + (getU16 data 16).toNat ∧
      crc32 (data.take 20 ++ data.drop kPacketHeaderSize) = getU32 data 20 ∧
      packet = ⟨readHeader type data, data.drop kPacketHeaderSize⟩ := by
  unfold decode
  simp only [bind, Except.bind, throw, throwThe, MonadExceptOf.throw, pure, Except.pure]
  split
  · next hshort => exact ⟨nofun, fun ⟨_, _, h, _⟩ => absurd h (not_le.2 hshort)⟩
  · next hshort =>
    split
    · next hlong => exact ⟨nofun, fun ⟨_, _, _, h, _⟩ => absurd h (not_le.2 hlong)⟩
    · next hlong =>
      split
      · next hversion => exact ⟨nofun, fun ⟨_, _, _, _, h, _⟩ => absurd h hversion⟩
      · next hversion =>
        split
        · next hnone =>
          refine ⟨nofun, fun ⟨_, hsome, _⟩ => ?_⟩
          rw [hnone] at hsome
          cases hsome
        · next type htype =>
          split_ifs with hlength hcrc
          · exact ⟨nofun, fun ⟨_, _, _, _, _, h, _⟩ => absurd h hlength⟩
          · exact ⟨nofun, fun ⟨_, _, _, _, _, _, h, _⟩ => absurd h hcrc⟩
          · refine ⟨fun h => ⟨type, htype, not_lt.1 hshort, not_lt.1 hlong, not_not.1 hversion,
              not_not.1 hlength, not_not.1 hcrc, (Except.ok.inj h).symm⟩, ?_⟩
            rintro ⟨type', hsome, -, -, -, -, -, rfl⟩
            obtain rfl := Option.some.inj (htype.symm.trans hsome)
            rfl

/-- `decode` takes the packets with a right length and a right checksum. -/
theorem decode_eq_ok_iff {data : List UInt8} {packet : Packet} :
    decode data = .ok packet ↔
      packet.Encodable ∧ packet.sealed = packet ∧
        data = packetBytes packet.header packet.payload := by
  rw [decode_eq_ok_iff_read]
  constructor
  -- What has passed the checks is the packet of the fields that have been read.
  · rintro ⟨type, htype, hshort, hlong, hversion, hlength, hcrc, rfl⟩
    have hdrop : (data.drop kPacketHeaderSize).length = (getU16 data 16).toNat := by
      rw [List.length_drop, hlength]
      omega
    have hfields := headerWithoutCrc_readHeader (MessageType.value_of_ofValue htype)
      (le_trans (by decide) hshort)
    have hwith : (readHeader type data).withLength (data.drop kPacketHeaderSize) =
        readHeader type data := by
      rw [PacketHeader.withLength, hdrop, UInt16.ofNat_toNat]
      rfl
    have hchecksum : packetChecksum (readHeader type data) (data.drop kPacketHeaderSize) =
        getU32 data 20 := by
      rw [packetChecksum, hfields, hcrc]
    refine ⟨⟨hversion, ?_⟩, ?_, ?_⟩
    · rw [List.length_drop]
      exact Nat.sub_le_sub_right hlong _
    · rw [Packet.sealed]
      dsimp only
      rw [hwith, hchecksum]
      rfl
    · -- The bytes are the fields, the checksum and the payload.
      have hfour : putU32 (getU32 data 20) = (data.take kPacketHeaderSize).drop 20 := by
        rw [putU32_getU32, take_eq_map_byteAt hshort]
        rfl
      rw [packetBytes, hfields, hchecksum, hfour]
      calc data = data.take kPacketHeaderSize ++ data.drop kPacketHeaderSize :=
            (List.take_append_drop _ _).symm
        _ = (data.take kPacketHeaderSize).take 20 ++ (data.take kPacketHeaderSize).drop 20 ++
              data.drop kPacketHeaderSize := by
          rw [List.take_append_drop 20 (data.take kPacketHeaderSize)]
        _ = data.take 20 ++ (data.take kPacketHeaderSize).drop 20 ++
              data.drop kPacketHeaderSize := by rw [List.take_take]; rfl
  -- The bytes of a packet pass all checks, and the fields are read off them.
  · rintro ⟨⟨hversion, hsize⟩, hsealed, rfl⟩
    have hlength : packet.header.payloadLength = UInt16.ofNat packet.payload.length :=
      (congrArg (fun p : Packet => p.header.payloadLength) hsealed).symm
    have hcrc : packetChecksum (packet.header.withLength packet.payload) packet.payload =
        packet.header.crc := congrArg (fun p : Packet => p.header.crc) hsealed
    have hwith : packet.header.withLength packet.payload = packet.header := by
      rw [PacketHeader.withLength, ← hlength]
    rw [hwith] at hcrc
    have hread := readHeader_packetBytes packet.header packet.payload
    have hpayloadLength : getU16 (packetBytes packet.header packet.payload) 16 =
        packet.header.payloadLength := congrArg PacketHeader.payloadLength hread
    have hreceived : getU32 (packetBytes packet.header packet.payload) 20 =
        packetChecksum packet.header packet.payload := congrArg PacketHeader.crc hread
    have hdrop : (packetBytes packet.header packet.payload).drop kPacketHeaderSize =
        packet.payload := rfl
    have htake : (packetBytes packet.header packet.payload).take 20 =
        headerWithoutCrc packet.header := rfl
    have hbytes := length_packetBytes packet.header packet.payload
    refine ⟨packet.header.messageType, MessageType.ofValue_value _, ?_, ?_, hversion, ?_, ?_, ?_⟩
    · rw [hbytes]
      exact Nat.le_add_right _ _
    · rw [hbytes]
      exact Nat.add_le_of_le_sub' (by decide) hsize
    · have hfits : packet.payload.length < 2^16 := lt_of_le_of_lt hsize (by decide)
      rw [hbytes, hpayloadLength, hlength, UInt16.toNat_ofNat_of_lt' hfits]
    · rw [hdrop, htake, hreceived]
      rfl
    · rw [hread, hdrop, hcrc]

/-- `decode` inverts `encode` up to the length and the checksum that `encode` fills in, `encode`
inverts `decode`, and the byte strings that `decode` accepts are those that `encode` writes. -/
theorem packet_codec_bijective :
    (∀ packet, (∃ bytes, encode packet = .ok bytes) ↔ packet.Encodable) ∧
      (∀ packet bytes, encode packet = .ok bytes → decode bytes = .ok packet.sealed) ∧
      (∀ bytes packet, decode bytes = .ok packet → encode packet = .ok bytes) ∧
      ∀ bytes, (∃ packet, decode bytes = .ok packet) ↔ ∃ packet, encode packet = .ok bytes := by
  have hdecode : ∀ packet bytes, encode packet = .ok bytes → decode bytes = .ok packet.sealed := by
    intro packet bytes h
    obtain ⟨hencodable, rfl⟩ := encode_eq_ok_iff.1 h
    exact decode_eq_ok_iff.2 ⟨hencodable, rfl, rfl⟩
  have hencode : ∀ bytes packet, decode bytes = .ok packet → encode packet = .ok bytes := by
    intro bytes packet h
    obtain ⟨hencodable, hsealed, rfl⟩ := decode_eq_ok_iff.1 h
    have hlength : packet.header.payloadLength = UInt16.ofNat packet.payload.length :=
      (congrArg (fun p : Packet => p.header.payloadLength) hsealed).symm
    refine encode_eq_ok_iff.2 ⟨hencodable, ?_⟩
    rw [PacketHeader.withLength, ← hlength]
  refine ⟨fun packet => ⟨fun ⟨_, h⟩ => (encode_eq_ok_iff.1 h).1,
    fun h => ⟨_, encode_eq_ok_iff.2 ⟨h, rfl⟩⟩⟩, hdecode, hencode, fun bytes => ⟨?_, ?_⟩⟩
  · rintro ⟨packet, h⟩
    exact ⟨packet, hencode bytes packet h⟩
  · rintro ⟨packet, h⟩
    exact ⟨packet.sealed, hdecode packet bytes h⟩

end RemoteBSP
