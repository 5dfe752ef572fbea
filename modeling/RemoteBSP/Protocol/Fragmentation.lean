import RemoteBSP.Lib.Chunks
import RemoteBSP.Protocol.Wire

/-!
# Fragments

`encode_fragment`, `decode_fragment` and `Fragmenter::split` of `protocol/src/fragmentation.cpp`. A
fragment's frame is a header of five bytes, with the payload's length in the upper six bits of the
flag byte, and the payload. `split` cuts a packet into the chunks that fit in a frame.

`decodeFragment_padded` says that a frame decodes to the fragment that it was encoded from, also
when the driver has padded it with zeros, and `split_spec` says what the frames of a packet are.
-/

namespace RemoteBSP

/-- `kFragmentHeaderSize`, the bytes of a frame before its piece of the packet. -/
def kFragmentHeaderSize : ℕ := 5

/-- `kMaximumPacketSize` of `packet.hpp`, the most bytes of a packet. -/
def kMaximumPacketSize : ℕ := 2048

/-- `kFragmentFirst`, set in the fragment that opens a transfer. -/
def kFragmentFirst : UInt8 := 0x01

/-- `kFragmentLast`, set in the fragment that ends it. -/
def kFragmentLast : UInt8 := 0x02

/-- `kFragmentFlagMask`, the bits of the flag byte that are not the length. -/
def kFragmentFlagMask : UInt8 := kFragmentFirst ||| kFragmentLast

/-- `kFragmentLengthShift`: the length of the payload stands above the two flags. -/
def kFragmentLengthShift : UInt8 := 2

/-- `kFragmentLengthMask`, the bits of the flag byte that are the length. -/
def kFragmentLengthMask : UInt8 := 0xFC

/-- `Fragment`, what a frame carries of a packet. -/
structure Fragment where
  /-- The transfer that the fragment belongs to. -/
  transferId : UInt16
  /-- The position of the fragment in its transfer. -/
  sequence : UInt16
  /-- The markers of the first and of the last fragment. -/
  flags : UInt8
  /-- The piece of the packet. -/
  payload : List UInt8
deriving DecidableEq, Repr

/-- `FragmentError`, the reasons for which a frame or a packet is refused. -/
inductive FragmentError
  | invalidMtu
  | emptyPacket
  | packetTooLarge
  | frameTooShort
  | frameTooLarge
  | invalidFlags
  | invalidPadding
  | invalidSequence
  | unknownTransfer
  | conflictingDuplicate
  | dataAfterLast
  | reassembledPacketTooLarge
deriving DecidableEq, Repr

/-- `FragmentException`, a reason with its text. -/
structure FragmentException where
  /-- Which rule the packet, the frame or the order of the fragments breaks. -/
  code : FragmentError
  /-- The text of `what`, which names the rule. -/
  message : String
deriving DecidableEq, Repr

/-- Whether the first marker is set. -/
def Fragment.isFirst (fragment : Fragment) : Bool := fragment.flags &&& kFragmentFirst != 0

/-- Whether the last marker is set. -/
def Fragment.isLast (fragment : Fragment) : Bool := fragment.flags &&& kFragmentLast != 0

/-- `validate_mtu`: a frame carries more than its header. -/
def validateMtu (mtu : ℕ) : Except FragmentException Unit :=
  if mtu ≤ kFragmentHeaderSize then
    .error ⟨.invalidMtu, "MTU leaves no room for fragment data"⟩
  else .ok ()

/-- The flag byte: the payload's length above the two markers. -/
def flagByte (flags : UInt8) (length : ℕ) : UInt8 :=
  flags ||| (UInt8.ofNat length <<< kFragmentLengthShift)

/-- `encode_fragment`, in the data of one frame. -/
def encodeFragment (fragment : Fragment) (mtu : ℕ) : Except FragmentException (List UInt8) := do
  validateMtu mtu
  if fragment.flags &&& ~~~kFragmentFlagMask != 0 then
    throw ⟨.invalidFlags, "fragment has reserved flag bits"⟩
  if fragment.isFirst != (fragment.sequence == 0) then
    throw ⟨.invalidSequence, "only sequence zero may be first"⟩
  if fragment.payload.isEmpty then
    throw ⟨.emptyPacket, "fragment payload cannot be empty"⟩
  if kFragmentHeaderSize + fragment.payload.length > mtu then
    throw ⟨.frameTooLarge, "fragment exceeds MTU"⟩
  if fragment.payload.length > (kFragmentLengthMask >>> kFragmentLengthShift).toNat then
    throw ⟨.frameTooLarge, "fragment payload length cannot be encoded"⟩
  return putU16 fragment.transferId ++ putU16 fragment.sequence ++
    [flagByte fragment.flags fragment.payload.length] ++ fragment.payload

/-- `decode_fragment`, from the data of one frame, which may be padded. -/
def decodeFragment (data : List UInt8) (mtu : ℕ) : Except FragmentException Fragment := do
  validateMtu mtu
  if data.length ≤ kFragmentHeaderSize then
    throw ⟨.frameTooShort, "frame has no fragment data"⟩
  if data.length > mtu then
    throw ⟨.frameTooLarge, "frame exceeds MTU"⟩
  let payloadLength := ((byteAt data 4 &&& kFragmentLengthMask) >>> kFragmentLengthShift).toNat
  if payloadLength = 0 then
    throw ⟨.emptyPacket, "fragment payload cannot be empty"⟩
  if kFragmentHeaderSize + payloadLength > mtu then
    throw ⟨.frameTooLarge, "encoded fragment payload exceeds MTU"⟩
  if data.length < kFragmentHeaderSize + payloadLength then
    throw ⟨.frameTooShort, "frame is shorter than encoded payload"⟩
  if !(data.drop (kFragmentHeaderSize + payloadLength)).all (· == 0) then
    throw ⟨.invalidPadding, "CAN-FD padding must be zero"⟩
  let fragment : Fragment :=
    { transferId := getU16 data 0
      sequence := getU16 data 2
      flags := byteAt data 4 &&& kFragmentFlagMask
      payload := (data.drop kFragmentHeaderSize).take payloadLength }
  if fragment.isFirst != (fragment.sequence == 0) then
    throw ⟨.invalidSequence, "only sequence zero may be first"⟩
  return fragment

/-- Fragment `i` of the `count` fragments that `Fragmenter::split` makes of a packet. -/
def splitFragment (capacity count : ℕ) (packet : List UInt8) (transferId : UInt16) (i : ℕ) :
    Fragment where
  transferId := transferId
  sequence := UInt16.ofNat i
  flags := (if i = 0 then kFragmentFirst else 0) ||| (if i + 1 = count then kFragmentLast else 0)
  payload := packet.chunk capacity i

/-- `Fragmenter::split`, of a fragmenter for frames of `mtu` bytes. -/
def split (mtu : ℕ) (packet : List UInt8) (transferId : UInt16) :
    Except FragmentException (List (List UInt8)) := do
  if packet.isEmpty then
    throw ⟨.emptyPacket, "packet cannot be empty"⟩
  if packet.length > kMaximumPacketSize then
    throw ⟨.packetTooLarge, "packet exceeds maximum size"⟩
  let capacity := mtu - kFragmentHeaderSize
  let count := List.chunkCount capacity packet.length
  if count > 65535 then
    throw ⟨.packetTooLarge, "packet needs too many fragments"⟩
  (List.range count).mapM fun i =>
    encodeFragment (splitFragment capacity count packet transferId i) mtu

/-! ## One frame -/

/-- Without reserved bits the flags are one of four values. -/
theorem flags_lt_four {flags : UInt8} (h : flags &&& ~~~kFragmentFlagMask = 0) :
    flags.toNat < 4 := by
  have hall : ∀ i : Fin 256, UInt8.ofFin i &&& ~~~kFragmentFlagMask = 0 → i.val < 4 := by
    decide +kernel
  exact hall flags.toFin h

/-- The markers and the length do not overlap in the flag byte. -/
theorem flagByte_fields {flags : UInt8} (hflags : flags.toNat < 4) {length : ℕ}
    (hlength : length < 64) :
    flagByte flags length &&& kFragmentFlagMask = flags ∧
      ((flagByte flags length &&& kFragmentLengthMask) >>> kFragmentLengthShift).toNat =
        length := by
  have hall : ∀ (i : Fin 4) (n : Fin 64),
      flagByte (UInt8.ofNat i) n &&& kFragmentFlagMask = UInt8.ofNat i ∧
        ((flagByte (UInt8.ofNat i) n &&& kFragmentLengthMask) >>> kFragmentLengthShift).toNat =
          n := by
    decide +kernel
  have h := hall ⟨flags.toNat, hflags⟩ ⟨length, hlength⟩
  rwa [UInt8.ofNat_toNat] at h

/-- The frame of a fragment, as `encode_fragment` lays it out. -/
def Fragment.frame (fragment : Fragment) : List UInt8 :=
  putU16 fragment.transferId ++ putU16 fragment.sequence ++
    [flagByte fragment.flags fragment.payload.length] ++ fragment.payload

/-- What `encode_fragment` checks of a fragment and the MTU. -/
structure Fragment.Encodable (fragment : Fragment) (mtu : ℕ) : Prop where
  /-- The frames have room for data. -/
  room : kFragmentHeaderSize < mtu
  /-- No reserved flag bit is set. -/
  flags : fragment.flags &&& ~~~kFragmentFlagMask = 0
  /-- Sequence zero, and only it, is first. -/
  first : fragment.isFirst = (fragment.sequence == 0)
  /-- The fragment carries some of the packet. -/
  payload_pos : 0 < fragment.payload.length
  /-- The header and the piece fit into a frame. -/
  fits : kFragmentHeaderSize + fragment.payload.length ≤ mtu
  /-- The length fits in its six bits. -/
  length_lt : fragment.payload.length < 64

/-- The length of a fragment's frame. -/
theorem Fragment.length_frame (fragment : Fragment) :
    fragment.frame.length = kFragmentHeaderSize + fragment.payload.length := by
  simp only [Fragment.frame, List.length_append, length_putU16, List.length_singleton,
    kFragmentHeaderSize]

/-- `encode_fragment` succeeds on a fragment that passes its checks. -/
theorem encodeFragment_spec {fragment : Fragment} {mtu : ℕ} (h : fragment.Encodable mtu) :
    encodeFragment fragment mtu = .ok fragment.frame := by
  obtain ⟨hroom, hflags, hfirst, hpos, hfits, hlt⟩ := h
  have hmax : (kFragmentLengthMask >>> kFragmentLengthShift).toNat = 63 := rfl
  have hne : fragment.payload ≠ [] := List.ne_nil_of_length_pos hpos
  unfold encodeFragment validateMtu
  rw [if_neg (by omega)]
  simp [hflags, hfirst, hne, hmax, Nat.not_lt.2 hfits, Nat.not_lt.2 (Nat.le_of_lt_succ hlt),
    bind, Except.bind, pure, Except.pure, Fragment.frame]

/-- A frame decodes to the fragment that it was encoded from, padded with zeros or not. -/
theorem decodeFragment_padded {fragment : Fragment} {mtu : ℕ} (h : fragment.Encodable mtu) {n : ℕ}
    (hn : fragment.frame.length + n ≤ mtu) :
    decodeFragment (fragment.frame ++ List.replicate n 0) mtu = .ok fragment := by
  obtain ⟨hroom, hflags, hfirst, hpos, hfits, hlt⟩ := h
  obtain ⟨hkeep, hlen⟩ := flagByte_fields (flags_lt_four hflags) hlt
  rw [fragment.length_frame] at hn
  generalize hdata : fragment.frame ++ List.replicate n 0 = data
  have hsize : data.length = kFragmentHeaderSize + fragment.payload.length + n := by
    rw [← hdata, List.length_append, fragment.length_frame, List.length_replicate]
  -- The fields of the header.
  have hbytes : ∀ i, byteAt data i = byteAt (putU16 fragment.transferId ++
      (putU16 fragment.sequence ++ (flagByte fragment.flags fragment.payload.length ::
        (fragment.payload ++ List.replicate n 0)))) i := by
    intro i
    rw [← hdata]
    simp [Fragment.frame]
  have hid : getU16 data 0 = fragment.transferId :=
    getU16_eq_of_bytes (by rw [hbytes]; rfl) (by rw [hbytes]; rfl)
  have hseq : getU16 data 2 = fragment.sequence :=
    getU16_eq_of_bytes (by rw [hbytes]; rfl) (by rw [hbytes]; rfl)
  have hflag : byteAt data 4 = flagByte fragment.flags fragment.payload.length := by
    rw [hbytes]; rfl
  -- The payload and the padding behind it.
  have hdrop : data.drop kFragmentHeaderSize = fragment.payload ++ List.replicate n 0 := by
    rw [← hdata]; rfl
  have hpad :
      (data.drop (kFragmentHeaderSize + fragment.payload.length)).all (· == 0) = true := by
    rw [← List.drop_drop, hdrop, List.drop_left]
    simp
  have hshort : ¬ data.length ≤ kFragmentHeaderSize := by omega
  have hlong : ¬ mtu < data.length := by omega
  have hcut : ¬ data.length < kFragmentHeaderSize + fragment.payload.length := by omega
  have hself : Fragment.mk fragment.transferId fragment.sequence fragment.flags
      fragment.payload = fragment := rfl
  unfold decodeFragment validateMtu
  rw [if_neg (by omega)]
  simp only [hflag, hlen, hid, hseq, hkeep, hdrop, List.take_left, hpad, hself, hfirst]
  simp [bind, Except.bind, pure, Except.pure, hshort, hlong, hcut, Nat.not_lt.2 hfits,
    List.ne_nil_of_length_pos hpos]

/-! ## The frames of a packet -/

/-- A pass over a list that fails nowhere. -/
theorem mapM_eq_ok {α β ε : Type} {f : α → Except ε β} {g : α → β} {xs : List α}
    (h : ∀ x ∈ xs, f x = .ok (g x)) : xs.mapM f = .ok (xs.map g) := by
  induction xs with
  | nil => rfl
  | cons x xs ih =>
    rw [List.mapM_cons, h x List.mem_cons_self, ih fun y hy => h y (List.mem_cons_of_mem x hy)]
    rfl

/-- The markers of a fragment that `split` makes: first at index zero, last at the last index. -/
theorem splitFragment_markers (capacity count : ℕ) (packet : List UInt8) (transferId : UInt16)
    (i : ℕ) :
    (splitFragment capacity count packet transferId i).isFirst = decide (i = 0) ∧
      (splitFragment capacity count packet transferId i).isLast = decide (i + 1 = count) ∧
      (splitFragment capacity count packet transferId i).flags &&& ~~~kFragmentFlagMask = 0 := by
  simp only [splitFragment, Fragment.isFirst, Fragment.isLast]
  split_ifs with h0 h1 h1
  · rw [decide_eq_true h0, decide_eq_true h1]
    decide
  · rw [decide_eq_true h0, decide_eq_false h1]
    decide
  · rw [decide_eq_false h0, decide_eq_true h1]
    decide
  · rw [decide_eq_false h0, decide_eq_false h1]
    decide

/-- The sequence number of a fragment that `split` makes. -/
theorem splitFragment_sequence (capacity count : ℕ) (packet : List UInt8) (transferId : UInt16)
    {i : ℕ} (hi : i < 2^16) :
    (splitFragment capacity count packet transferId i).sequence.toNat = i := by
  exact UInt16.toNat_ofNat_of_lt hi

/-- A packet has no more chunks than bytes. -/
theorem chunkCount_le {capacity n : ℕ} (hcapacity : 0 < capacity) :
    List.chunkCount capacity n ≤ n := by
  by_contra hlt
  have := (List.mul_lt_iff_lt_chunkCount hcapacity).2 (not_le.1 hlt)
  have := Nat.le_mul_of_pos_right n hcapacity
  omega

/-- Every fragment that `split` makes can be encoded, if the capacity fits in the six length
bits. -/
theorem splitFragment_encodable {mtu : ℕ} (hroom : kFragmentHeaderSize < mtu) (hmtu : mtu ≤ 68)
    {packet : List UInt8} (hsize : packet.length ≤ kMaximumPacketSize) (transferId : UInt16)
    {i : ℕ} (hi : i < List.chunkCount (mtu - kFragmentHeaderSize) packet.length) :
    (splitFragment (mtu - kFragmentHeaderSize)
      (List.chunkCount (mtu - kFragmentHeaderSize) packet.length) packet transferId i).Encodable
        mtu := by
  unfold kFragmentHeaderSize at hroom hi ⊢
  unfold kMaximumPacketSize at hsize
  have hcapacity : 0 < mtu - 5 := by omega
  have hcount : List.chunkCount (mtu - 5) packet.length ≤ packet.length := chunkCount_le hcapacity
  obtain ⟨hfirst, -, hflags⟩ := splitFragment_markers (mtu - 5)
    (List.chunkCount (mtu - 5) packet.length) packet transferId i
  have hseq := splitFragment_sequence (mtu - 5) (List.chunkCount (mtu - 5) packet.length) packet
    transferId (show i < 2^16 by omega)
  have hlength : (packet.chunk (mtu - 5) i).length ≤ mtu - 5 := List.length_chunk_le _ _ _
  refine ⟨hroom, hflags, ?_, List.length_chunk_pos hcapacity packet hi, ?_, ?_⟩
  · rw [hfirst, Bool.eq_iff_iff, decide_eq_true_iff, beq_iff_eq, ← UInt16.toNat_inj, hseq]
    rfl
  · show 5 + (packet.chunk (mtu - 5) i).length ≤ mtu
    omega
  · show (packet.chunk (mtu - 5) i).length < 64
    omega

/-- A packet that `split` does not throw on is neither empty nor too large. -/
theorem length_of_split {mtu : ℕ} {packet : List UInt8} {transferId : UInt16}
    {frames : List (List UInt8)} (h : split mtu packet transferId = .ok frames) :
    0 < packet.length ∧ packet.length ≤ kMaximumPacketSize := by
  unfold split at h
  simp only [bind, Except.bind, throw, throwThe, MonadExceptOf.throw] at h
  split_ifs at h with hempty hlong
  refine ⟨List.length_pos_of_ne_nil fun hnil => hempty ?_, not_lt.1 hlong⟩
  rw [hnil]
  rfl

/-- `split` makes the frames of the fragments of the packet's chunks. -/
theorem split_spec {mtu : ℕ} (hroom : kFragmentHeaderSize < mtu) (hmtu : mtu ≤ 68)
    {packet : List UInt8} (hpos : 0 < packet.length) (hsize : packet.length ≤ kMaximumPacketSize)
    (transferId : UInt16) :
    split mtu packet transferId =
      .ok ((List.range (List.chunkCount (mtu - kFragmentHeaderSize) packet.length)).map fun i =>
        (splitFragment (mtu - kFragmentHeaderSize)
          (List.chunkCount (mtu - kFragmentHeaderSize) packet.length)
            packet transferId i).frame) := by
  have hcapacity : 0 < mtu - kFragmentHeaderSize := Nat.sub_pos_of_lt hroom
  have hcount : ¬ 65535 < List.chunkCount (mtu - kFragmentHeaderSize) packet.length := by
    have := chunkCount_le (n := packet.length) hcapacity
    unfold kMaximumPacketSize at hsize
    omega
  have hframes := mapM_eq_ok fun i hi => encodeFragment_spec
    (splitFragment_encodable hroom hmtu hsize transferId (List.mem_range.1 hi))
  unfold split
  simp [List.ne_nil_of_length_pos hpos, Nat.not_lt.2 hsize, hcount, hframes]

end RemoteBSP
