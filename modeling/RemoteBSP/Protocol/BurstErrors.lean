import RemoteBSP.Lib.Crc
import RemoteBSP.Protocol.PacketCodec

/-!
# Burst errors

What the checksum of a packet detects. The register of `crc32.cpp` is a checksum with 32 bits and a
polynomial whose highest bit is set, so four bytes that have been changed leave a different register
behind, and the bytes after them keep it different. Damage that is confined to four bytes in a row
of what the checksum covers, or to the checksum itself, is therefore always detected
(`decode_of_burst`).
-/

namespace RemoteBSP

/-- The polynomial of the checksum. -/
def crcPolynomial : BitVec 32 := 0xEDB88320

/-- One bit of the checksum, on bit vectors. -/
theorem toBitVec_crcBit (crc : UInt32) :
    (crcBit crc).toBitVec = Crc.bit crcPolynomial crc.toBitVec := by
  have hmask : 0 - (crc.toBitVec &&& 1#32) =
      if crc.toBitVec.getLsbD 0 then BitVec.allOnes 32 else 0#32 := by
    rw [BitVec.and_one_eq_setWidth_ofBool_getLsbD]
    cases crc.toBitVec.getLsbD 0 <;> rfl
  have hbits : (crcBit crc).toBitVec = (crc.toBitVec >>> 1) ^^^
      (crcPolynomial &&& (0 - (crc.toBitVec &&& 1#32))) := rfl
  rw [hbits, hmask, Crc.bit]
  cases crc.toBitVec.getLsbD 0
  · exact congrArg _ BitVec.and_zero
  · exact congrArg _ BitVec.and_allOnes

/-- One byte of the checksum, on bit vectors. -/
theorem toBitVec_crcByte (crc : UInt32) (byte : UInt8) :
    (crcByte crc byte).toBitVec = Crc.byte crcPolynomial crc.toBitVec byte.toBitVec := by
  have hiterate : ∀ n crc, (crcBit^[n] crc).toBitVec =
      (Crc.bit crcPolynomial)^[n] crc.toBitVec :=
    fun n crc => Function.Semiconj.iterate_right toBitVec_crcBit n crc
  exact hiterate 8 _

/-- The checksum, on bit vectors. -/
theorem toBitVec_crc32 (data : List UInt8) : (crc32 data).toBitVec =
    ~~~Crc.bytes crcPolynomial (0xFFFFFFFF : UInt32).toBitVec (data.map UInt8.toBitVec) := by
  have hfold : ∀ crc : UInt32, (data.foldl crcByte crc).toBitVec =
      Crc.bytes crcPolynomial crc.toBitVec (data.map UInt8.toBitVec) := by
    induction data with
    | nil => exact fun _ => rfl
    | cons byte data ih =>
      intro crc
      rw [List.foldl_cons, ih, toBitVec_crcByte]
      rfl
  rw [crc32, UInt32.toBitVec_not, hfold]

/-- Four bytes that have been changed change the checksum. -/
theorem eq_of_crc32_eq {before after bytes bytes' : List UInt8} (hfour : bytes.length ≤ 4)
    (hlength : bytes'.length = bytes.length)
    (h : crc32 (before ++ bytes' ++ after) = crc32 (before ++ bytes ++ after)) :
    bytes' = bytes := by
  have hpoly : crcPolynomial.msb = true := by decide
  have hregister := congrArg UInt32.toBitVec h
  rw [toBitVec_crc32, toBitVec_crc32, BitVec.not_inj] at hregister
  simp only [List.map_append, Crc.bytes, List.foldl_append] at hregister
  have hblock := Crc.bytes_left_injective hpoly _ hregister
  have hfits : 8 * (bytes'.map UInt8.toBitVec).length ≤ 32 := by
    rw [List.length_map, hlength]
    omega
  have hmap := Crc.bytes_injective hpoly _ hfits (by simp [hlength]) hblock
  exact List.map_injective_iff.2 (fun _ _ => UInt8.toBitVec_inj.1) hmap

/-- The bytes that the checksum covers. -/
def crcInput (data : List UInt8) : List UInt8 := data.take 20 ++ data.drop kPacketHeaderSize

/-- The bytes of the checksum. -/
def crcField (data : List UInt8) : List UInt8 := (data.take kPacketHeaderSize).drop 20

/-- The bytes of `data'` and `data` are the same but for four bytes in a row of those that the
checksum covers, or but for the checksum. -/
def ConfinedDamage (data data' : List UInt8) : Prop :=
  (crcField data' = crcField data ∧
      ∃ k, ∀ i, i < k ∨ k + 4 ≤ i → (crcInput data')[i]? = (crcInput data)[i]?) ∨
    crcInput data' = crcInput data

/-- A list in three parts, of which the middle one is `n` long. -/
theorem eq_append_window (l : List UInt8) (k n : ℕ) :
    l = l.take k ++ (l.drop k).take n ++ l.drop (k + n) := by
  rw [List.append_assoc, ← List.drop_drop, List.take_append_drop, List.take_append_drop]

/-- Lists that agree outside of the middle part. -/
theorem eq_append_window_of_agree {l l' : List UInt8} {k n : ℕ}
    (h : ∀ i, i < k ∨ k + n ≤ i → l'[i]? = l[i]?) :
    l' = l.take k ++ (l'.drop k).take n ++ l.drop (k + n) := by
  have hbefore : l'.take k = l.take k := by
    refine List.ext_getElem? fun i => ?_
    rw [List.getElem?_take, List.getElem?_take]
    split_ifs with hi
    · exact h i (.inl hi)
    · rfl
  have hafter : l'.drop (k + n) = l.drop (k + n) := by
    refine List.ext_getElem? fun i => ?_
    rw [List.getElem?_drop, List.getElem?_drop]
    exact h _ (.inr (Nat.le_add_right _ _))
  rw [← hbefore, ← hafter]
  exact eq_append_window l' k n

/-- The bytes that are covered, and the checksum, are all bytes. -/
theorem eq_of_crcInput_eq {data data' : List UInt8} (hlength : data'.length = data.length)
    (hinput : crcInput data' = crcInput data) (hfield : crcField data' = crcField data) :
    data' = data := by
  have hfirst : (data'.take 20).length = (data.take 20).length := by
    rw [List.length_take, List.length_take, hlength]
  obtain ⟨htake, hdrop⟩ := List.append_inj hinput hfirst
  have hsplit : ∀ d : List UInt8, d = d.take 20 ++ crcField d ++ d.drop kPacketHeaderSize := by
    intro d
    have hheader : d.take 20 = (d.take kPacketHeaderSize).take 20 := by
      rw [List.take_take]
      rfl
    rw [crcField, hheader, List.take_append_drop, List.take_append_drop]
  rw [hsplit data', hsplit data, htake, hfield, hdrop]

/-- A packet that is accepted has the checksum of what it covers. -/
theorem crcField_of_decode {data : List UInt8} {packet : Packet}
    (h : decode data = .ok packet) : crcField data = putU32 (crc32 (crcInput data)) := by
  obtain ⟨_, -, hshort, -, -, -, hcrc, -⟩ := decode_eq_ok_iff_read.1 h
  rw [crcInput, hcrc, crcField, putU32_getU32, take_eq_map_byteAt hshort]
  rfl

/-- A packet with damage that is confined to four bytes in a row of what the checksum covers, or to
the checksum, is not accepted. -/
theorem decode_of_burst {packet : Packet} {data data' : List UInt8} (h : encode packet = .ok data)
    (hlength : data'.length = data.length) (hne : data' ≠ data)
    (hconfined : ConfinedDamage data data') : ∃ error, decode data' = .error error := by
  have hfield := crcField_of_decode (packet_codec_bijective.2.1 packet data h)
  cases hdecode : decode data' with
  | error error => exact ⟨error, rfl⟩
  | ok received =>
    have hfield' := crcField_of_decode hdecode
    refine absurd (eq_of_crcInput_eq hlength ?_ ?_) hne
    · -- The checksum is the same, so the four bytes have not been changed.
      rcases hconfined with ⟨hsame, k, hk⟩ | hsame
      · have hequal : crc32 (crcInput data') = crc32 (crcInput data) := by
          rw [← getU32_putU32 (crc32 (crcInput data')), ← hfield', hsame, hfield, getU32_putU32]
        have hcovered : (crcInput data').length = (crcInput data).length := by
          simp only [crcInput, List.length_append, List.length_take, List.length_drop, hlength]
        have hblock : (((crcInput data').drop k).take 4).length =
            (((crcInput data).drop k).take 4).length := by
          simp only [List.length_take, List.length_drop, hcovered]
        have hwindow := eq_append_window (crcInput data) k 4
        have hwindow' := eq_append_window_of_agree hk
        have hparts := congrArg₂ (fun d d' => crc32 d' = crc32 d) hwindow hwindow'
        rw [hwindow', eq_of_crc32_eq (List.length_take_le _ _) hblock (hparts.mp hequal), ← hwindow]
      · exact hsame
    · -- What is covered is the same, so the checksum has not been changed.
      rcases hconfined with ⟨hsame, -⟩ | hsame
      · exact hsame
      · rw [hfield', hfield, hsame]

/-- The packet of a request with a payload of eight bytes, of which four are inverted on the way. -/
def damagedRequest : Packet := ⟨{ command := Command.uartWrite }, [1, 2, 3, 4, 5, 6, 7, 8]⟩

/-- The bytes of the request, and the bytes that arrive. -/
def damagedBytes : List UInt8 × List UInt8 :=
  let data := packetBytes (damagedRequest.header.withLength damagedRequest.payload)
    damagedRequest.payload
  (data, data.take 26 ++ [0xFC, 0xFB, 0xFA, 0xF9] ++ data.drop 30)

/-- The damaged request is not accepted. -/
theorem decode_of_burst_inverted : ∃ error, decode damagedBytes.2 = .error error := by
  have hencode : encode damagedRequest = .ok damagedBytes.1 := by decide +kernel
  have hlength : damagedBytes.2.length = damagedBytes.1.length := by decide +kernel
  have hne : damagedBytes.2 ≠ damagedBytes.1 := by decide +kernel
  have hinside : ∀ i : Fin 28, (i.val < 22 ∨ 22 + 4 ≤ i.val) →
      (crcInput damagedBytes.2)[i.val]? = (crcInput damagedBytes.1)[i.val]? := by decide +kernel
  have hends : (crcInput damagedBytes.2).length = 28 ∧ (crcInput damagedBytes.1).length = 28 := by
    decide +kernel
  refine decode_of_burst hencode hlength hne (.inl ⟨by decide +kernel, 22, fun i hi => ?_⟩)
  by_cases hlt : i < 28
  · exact hinside ⟨i, hlt⟩ hi
  · rw [List.getElem?_eq_none (by omega), List.getElem?_eq_none (by omega)]

end RemoteBSP
