import RemoteBSP.Lib.Codec
import RemoteBSP.Lib.Loop
import RemoteBSP.Protocol.MotionPayload
import RemoteBSP.Protocol.PacketCodec

/-!
# The motion codecs are bijections

`motion_codecs_bijective`: each of the three motion payloads is read back as it was written, and
what is read is written again as it was. A payload is pictured by its bytes, a header and the
records of the axes; the encoder checks the payload and writes this picture, and the decoder makes
the same checks of what it reads from it.
-/

namespace RemoteBSP

/-! ## Two's complement -/

/-- The word that a value of `int32_t` is written as. -/
theorem toNat_ofInt32 (steps : ℤ) : (UInt32.ofInt steps).toNat = (steps % 2^32).toNat := by
  have hlt : (steps % 2^32).toNat < 2^32 := by omega
  exact UInt32.toNat_ofNat_of_lt' hlt

/-- The word that a value of `int64_t` is written as. -/
theorem toNat_ofInt64 (steps : ℤ) : (UInt64.ofInt steps).toNat = (steps % 2^64).toNat := by
  have hlt : (steps % 2^64).toNat < 2^64 := by omega
  exact UInt64.toNat_ofNat_of_lt' hlt

/-- What `decode_i32` reads is the signed number of the word. -/
theorem decodeI32_eq (value : UInt32) : decodeI32 value =
    if value.toNat < 2^31 then (value.toNat : ℤ) else (value.toNat : ℤ) - 2^32 := by
  have hlt := value.toNat_lt
  have hmax : (0x7FFFFFFF : UInt32).toNat = 2^31 - 1 := rfl
  have hall : value ≤ 0xFFFFFFFF := UInt32.le_iff_toNat_le.2 (Nat.le_of_lt_succ hlt)
  unfold decodeI32
  by_cases hle : value ≤ 0x7FFFFFFF
  · have hsmall := UInt32.le_iff_toNat_le.1 hle
    rw [if_pos hle, if_pos (by omega)]
  · have hlarge := mt UInt32.le_iff_toNat_le.2 hle
    rw [if_neg hle, if_neg (by omega), UInt32.toNat_sub_of_le _ _ hall]
    change -1 - ((2^32 - 1 - value.toNat : ℕ) : ℤ) = _
    omega

/-- What `decode_i64` reads is the signed number of the double word. -/
theorem decodeI64_eq (value : UInt64) : decodeI64 value =
    if value.toNat < 2^63 then (value.toNat : ℤ) else (value.toNat : ℤ) - 2^64 := by
  have hlt := value.toNat_lt
  have hmax : (0x7FFFFFFFFFFFFFFF : UInt64).toNat = 2^63 - 1 := rfl
  have hall : value ≤ 0xFFFFFFFFFFFFFFFF := UInt64.le_iff_toNat_le.2 (Nat.le_of_lt_succ hlt)
  unfold decodeI64
  by_cases hle : value ≤ 0x7FFFFFFFFFFFFFFF
  · have hsmall := UInt64.le_iff_toNat_le.1 hle
    rw [if_pos hle, if_pos (by omega)]
  · have hlarge := mt UInt64.le_iff_toNat_le.2 hle
    rw [if_neg hle, if_neg (by omega), UInt64.toNat_sub_of_le _ _ hall]
    change -1 - ((2^64 - 1 - value.toNat : ℕ) : ℤ) = _
    omega

/-- A value of `int32_t` is read back as it was written. -/
theorem decodeI32_ofInt {steps : ℤ} (hlow : -2^31 ≤ steps) (hhigh : steps < 2^31) :
    decodeI32 (UInt32.ofInt steps) = steps := by
  rw [decodeI32_eq, toNat_ofInt32]
  split <;> omega

/-- A value of `int64_t` is read back as it was written. -/
theorem decodeI64_ofInt {steps : ℤ} (hlow : -2^63 ≤ steps) (hhigh : steps < 2^63) :
    decodeI64 (UInt64.ofInt steps) = steps := by
  rw [decodeI64_eq, toNat_ofInt64]
  split <;> omega

/-- What `decode_i32` reads lies in the range of `int32_t`, and is written again as it was. -/
theorem decodeI32_spec (value : UInt32) : -2^31 ≤ decodeI32 value ∧ decodeI32 value < 2^31 ∧
    UInt32.ofInt (decodeI32 value) = value := by
  have hlt := value.toNat_lt
  rw [← UInt32.toNat_inj, toNat_ofInt32, decodeI32_eq]
  split
  · refine ⟨?_, ?_, ?_⟩ <;> omega
  · refine ⟨?_, ?_, ?_⟩ <;> omega

/-- What `decode_i64` reads lies in the range of `int64_t`, and is written again as it was. -/
theorem decodeI64_spec (value : UInt64) : -2^63 ≤ decodeI64 value ∧ decodeI64 value < 2^63 ∧
    UInt64.ofInt (decodeI64 value) = value := by
  have hlt := value.toNat_lt
  rw [← UInt64.toNat_inj, toNat_ofInt64, decodeI64_eq]
  split
  · refine ⟨?_, ?_, ?_⟩ <;> omega
  · refine ⟨?_, ?_, ?_⟩ <;> omega

/-! ## Segments -/

/-- A byte that is at most one is a flag. -/
theorem toUInt8_ne_zero {b : UInt8} (h : ¬b > 1) : (decide (b ≠ 0)).toUInt8 = b := by
  have hle : b.toNat ≤ 1 := UInt8.le_iff_toNat_le.1 (UInt8.not_lt.1 h)
  apply UInt8.toNat_inj.1
  by_cases hzero : b = 0
  · rw [hzero]
    rfl
  · have hne : b.toNat ≠ 0 := fun heq => hzero (UInt8.toNat_inj.1 heq)
    rw [decide_eq_true hzero]
    change 1 = b.toNat
    omega

/-- A move takes eight bytes on the wire. -/
theorem MotionAxisMovePayload.length_bytes (move : MotionAxisMovePayload) : move.bytes.length = 8 :=
  rfl

namespace MotionSegmentPayload

variable (segment : MotionSegmentPayload)

/-- The fields of a segment before its moves. -/
def header : List UInt8 :=
  putU32 segment.sequence ++ putU64 segment.startTimeNs ++ putU64 segment.durationNs ++
    [segment.finalSegment.toUInt8, UInt8.ofNat segment.axes.length] ++ putU16 0

/-- The bytes of a segment: its header, then its moves. -/
def bytes : List UInt8 := segment.header ++ segment.axes.flatMap MotionAxisMovePayload.bytes

/-- The steps of each move are a value of `int32_t`. -/
def InRange : Prop := ∀ move ∈ segment.axes, -2^31 ≤ move.steps ∧ move.steps < 2^31

/-- The segments that can be encoded. -/
structure Encodable : Prop where
  /-- The segment has a move. -/
  axes_pos : 0 < segment.axes.length
  /-- There are not too many moves. -/
  axes_le : segment.axes.length ≤ kMaximumMotionAxes
  /-- The number of the segment is not zero. -/
  sequence : segment.sequence ≠ 0
  /-- The segment takes some time. -/
  duration : segment.durationNs ≠ 0
  /-- Each move names an axis. -/
  axes : ∀ move ∈ segment.axes, move.resourceId ≠ 0

variable {segment}

/-- `encode_motion_segment` succeeds on what passes its checks, and writes its bytes. -/
theorem encode_eq_ok_iff {b : List UInt8} :
    encodeMotionSegment segment = .ok b ↔ segment.Encodable ∧ segment.bytes = b := by
  have hmapM : ∀ l, segment.axes.mapM encodeMotionMove = .ok l ↔
      (∀ move ∈ segment.axes, move.resourceId ≠ 0) ∧
        segment.axes.map MotionAxisMovePayload.bytes = l := fun _ => List.mapM_ite_ok_iff
  unfold encodeMotionSegment validateAxisCount
  simp only [bind, Except.bind, pure, Except.pure, throw, throwThe, MonadExceptOf.throw]
  by_cases hcount : segment.axes.length = 0 ∨ segment.axes.length > kMaximumMotionAxes
  · rw [if_pos hcount]
    refine ⟨nofun, fun h => ?_⟩
    rcases hcount with hzero | hmany
    · exact absurd hzero h.1.axes_pos.ne'
    · exact absurd hmany (not_lt.2 h.1.axes_le)
  rw [if_neg hcount]
  dsimp only
  by_cases hfields : segment.sequence = 0 ∨ segment.durationNs = 0
  · rw [if_pos hfields]
    refine ⟨nofun, fun h => ?_⟩
    rcases hfields with hsequence | hduration
    · exact absurd hsequence h.1.sequence
    · exact absurd hduration h.1.duration
  rw [if_neg hfields]
  obtain ⟨hpos, hle⟩ := not_or.1 hcount
  obtain ⟨hsequence, hduration⟩ := not_or.1 hfields
  cases hl : segment.axes.mapM encodeMotionMove with
  | error e =>
    refine ⟨nofun, fun h => ?_⟩
    have hok := (hmapM _).2 ⟨h.1.axes, rfl⟩
    rw [hl] at hok
    cases hok
  | ok l =>
    obtain ⟨haxes, rfl⟩ := (hmapM l).1 hl
    dsimp only
    rw [← List.flatMap_def]
    exact ⟨fun h => ⟨⟨Nat.pos_of_ne_zero hpos, not_lt.1 hle, hsequence, hduration, haxes⟩,
      Except.ok.inj h⟩, fun h => congrArg Except.ok h.2⟩

/-- The moves of a segment, read at their offsets. -/
theorem read_axes : (List.range segment.axes.length).map (fun index =>
    (⟨getU32 segment.bytes (kSegmentHeaderSize + index * kMoveSize),
      decodeI32 (getU32 segment.bytes (kSegmentHeaderSize + index * kMoveSize + 4))⟩ :
        MotionAxisMovePayload)) =
    segment.axes.map fun move => ⟨move.resourceId, decodeI32 (UInt32.ofInt move.steps)⟩ := by
  refine List.ext_getElem (by simp) fun k hk hk' => ?_
  rw [List.getElem_map, List.getElem_map, List.getElem_range]
  have hlt : k < segment.axes.length := by rwa [List.length_map] at hk'
  have hmove : StandsAt segment.bytes (kSegmentHeaderSize + k * kMoveSize) segment.axes[k].bytes :=
    standsAt_flatMap MotionAxisMovePayload.length_bytes segment.header segment.axes hlt
  have hresource := (hmove.part (show segment.axes[k].bytes =
    [] ++ putU32 segment.axes[k].resourceId ++ _ from rfl)).readU32
  have hsteps := (hmove.part (show segment.axes[k].bytes =
    putU32 segment.axes[k].resourceId ++ _ ++ [] from rfl)).readU32
  rw [List.length_nil, Nat.add_zero] at hresource
  rw [length_putU32] at hsteps
  rw [hresource, hsteps]

/-- A segment takes its header and eight bytes for each move. -/
theorem length_bytes :
    segment.bytes.length = kSegmentHeaderSize + segment.axes.length * kMoveSize := by
  have hmoves : (segment.axes.flatMap MotionAxisMovePayload.bytes).length =
      segment.axes.length * 8 := by
    rw [List.length_flatMap, List.map_congr_left fun move _ => move.length_bytes, List.map_const',
      List.sum_replicate, smul_eq_mul]
  rw [bytes, List.length_append, hmoves]
  rfl

/-- `decode_motion_segment` reads what has been written. -/
theorem decode_bytes (hrange : segment.InRange) (h : segment.Encodable) :
    decodeMotionSegment segment.bytes = .ok segment := by
  -- The fields of the header stand at their offsets.
  have hcount : (byteAt segment.bytes 21).toNat = segment.axes.length :=
    UInt8.toNat_ofNat_of_lt' (lt_of_le_of_lt h.axes_le (by decide))
  have hlong : ¬segment.bytes.length < kSegmentHeaderSize := by
    rw [length_bytes]
    omega
  have h0 : getU32 segment.bytes 0 = segment.sequence := getU32_eq_of_bytes rfl rfl rfl rfl
  have h4 : getU64 segment.bytes 4 = segment.startTimeNs :=
    getU64_eq_of_bytes rfl rfl rfl rfl rfl rfl rfl rfl
  have h12 : getU64 segment.bytes 12 = segment.durationNs :=
    getU64_eq_of_bytes rfl rfl rfl rfl rfl rfl rfl rfl
  have h20 : byteAt segment.bytes 20 = segment.finalSegment.toUInt8 := rfl
  have h22 : getU16 segment.bytes 22 = 0 := getU16_eq_of_bytes rfl rfl
  have hfinal : ¬segment.finalSegment.toUInt8 > 1 ∧
      decide (segment.finalSegment.toUInt8 ≠ 0) = segment.finalSegment := by
    cases segment.finalSegment <;> decide
  -- The records of the axes follow, and each is read as it was written.
  have haxes : (List.range segment.axes.length).mapM (fun index =>
      decodeMotionMove segment.bytes (kSegmentHeaderSize + index * kMoveSize)) =
        .ok segment.axes := by
    refine List.mapM_ite_ok_iff.2 ⟨fun index hindex hzero => ?_, ?_⟩
    · have hmem := List.mem_map_of_mem (f := fun index => (⟨getU32 segment.bytes
        (kSegmentHeaderSize + index * kMoveSize), decodeI32 (getU32 segment.bytes
        (kSegmentHeaderSize + index * kMoveSize + 4))⟩ : MotionAxisMovePayload)) hindex
      rw [read_axes] at hmem
      obtain ⟨move, hmove, heq⟩ := List.mem_map.1 hmem
      exact h.axes move hmove ((congrArg MotionAxisMovePayload.resourceId heq).trans hzero)
    · rw [read_axes]
      conv_rhs => rw [← List.map_id segment.axes]
      refine List.map_congr_left fun move hmove => ?_
      rw [decodeI32_ofInt (hrange move hmove).1 (hrange move hmove).2]
      rfl
  have hvalid : ¬(segment.bytes.length ≠ kSegmentHeaderSize + segment.axes.length * kMoveSize ∨
      segment.finalSegment.toUInt8 > 1 ∨ (0 : UInt16) ≠ 0) :=
    not_or.2 ⟨not_not.2 length_bytes, not_or.2 ⟨hfinal.1, not_not.2 rfl⟩⟩
  have hcounted : ¬(segment.axes.length = 0 ∨ segment.axes.length > kMaximumMotionAxes) :=
    not_or.2 ⟨h.axes_pos.ne', not_lt.2 h.axes_le⟩
  have hfields : ¬(segment.sequence = 0 ∨ segment.durationNs = 0) :=
    not_or.2 ⟨h.sequence, h.duration⟩
  -- No check of the decoder applies.
  unfold decodeMotionSegment validateAxisCount
  simp only [bind, Except.bind, pure, Except.pure, throw, throwThe, MonadExceptOf.throw]
  rw [if_neg hlong, hcount, if_neg hcounted]
  dsimp only
  rw [h0, h4, h12, h20, h22, if_neg hvalid, if_neg hfields, haxes, hfinal.2]

/-- What `decode_motion_segment` accepts is a segment. -/
theorem bytes_of_decode {b : List UInt8} (h : decodeMotionSegment b = .ok segment) :
    segment.InRange ∧ segment.Encodable ∧ segment.bytes = b := by
  unfold decodeMotionSegment validateAxisCount at h
  simp only [bind, Except.bind, pure, Except.pure, throw, throwThe, MonadExceptOf.throw] at h
  -- Each check that the decoder makes rules out one kind of wrong segment.
  by_cases hshort : b.length < kSegmentHeaderSize
  · rw [if_pos hshort] at h
    cases h
  rw [if_neg hshort] at h
  generalize hcount : (byteAt b 21).toNat = count at h
  by_cases hcounted : count = 0 ∨ count > kMaximumMotionAxes
  · rw [if_pos hcounted] at h
    cases h
  rw [if_neg hcounted] at h
  dsimp only at h
  by_cases hlayout : b.length ≠ kSegmentHeaderSize + count * kMoveSize ∨ byteAt b 20 > 1 ∨
      getU16 b 22 ≠ 0
  · rw [if_pos hlayout] at h
    cases h
  rw [if_neg hlayout] at h
  by_cases hfields : getU32 b 0 = 0 ∨ getU64 b 12 = 0
  · rw [if_pos hfields] at h
    cases h
  rw [if_neg hfields] at h
  obtain ⟨hpos, hle⟩ := not_or.1 hcounted
  obtain ⟨hlength, hfinal, hreserved⟩ : b.length = kSegmentHeaderSize + count * kMoveSize ∧
      ¬byteAt b 20 > 1 ∧ getU16 b 22 = 0 := by
    simpa only [not_or, not_not] using hlayout
  obtain ⟨hsequence, hduration⟩ := not_or.1 hfields
  -- The records are read in order, and each of them names an axis.
  split at h
  · cases h
  · next axes haxes =>
    obtain ⟨hgood, rfl⟩ := List.mapM_ite_ok_iff.1 haxes
    obtain rfl := Except.ok.inj h
    have haxesLength : ∀ f : ℕ → MotionAxisMovePayload,
        ((List.range count).map f).length = count := fun f => by
      rw [List.length_map, List.length_range]
    refine ⟨?_, ⟨?_, ?_, hsequence, hduration, ?_⟩, ?_⟩
    · intro move hmove
      obtain ⟨index, -, rfl⟩ := List.mem_map.1 hmove
      exact ⟨(decodeI32_spec _).1, (decodeI32_spec _).2.1⟩
    · exact (haxesLength _).symm ▸ Nat.pos_of_ne_zero hpos
    · exact (haxesLength _).symm ▸ not_lt.1 hle
    · intro move hmove
      obtain ⟨index, hindex, rfl⟩ := List.mem_map.1 hmove
      exact hgood index hindex
    · -- The header, and one record for each index.
      have hrecords := eq_records hlength
      have hheader : b.take kSegmentHeaderSize = (List.range kSegmentHeaderSize).map (byteAt b) :=
        take_eq_map_byteAt (not_lt.1 hshort)
      have hsize : UInt8.ofNat count = byteAt b 21 := by rw [← hcount, UInt8.ofNat_toNat]
      have hflag : (decide (byteAt b 20 ≠ 0)).toUInt8 = byteAt b 20 := toUInt8_ne_zero hfinal
      refine Eq.trans ?_ hrecords.symm
      rw [hheader, bytes, header]
      simp only [putU32_getU32, putU64_getU64, haxesLength, hsize, hflag, ← hreserved,
        putU16_getU16]
      refine congrArg₂ _ rfl ?_
      rw [List.flatMap_map]
      refine List.flatMap_congr fun index _ => ?_
      rw [MotionAxisMovePayload.bytes, putU32_getU32, (decodeI32_spec _).2.2, putU32_getU32]
      rfl

end MotionSegmentPayload

/-! ## Acceptances -/

namespace MotionAcceptancePayload

variable (acceptance : MotionAcceptancePayload)

/-- The bytes of an acceptance, in the layout of a segment without moves. -/
def bytes : List UInt8 :=
  putU32 acceptance.sequence ++ putU64 acceptance.startTimeNs ++ putU64 acceptance.durationNs ++
    [acceptance.finalSegment.toUInt8, 0] ++ putU16 0

/-- The acceptances that can be encoded. -/
def Encodable : Prop := acceptance.sequence ≠ 0 ∧ acceptance.durationNs ≠ 0

variable {acceptance}

/-- `encode_motion_acceptance` succeeds on what passes its checks, and writes its bytes. -/
theorem encode_eq_ok_iff {b : List UInt8} :
    encodeMotionAcceptance acceptance = .ok b ↔ acceptance.Encodable ∧ acceptance.bytes = b := by
  unfold encodeMotionAcceptance
  by_cases hfields : acceptance.sequence = 0 ∨ acceptance.durationNs = 0
  · rw [if_pos hfields]
    refine ⟨nofun, fun h => ?_⟩
    rcases hfields with hsequence | hduration
    · exact absurd hsequence h.1.1
    · exact absurd hduration h.1.2
  · rw [if_neg hfields]
    exact ⟨fun h => ⟨not_or.1 hfields, Except.ok.inj h⟩, fun h => congrArg Except.ok h.2⟩

/-- `decode_motion_acceptance` reads what has been written. -/
theorem decode_bytes (h : acceptance.Encodable) :
    decodeMotionAcceptance acceptance.bytes = .ok acceptance := by
  have h0 : getU32 acceptance.bytes 0 = acceptance.sequence := getU32_eq_of_bytes rfl rfl rfl rfl
  have h4 : getU64 acceptance.bytes 4 = acceptance.startTimeNs :=
    getU64_eq_of_bytes rfl rfl rfl rfl rfl rfl rfl rfl
  have h12 : getU64 acceptance.bytes 12 = acceptance.durationNs :=
    getU64_eq_of_bytes rfl rfl rfl rfl rfl rfl rfl rfl
  have h20 : byteAt acceptance.bytes 20 = acceptance.finalSegment.toUInt8 := rfl
  have h21 : byteAt acceptance.bytes 21 = 0 := rfl
  have h22 : getU16 acceptance.bytes 22 = 0 := getU16_eq_of_bytes rfl rfl
  have hlength : acceptance.bytes.length = kSegmentHeaderSize := rfl
  have hfinal : ¬acceptance.finalSegment.toUInt8 > 1 ∧
      decide (acceptance.finalSegment.toUInt8 ≠ 0) = acceptance.finalSegment := by
    cases acceptance.finalSegment <;> decide
  have hvalid : ¬(kSegmentHeaderSize ≠ kSegmentHeaderSize ∨ acceptance.finalSegment.toUInt8 > 1 ∨
      (0 : UInt8) ≠ 0 ∨ (0 : UInt16) ≠ 0) := by
    simp only [ne_eq, not_true, hfinal.1, or_false, not_false_eq_true]
  unfold decodeMotionAcceptance
  simp only [bind, Except.bind, pure, Except.pure, throw, throwThe, MonadExceptOf.throw]
  rw [hlength, h0, h4, h12, h20, h21, h22, if_neg hvalid, if_neg (not_or.2 h), hfinal.2]

/-- What `decode_motion_acceptance` accepts is an acceptance. -/
theorem bytes_of_decode {b : List UInt8} (h : decodeMotionAcceptance b = .ok acceptance) :
    acceptance.Encodable ∧ acceptance.bytes = b := by
  unfold decodeMotionAcceptance at h
  simp only [bind, Except.bind, pure, Except.pure, throw, throwThe, MonadExceptOf.throw] at h
  by_cases hlayout : b.length ≠ kSegmentHeaderSize ∨ byteAt b 20 > 1 ∨ byteAt b 21 ≠ 0 ∨
      getU16 b 22 ≠ 0
  · rw [if_pos hlayout] at h
    cases h
  rw [if_neg hlayout] at h
  by_cases hfields : getU32 b 0 = 0 ∨ getU64 b 12 = 0
  · rw [if_pos hfields] at h
    cases h
  rw [if_neg hfields] at h
  obtain rfl := Except.ok.inj h
  obtain ⟨hlength, hfinal, hzero, hreserved⟩ : b.length = kSegmentHeaderSize ∧
      ¬byteAt b 20 > 1 ∧ byteAt b 21 = 0 ∧ getU16 b 22 = 0 := by
    simpa only [not_or, not_not] using hlayout
  refine ⟨not_or.1 hfields, ?_⟩
  have hflag : (decide (byteAt b 20 ≠ 0)).toUInt8 = byteAt b 20 := toUInt8_ne_zero hfinal
  refine Eq.trans ?_ (eq_map_byteAt hlength).symm
  have hpair : [(decide (byteAt b 20 ≠ 0)).toUInt8, 0] = [byteAt b 20, byteAt b 21] := by
    rw [hflag, hzero]
  rw [bytes, putU32_getU32, putU64_getU64, putU64_getU64, hpair, ← hreserved, putU16_getU16]
  rfl

end MotionAcceptancePayload

/-! ## States -/

namespace MotionAxisStatusPayload

/-- The bytes of an axis in a status. -/
def bytes (axis : MotionAxisStatusPayload) : List UInt8 :=
  putU32 axis.resourceId ++ [axis.flags, 0, 0, 0] ++ putU64 (UInt64.ofInt axis.positionSteps) ++
    putU64 axis.emittedSteps

/-- An axis takes 24 bytes in a status. -/
theorem length_bytes (axis : MotionAxisStatusPayload) : axis.bytes.length = 24 := rfl

/-- The flags, as they are read. -/
theorem flags_spec (axis : MotionAxisStatusPayload) : ¬axis.flags.toUInt32 > 0x07 ∧
    decide (axis.flags &&& 0x01 ≠ 0) = axis.enabled ∧
    decide (axis.flags &&& 0x02 ≠ 0) = axis.directionPositive ∧
    decide (axis.flags &&& 0x04 ≠ 0) = axis.stepLevel := by
  unfold flags
  cases axis.enabled <;> cases axis.directionPositive <;> cases axis.stepLevel <;> decide

end MotionAxisStatusPayload

/-- The flags that have been read, put together again. -/
theorem flags_of_le {b : UInt8} (h : b ≤ 7) :
    (if decide (b &&& 0x01 ≠ 0) = true then 0x01 else 0) |||
      (if decide (b &&& 0x02 ≠ 0) = true then 0x02 else 0) |||
      (if decide (b &&& 0x04 ≠ 0) = true then 0x04 else 0) = b := by
  have hall : ∀ n : Fin 8,
      (if decide (UInt8.ofNat n.val &&& 0x01 ≠ 0) = true then 0x01 else 0) |||
        (if decide (UInt8.ofNat n.val &&& 0x02 ≠ 0) = true then 0x02 else 0) |||
        (if decide (UInt8.ofNat n.val &&& 0x04 ≠ 0) = true then 0x04 else 0) =
      UInt8.ofNat n.val := by decide
  have hlt := hall ⟨b.toNat, Nat.lt_succ_of_le (UInt8.le_iff_toNat_le.1 h)⟩
  rwa [UInt8.ofNat_toNat] at hlt

/-- The lowest byte of a word comes first. -/
theorem putU32_toUInt32 (b : UInt8) : putU32 b.toUInt32 = [b, 0, 0, 0] := by
  have hlt := b.toNat_lt
  simp only [putU32, List.cons.injEq, ← UInt8.toNat_inj, UInt32.toNat_toUInt8,
    UInt32.toNat_shiftRight, UInt32.reduceToNat, Nat.reduceMod, Nat.shiftRight_eq_div_pow,
    UInt8.toNat_toUInt32, UInt8.toNat_zero, and_true]
  refine ⟨?_, ?_, ?_, ?_⟩ <;> omega

/-- A word that is small has one byte. -/
theorem bytes_of_getU32_le {data : List UInt8} {i : ℕ} (h : ¬getU32 data i > 0x07) :
    byteAt data i ≤ 7 ∧ byteAt data (i + 1) = 0 ∧ byteAt data (i + 2) = 0 ∧
      byteAt data (i + 3) = 0 := by
  have hle : (getU32 data i).toNat ≤ 7 := UInt32.le_iff_toNat_le.1 (UInt32.not_lt.1 h)
  rw [toNat_getU32] at hle
  simp only [UInt8.le_iff_toNat_le, ← UInt8.toNat_inj, UInt8.toNat_zero, UInt8.reduceToNat]
  refine ⟨?_, ?_, ?_, ?_⟩ <;> omega

namespace MotionStatusPayload

variable (status : MotionStatusPayload)

/-- The bytes of a status before its axes. -/
def header : List UInt8 :=
  [status.state, status.fault, UInt8.ofNat status.axes.length, 0] ++
    putU64 status.nodeTimeNs ++ putU16 status.queueDepth ++ putU16 status.queueCapacity ++
    putU32 status.lastAcceptedSequence ++ putU32 status.lastCompletedSequence ++
    putU64 status.metrics.acceptedSegments ++ putU64 status.metrics.rejectedSegments ++
    putU64 status.metrics.completedSegments ++ putU64 status.metrics.emittedEdges ++
    putU64 status.metrics.emittedSteps ++ putU64 status.metrics.safetyStops ++
    putU64 status.metrics.limitStops ++ putU64 status.metrics.queueUnderruns ++
    putU16 status.metrics.maximumQueueDepth ++ putU16 0

/-- The bytes of a status: its header, then its axes. -/
def bytes : List UInt8 := status.header ++ status.axes.flatMap MotionAxisStatusPayload.bytes

/-- The enumerations have one of their values, and the positions are values of `int64_t`. -/
structure InRange : Prop where
  /-- The state is one of the four. -/
  state : status.state ≤ 3
  /-- The fault is one of the four. -/
  fault : status.fault ≤ 3
  /-- The positions are values of `int64_t`. -/
  positions : ∀ axis ∈ status.axes, -2^63 ≤ axis.positionSteps ∧ axis.positionSteps < 2^63

/-- The states that can be encoded. -/
structure Encodable : Prop where
  /-- The status has an axis. -/
  axes_pos : 0 < status.axes.length
  /-- There are not too many axes. -/
  axes_le : status.axes.length ≤ kMaximumMotionAxes
  /-- The queue holds no more segments than it has room for. -/
  depth : status.queueDepth ≤ status.queueCapacity
  /-- The queue has never held more segments than it has room for. -/
  maximum : status.metrics.maximumQueueDepth ≤ status.queueCapacity
  /-- Each axis has an ID. -/
  axes : ∀ axis ∈ status.axes, axis.resourceId ≠ 0

variable {status}

/-- `encode_motion_status` succeeds on what passes its checks, and writes its bytes. -/
theorem encode_eq_ok_iff {b : List UInt8} :
    encodeMotionStatus status = .ok b ↔ status.Encodable ∧ status.bytes = b := by
  have hmapM : ∀ l, status.axes.mapM encodeMotionAxisStatus = .ok l ↔
      (∀ axis ∈ status.axes, axis.resourceId ≠ 0) ∧
        status.axes.map MotionAxisStatusPayload.bytes = l := fun _ => List.mapM_ite_ok_iff
  unfold encodeMotionStatus validateAxisCount
  simp only [bind, Except.bind, pure, Except.pure, throw, throwThe, MonadExceptOf.throw]
  by_cases hcount : status.axes.length = 0 ∨ status.axes.length > kMaximumMotionAxes
  · rw [if_pos hcount]
    refine ⟨nofun, fun h => ?_⟩
    rcases hcount with hzero | hmany
    · exact absurd hzero h.1.axes_pos.ne'
    · exact absurd hmany (not_lt.2 h.1.axes_le)
  rw [if_neg hcount]
  dsimp only
  by_cases hdepths : status.queueDepth > status.queueCapacity ∨
      status.metrics.maximumQueueDepth > status.queueCapacity
  · rw [if_pos hdepths]
    refine ⟨nofun, fun h => ?_⟩
    rcases hdepths with hdepth | hmaximum
    · exact absurd hdepth (UInt16.not_lt.2 h.1.depth)
    · exact absurd hmaximum (UInt16.not_lt.2 h.1.maximum)
  rw [if_neg hdepths]
  obtain ⟨hpos, hle⟩ := not_or.1 hcount
  obtain ⟨hdepth, hmaximum⟩ := not_or.1 hdepths
  cases hl : status.axes.mapM encodeMotionAxisStatus with
  | error e =>
    refine ⟨nofun, fun h => ?_⟩
    have hok := (hmapM _).2 ⟨h.1.axes, rfl⟩
    rw [hl] at hok
    cases hok
  | ok l =>
    obtain ⟨haxes, rfl⟩ := (hmapM l).1 hl
    dsimp only
    rw [← List.flatMap_def]
    exact ⟨fun h => ⟨⟨Nat.pos_of_ne_zero hpos, not_lt.1 hle, UInt16.not_lt.1 hdepth,
      UInt16.not_lt.1 hmaximum, haxes⟩, Except.ok.inj h⟩, fun h => congrArg Except.ok h.2⟩

/-- The length of the fields before the axes. -/
theorem length_header : status.header.length = kStatusHeaderSize := by
  simp [header, kStatusHeaderSize]

/-- A status takes its header and 24 bytes for each axis. -/
theorem length_bytes :
    status.bytes.length = kStatusHeaderSize + status.axes.length * kAxisStatusSize := by
  rw [bytes, List.length_append, length_header, List.length_flatMap,
    List.map_congr_left fun axis _ => axis.length_bytes, List.map_const', List.sum_replicate,
    smul_eq_mul]
  rfl

/-- The fields before the axes are read as they were written. -/
theorem header_bytes :
    decodeMotionStatusHeader status.bytes = { status with axes := [] } := by
  simp [decodeMotionStatusHeader, bytes, header]

/-- The first bytes, and the reserved field. -/
theorem checked_bytes : byteAt status.bytes 0 = status.state ∧
    byteAt status.bytes 1 = status.fault ∧
    byteAt status.bytes 2 = UInt8.ofNat status.axes.length ∧
    byteAt status.bytes 3 = 0 ∧ getU16 status.bytes 90 = 0 := by
  simp [bytes, header]

/-- An axis of a status, as it is read at its offset. -/
def axisAt (b : List UInt8) (entry : ℕ) : MotionAxisStatusPayload where
  resourceId := getU32 b entry
  enabled := byteAt b (entry + 4) &&& 0x01 ≠ 0
  directionPositive := byteAt b (entry + 4) &&& 0x02 ≠ 0
  stepLevel := byteAt b (entry + 4) &&& 0x04 ≠ 0
  positionSteps := decodeI64 (getU64 b (entry + 8))
  emittedSteps := getU64 b (entry + 16)

/-- An axis is read as it was written. -/
theorem axisAt_of_standsAt {b : List UInt8} {entry : ℕ} {axis : MotionAxisStatusPayload}
    (h : StandsAt b entry axis.bytes)
    (hposition : -2^63 ≤ axis.positionSteps ∧ axis.positionSteps < 2^63) :
    axisAt b entry = axis ∧ ¬getU32 b (entry + 4) > 0x07 := by
  have hresource := (h.part (show axis.bytes = [] ++ putU32 axis.resourceId ++ _ from rfl)).readU32
  have hsplit : axis.bytes = putU32 axis.resourceId ++ putU32 axis.flags.toUInt32 ++
      (putU64 (UInt64.ofInt axis.positionSteps) ++ putU64 axis.emittedSteps) := by
    rw [putU32_toUInt32]
    rfl
  have hflags := h.part hsplit
  have hword := hflags.readU32
  have hbyte : byteAt b (entry + 4) = axis.flags := h 4 (by rw [axis.length_bytes]; decide)
  have hsteps := (h.part (show axis.bytes = (putU32 axis.resourceId ++ [axis.flags, 0, 0, 0]) ++
    putU64 (UInt64.ofInt axis.positionSteps) ++ _ from rfl)).readU64
  have hemitted := (h.part (show axis.bytes = (putU32 axis.resourceId ++ [axis.flags, 0, 0, 0] ++
    putU64 (UInt64.ofInt axis.positionSteps)) ++ putU64 axis.emittedSteps ++ [] from rfl)).readU64
  rw [List.length_nil, Nat.add_zero] at hresource
  rw [length_putU32] at hword
  rw [show (putU32 axis.resourceId ++ [axis.flags, 0, 0, 0]).length = 8 from rfl] at hsteps
  rw [show (putU32 axis.resourceId ++ [axis.flags, 0, 0, 0] ++
    putU64 (UInt64.ofInt axis.positionSteps)).length = 16 from rfl] at hemitted
  obtain ⟨hsmall, henabled, hpositive, hlevel⟩ := axis.flags_spec
  refine ⟨?_, hword ▸ hsmall⟩
  rw [axisAt, hresource, hbyte, henabled, hpositive, hlevel, hsteps, hemitted,
    decodeI64_ofInt hposition.1 hposition.2]

/-- `decode_motion_status` reads what has been written. -/
theorem decode_bytes (hrange : status.InRange) (h : status.Encodable) :
    decodeMotionStatus status.bytes = .ok status := by
  obtain ⟨h0, h1, hcount, h3, h90⟩ := status.checked_bytes
  have haxes : status.axes.length < 256 := lt_of_le_of_lt h.axes_le (by decide)
  have hlong : ¬status.bytes.length < kStatusHeaderSize := by
    rw [length_bytes]
    omega
  have hcounted : ¬(status.axes.length = 0 ∨ status.axes.length > kMaximumMotionAxes) :=
    not_or.2 ⟨h.axes_pos.ne', not_lt.2 h.axes_le⟩
  have hlayout : ¬(status.state > 3 ∨ status.fault > 3 ∨ (0 : UInt8) ≠ 0 ∨
      kStatusHeaderSize + status.axes.length * kAxisStatusSize ≠
        kStatusHeaderSize + status.axes.length * kAxisStatusSize ∨ (0 : UInt16) ≠ 0) := by
    simp only [ne_eq, not_true, or_false, not_or]
    exact ⟨UInt8.not_lt.2 hrange.state, UInt8.not_lt.2 hrange.fault⟩
  have hdepths : ¬(status.queueDepth > status.queueCapacity ∨
      status.metrics.maximumQueueDepth > status.queueCapacity) :=
    not_or.2 ⟨UInt16.not_lt.2 h.depth, UInt16.not_lt.2 h.maximum⟩
  have hstands : ∀ k (hk : k < status.axes.length),
      StandsAt status.bytes (kStatusHeaderSize + k * kAxisStatusSize) status.axes[k].bytes := by
    intro k hk
    have hall := standsAt_flatMap MotionAxisStatusPayload.length_bytes status.header status.axes hk
    rwa [length_header] at hall
  have hread : (List.range status.axes.length).mapM (fun index => decodeMotionAxisStatus
      status.bytes (kStatusHeaderSize + index * kAxisStatusSize)) = .ok status.axes := by
    refine List.mapM_ite_ok_iff.2 ⟨fun index hindex hbad => ?_, ?_⟩
    · have hlt := List.mem_range.1 hindex
      have hmem := List.getElem_mem hlt
      obtain ⟨heq, hsmall⟩ := axisAt_of_standsAt (hstands index hlt) (hrange.positions _ hmem)
      rcases hbad with hlarge | hzero
      · exact hsmall hlarge
      · exact h.axes _ hmem ((congrArg MotionAxisStatusPayload.resourceId heq).symm.trans hzero)
    · refine List.ext_getElem (by simp) fun k hk hk' => ?_
      rw [List.getElem_map, List.getElem_range]
      exact (axisAt_of_standsAt (hstands k hk') (hrange.positions _ (List.getElem_mem hk'))).1
  unfold decodeMotionStatus validateAxisCount
  simp only [bind, Except.bind, pure, Except.pure, throw, throwThe, MonadExceptOf.throw]
  rw [if_neg hlong, hcount, UInt8.toNat_ofNat_of_lt' haxes, if_neg hcounted]
  dsimp only
  rw [h0, h1, h3, h90, length_bytes, header_bytes, if_neg hlayout]
  dsimp only
  rw [if_neg hdepths, hread]

/-- What `decode_motion_status` accepts is a status. -/
theorem bytes_of_decode {b : List UInt8} (h : decodeMotionStatus b = .ok status) :
    status.InRange ∧ status.Encodable ∧ status.bytes = b := by
  unfold decodeMotionStatus validateAxisCount at h
  simp only [bind, Except.bind, pure, Except.pure, throw, throwThe, MonadExceptOf.throw] at h
  by_cases hshort : b.length < kStatusHeaderSize
  · rw [if_pos hshort] at h
    cases h
  rw [if_neg hshort] at h
  generalize hcount : (byteAt b 2).toNat = count at h
  by_cases hcounted : count = 0 ∨ count > kMaximumMotionAxes
  · rw [if_pos hcounted] at h
    cases h
  rw [if_neg hcounted] at h
  dsimp only at h
  by_cases hlayout : byteAt b 0 > 3 ∨ byteAt b 1 > 3 ∨ byteAt b 3 ≠ 0 ∨
      b.length ≠ kStatusHeaderSize + count * kAxisStatusSize ∨ getU16 b 90 ≠ 0
  · rw [if_pos hlayout] at h
    cases h
  rw [if_neg hlayout] at h
  by_cases hdepths : (decodeMotionStatusHeader b).queueDepth >
      (decodeMotionStatusHeader b).queueCapacity ∨
      (decodeMotionStatusHeader b).metrics.maximumQueueDepth >
        (decodeMotionStatusHeader b).queueCapacity
  · rw [if_pos hdepths] at h
    cases h
  rw [if_neg hdepths] at h
  -- What has passed the checks has a layout and depths that the encoder accepts.
  obtain ⟨hpos, hle⟩ := not_or.1 hcounted
  obtain ⟨hstate, hfault, hzero, hlength, hreserved⟩ : ¬byteAt b 0 > 3 ∧ ¬byteAt b 1 > 3 ∧
      byteAt b 3 = 0 ∧ b.length = kStatusHeaderSize + count * kAxisStatusSize ∧
      getU16 b 90 = 0 := by
    simpa only [not_or, not_not] using hlayout
  obtain ⟨hdepth, hmaximum⟩ := not_or.1 hdepths
  split at h
  · cases h
  · next axes haxes =>
    -- The records are read in order, and none of them has an unknown flag.
    obtain ⟨hgood, rfl⟩ := List.mapM_ite_ok_iff.1 haxes
    obtain rfl := Except.ok.inj h
    have haxesLength : ∀ f : ℕ → MotionAxisStatusPayload,
        ((List.range count).map f).length = count := fun f => by
      rw [List.length_map, List.length_range]
    refine ⟨⟨UInt8.not_lt.1 hstate, UInt8.not_lt.1 hfault, ?_⟩, ⟨?_, ?_, UInt16.not_lt.1 hdepth,
      UInt16.not_lt.1 hmaximum, ?_⟩, ?_⟩
    · intro axis haxis
      obtain ⟨index, -, rfl⟩ := List.mem_map.1 haxis
      exact ⟨(decodeI64_spec _).1, (decodeI64_spec _).2.1⟩
    · exact (haxesLength _).symm ▸ Nat.pos_of_ne_zero hpos
    · exact (haxesLength _).symm ▸ not_lt.1 hle
    · intro axis haxis
      obtain ⟨index, hindex, rfl⟩ := List.mem_map.1 haxis
      exact (not_or.1 (hgood index hindex)).2
    · -- The header, and one record for each index.
      refine Eq.trans ?_ (eq_records hlength).symm
      have hlong : 92 ≤ b.length := not_lt.1 hshort
      have hfirst : [byteAt b 0, byteAt b 1, UInt8.ofNat count, 0] = b.take 4 := by
        rw [← hcount, UInt8.ofNat_toNat, ← hzero]
        have hfour : 4 ≤ b.length := by omega
        exact (take_eq_map_byteAt hfour).symm
      rw [bytes, header, haxesLength]
      dsimp only [decodeMotionStatusHeader]
      rw [hfirst, ← hreserved]
      simp (disch := omega) only [take_append_putU16, take_append_putU32, take_append_putU64,
        Nat.reduceAdd]
      refine congrArg _ ?_
      rw [List.flatMap_map]
      refine List.flatMap_congr fun index hindex => ?_
      -- Only three flags are known, so that the other bytes of the word are zero.
      obtain ⟨hsmall, h1, h2, h3⟩ := bytes_of_getU32_le (not_or.1 (hgood index hindex)).1
      have hflags : [byteAt b (kStatusHeaderSize + index * kAxisStatusSize + 4), 0, 0, 0] =
          (List.range 4).map fun i =>
            byteAt b (kStatusHeaderSize + index * kAxisStatusSize + 4 + i) := by
        change _ = [_, _, _, _]
        dsimp only
        rw [h1, h2, h3, Nat.add_zero]
      rw [MotionAxisStatusPayload.bytes, putU32_getU32, (decodeI64_spec _).2.2, putU64_getU64,
        putU64_getU64, MotionAxisStatusPayload.flags, flags_of_le hsmall, hflags]
      rfl

end MotionStatusPayload

/-- Each of the motion payloads is read back as it was written, and written again as it was read. -/
theorem motion_codecs_bijective :
    InverseOn MotionSegmentPayload.InRange encodeMotionSegment decodeMotionSegment ∧
      InverseOn (fun _ => True) encodeMotionAcceptance decodeMotionAcceptance ∧
      InverseOn MotionStatusPayload.InRange encodeMotionStatus decodeMotionStatus := by
  refine ⟨?_, ?_, ?_⟩
  · exact .of_image (fun _ _ => MotionSegmentPayload.encode_eq_ok_iff)
      (fun _ => MotionSegmentPayload.decode_bytes) fun _ _ => MotionSegmentPayload.bytes_of_decode
  · exact .of_image (fun _ _ => MotionAcceptancePayload.encode_eq_ok_iff)
      (fun _ _ => MotionAcceptancePayload.decode_bytes)
      fun _ _ h => ⟨trivial, MotionAcceptancePayload.bytes_of_decode h⟩
  · exact .of_image (fun _ _ => MotionStatusPayload.encode_eq_ok_iff)
      (fun _ => MotionStatusPayload.decode_bytes) fun _ _ => MotionStatusPayload.bytes_of_decode

end RemoteBSP
