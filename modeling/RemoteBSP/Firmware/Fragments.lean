import RemoteBSP.Firmware.Node
import RemoteBSP.Protocol.Fragmentation
import Mathlib.Data.List.ReduceOption

/-!
# The fragments of the firmware and the fragments of the host

The firmware cuts packets into frames, and puts them together, in code of its own. `sendLoop` is the
loop of `send_packet`, with its offset and its sequence number, and `sendLoop_eq` says that it sends
the frames of `packetFrames`, with which the rest of the firmware's model works. They are the frames
of the host's `split`, padded (`packetFrames_eq_split`).

In the other direction a transfer is received in one slot. The frames of other transfers do not
reach the slot, a repeated fragment leaves what the slot has received, and so the next fragment
extends it (`Receiving`). `fragments_interoperate` puts both directions together.
-/

namespace RemoteBSP.Firmware

/-! ## Sending -/

/-- The frame that an iteration of the loop of `send_packet` makes of the `length` bytes at an
offset. -/
def loopFrame (mode : CanMode) (canId : UInt32) (transferId sequence : UInt16) (packet : List UInt8)
    (offset : UInt16) (length : UInt8) : CanFrame :=
  let flags := length <<< RBSP_FRAGMENT_LENGTH_SHIFT
  let flags := if sequence = 0 then flags ||| RBSP_FRAGMENT_FIRST else flags
  let flags :=
    if offset + length.toUInt16 = UInt16.ofNat packet.length then flags ||| RBSP_FRAGMENT_LAST
    else flags
  let data := putU16 transferId ++ putU16 sequence ++ [flags] ++
    (packet.drop offset.toNat).take length.toNat
  ⟨canId,
    match mode with
    | .flexibleDataRate => data ++ List.replicate (canonicalFdLength data.length - data.length) 0
    | .classical => data⟩

/-- The loop of `send_packet`, from an offset and a sequence number on, for at most as many
iterations as the fuel allows. -/
def sendLoop {W : Type} (hal : Hal W) (mode : CanMode) (packet : List UInt8) (transferId : UInt16)
    (canId : UInt32) : ℕ → UInt16 → UInt16 → W → Bool × W
  | 0, _, _, world => (true, world)
  | fuel + 1, offset, sequence, world =>
    let packetSize := UInt16.ofNat packet.length
    if offset < packetSize then
      let remaining := packetSize - offset
      let capacity := UInt8.ofNat (fragmentCapacity mode)
      let length := if remaining > capacity.toUInt16 then capacity else remaining.toUInt8
      let (sent, world) :=
        hal.canSend world (loopFrame mode canId transferId sequence packet offset length)
      if !sent then (false, world)
      else sendLoop hal mode packet transferId canId fuel (offset + length.toUInt16) (sequence + 1)
        world
    else (true, world)

/-- The bytes that fit into one frame. -/
theorem fragmentCapacity_cases (mode : CanMode) :
    fragmentCapacity mode = 3 ∨ fragmentCapacity mode = 59 := by
  cases mode
  · exact .inl rfl
  · exact .inr rfl

variable {W : Type} {hal : Hal W} {mode : CanMode} {packet : List UInt8} {transferId : UInt16}
  {canId : UInt32}

/-- The frame of an iteration is the frame of its chunk. -/
theorem loopFrame_eq {i : ℕ} (hi : i < List.chunkCount (fragmentCapacity mode) packet.length)
    (hsize : packet.length ≤ kMaximumPacketSize) :
    loopFrame mode canId transferId (UInt16.ofNat i) packet
        (UInt16.ofNat (i * fragmentCapacity mode))
        (UInt8.ofNat (packet.chunk (fragmentCapacity mode) i).length) =
      fragmentFrame mode canId transferId packet
        (List.chunkCount (fragmentCapacity mode) packet.length) i := by
  have hcapacity := fragmentCapacity_cases mode
  set capacity := fragmentCapacity mode with hdef
  have hpos : 0 < capacity := by omega
  -- The chunk begins inside the packet, and ends where the next one begins or with the packet.
  have hstart := (List.mul_lt_iff_lt_chunkCount hpos).2 hi
  have hnext := List.mul_lt_iff_lt_chunkCount (n := packet.length) (i := i + 1) hpos
  have hlength := List.length_chunk capacity packet i
  unfold kMaximumPacketSize at hsize
  have hsucc : (i + 1) * capacity = i * capacity + capacity := Nat.succ_mul i capacity
  have hcount : List.chunkCount capacity packet.length ≤ packet.length := chunkCount_le hpos
  -- None of the numbers of the loop wraps around.
  have hlength8 : (UInt8.ofNat (packet.chunk capacity i).length).toNat =
      (packet.chunk capacity i).length := UInt8.toNat_ofNat_of_lt (show _ < 2^8 by omega)
  have hoffset16 : (UInt16.ofNat (i * capacity)).toNat = i * capacity :=
    UInt16.toNat_ofNat_of_lt (show _ < 2^16 by omega)
  have hsize16 : (UInt16.ofNat packet.length).toNat = packet.length :=
    UInt16.toNat_ofNat_of_lt (show _ < 2^16 by omega)
  have hindex16 : (UInt16.ofNat i).toNat = i := UInt16.toNat_ofNat_of_lt (show _ < 2^16 by omega)
  have hchunk : (packet.drop (UInt16.ofNat (i * capacity)).toNat).take
      (UInt8.ofNat (packet.chunk capacity i).length).toNat = packet.chunk capacity i := by
    rw [hoffset16, hlength8, hlength, List.chunk, List.take_eq_take_iff, List.length_drop]
    omega
  -- So the flags of the frame are set for the first chunk and for the last one.
  have hfirst : UInt16.ofNat i = 0 ↔ i = 0 := by
    rw [← UInt16.toNat_inj, hindex16]
    rfl
  have hlast : UInt16.ofNat (i * capacity) +
      (UInt8.ofNat (packet.chunk capacity i).length).toUInt16 = UInt16.ofNat packet.length ↔
        i + 1 = List.chunkCount capacity packet.length := by
    rw [← UInt16.toNat_inj, UInt16.toNat_add, UInt8.toNat_toUInt16, hlength8, hoffset16, hsize16,
      hlength]
    omega
  unfold loopFrame fragmentFrame
  dsimp only
  rw [← hdef, hchunk]
  have hflags : (if UInt16.ofNat (i * capacity) +
        (UInt8.ofNat (packet.chunk capacity i).length).toUInt16 = UInt16.ofNat packet.length then
        (if UInt16.ofNat i = 0 then UInt8.ofNat (packet.chunk capacity i).length <<<
            RBSP_FRAGMENT_LENGTH_SHIFT ||| RBSP_FRAGMENT_FIRST
          else UInt8.ofNat (packet.chunk capacity i).length <<< RBSP_FRAGMENT_LENGTH_SHIFT) |||
          RBSP_FRAGMENT_LAST
      else if UInt16.ofNat i = 0 then UInt8.ofNat (packet.chunk capacity i).length <<<
            RBSP_FRAGMENT_LENGTH_SHIFT ||| RBSP_FRAGMENT_FIRST
          else UInt8.ofNat (packet.chunk capacity i).length <<< RBSP_FRAGMENT_LENGTH_SHIFT) =
      UInt8.ofNat (packet.chunk capacity i).length <<< RBSP_FRAGMENT_LENGTH_SHIFT |||
        (if i = 0 then RBSP_FRAGMENT_FIRST else 0) |||
        (if i + 1 = List.chunkCount capacity packet.length then RBSP_FRAGMENT_LAST else 0) := by
    simp only [hfirst, hlast]
    split_ifs <;> simp only [UInt8.or_zero]
  exact hflags ▸ rfl

/-- The length that an iteration takes is that of its chunk. -/
theorem loopLength_eq {i : ℕ} (hi : i < List.chunkCount (fragmentCapacity mode) packet.length)
    (hsize : packet.length ≤ kMaximumPacketSize) :
    (if UInt16.ofNat packet.length - UInt16.ofNat (i * fragmentCapacity mode) >
          (UInt8.ofNat (fragmentCapacity mode)).toUInt16 then UInt8.ofNat (fragmentCapacity mode)
      else (UInt16.ofNat packet.length - UInt16.ofNat (i * fragmentCapacity mode)).toUInt8) =
      UInt8.ofNat (packet.chunk (fragmentCapacity mode) i).length := by
  have hcapacity := fragmentCapacity_cases mode
  set capacity := fragmentCapacity mode
  have hpos : 0 < capacity := by omega
  have hstart := (List.mul_lt_iff_lt_chunkCount hpos).2 hi
  unfold kMaximumPacketSize at hsize
  have hoffset16 : (UInt16.ofNat (i * capacity)).toNat = i * capacity :=
    UInt16.toNat_ofNat_of_lt (show _ < 2^16 by omega)
  have hsize16 : (UInt16.ofNat packet.length).toNat = packet.length :=
    UInt16.toNat_ofNat_of_lt (show _ < 2^16 by omega)
  have hcapacity8 : (UInt8.ofNat capacity).toNat = capacity :=
    UInt8.toNat_ofNat_of_lt (show _ < 2^8 by omega)
  have hle : UInt16.ofNat (i * capacity) ≤ UInt16.ofNat packet.length := by
    rw [UInt16.le_iff_toNat_le, hoffset16, hsize16]
    omega
  have hremaining : (UInt16.ofNat packet.length - UInt16.ofNat (i * capacity)).toNat =
      packet.length - i * capacity := by
    rw [UInt16.toNat_sub_of_le _ _ hle, hoffset16, hsize16]
  rw [List.length_chunk]
  split
  · next hlong =>
    have hlong' := UInt16.lt_iff_toNat_lt.1 hlong
    rw [UInt8.toNat_toUInt16, hcapacity8, hremaining] at hlong'
    rw [min_eq_left hlong'.le]
  · next hshort =>
    have hshort' := UInt16.le_iff_toNat_le.1 (UInt16.not_lt.1 hshort)
    rw [UInt8.toNat_toUInt16, hcapacity8, hremaining] at hshort'
    rw [min_eq_right hshort']
    apply UInt8.toNat_inj.1
    rw [UInt16.toNat_toUInt8, hremaining, UInt8.toNat_ofNat']

/-- From a chunk on, the loop sends the frames of the chunks that are left. -/
theorem sendLoop_from (hsize : packet.length ≤ kMaximumPacketSize) (fuel : ℕ) {i : ℕ}
    (hi : i ≤ List.chunkCount (fragmentCapacity mode) packet.length)
    (hfuel : List.chunkCount (fragmentCapacity mode) packet.length < i + fuel) (world : W) :
    sendLoop hal mode packet transferId canId fuel
        (UInt16.ofNat (min (i * fragmentCapacity mode) packet.length)) (UInt16.ofNat i) world =
      sendFrames hal world ((List.range' i
        (List.chunkCount (fragmentCapacity mode) packet.length - i)).map
          (fragmentFrame mode canId transferId packet
            (List.chunkCount (fragmentCapacity mode) packet.length))) := by
  have hcapacity := fragmentCapacity_cases mode
  have hpos : 0 < fragmentCapacity mode := by omega
  have hsize' : packet.length < 2^16 := by
    unfold kMaximumPacketSize at hsize
    omega
  induction fuel generalizing i world with
  | zero => omega
  | succ fuel ih =>
    unfold sendLoop
    rcases hi.lt_or_eq with hlt | rfl
    · -- There is one more chunk.
      have hstart := (List.mul_lt_iff_lt_chunkCount hpos).2 hlt
      have hmin : min (i * fragmentCapacity mode) packet.length = i * fragmentCapacity mode :=
        min_eq_left hstart.le
      -- The offset stays below `2^16`, so that the guard of the loop is the bound on the chunks.
      have hoffset16 : (UInt16.ofNat (i * fragmentCapacity mode)).toNat =
          i * fragmentCapacity mode := UInt16.toNat_ofNat_of_lt (show _ < 2^16 by omega)
      have hguard : UInt16.ofNat (i * fragmentCapacity mode) < UInt16.ofNat packet.length := by
        have hsize16 : (UInt16.ofNat packet.length).toNat = packet.length :=
          UInt16.toNat_ofNat_of_lt hsize'
        rwa [UInt16.lt_iff_toNat_lt, hoffset16, hsize16]
      -- The loop goes on at the beginning of the next chunk.
      have hnext : UInt16.ofNat (i * fragmentCapacity mode) +
          (UInt8.ofNat (packet.chunk (fragmentCapacity mode) i).length).toUInt16 =
            UInt16.ofNat (min ((i + 1) * fragmentCapacity mode) packet.length) := by
        have hchunk := List.length_chunk (fragmentCapacity mode) packet i
        have hsucc : (i + 1) * fragmentCapacity mode =
            i * fragmentCapacity mode + fragmentCapacity mode := Nat.succ_mul _ _
        have hlength8 : (UInt8.ofNat (packet.chunk (fragmentCapacity mode) i).length).toNat =
            (packet.chunk (fragmentCapacity mode) i).length :=
          UInt8.toNat_ofNat_of_lt (show _ < 2^8 by omega)
        have hend16 : (UInt16.ofNat (min ((i + 1) * fragmentCapacity mode) packet.length)).toNat =
            min ((i + 1) * fragmentCapacity mode) packet.length :=
          UInt16.toNat_ofNat_of_lt (show _ < 2^16 by omega)
        apply UInt16.toNat_inj.1
        rw [UInt16.toNat_add, UInt8.toNat_toUInt16, hlength8, hoffset16, hend16, hchunk]
        omega
      have hindex : UInt16.ofNat i + 1 = UInt16.ofNat (i + 1) := (UInt16.ofNat_add i 1).symm
      have hrest : List.chunkCount (fragmentCapacity mode) packet.length - i =
          List.chunkCount (fragmentCapacity mode) packet.length - (i + 1) + 1 := by omega
      rw [hmin, if_pos hguard]
      dsimp only
      rw [loopLength_eq hlt hsize, loopFrame_eq hlt hsize, hrest, List.range'_succ, List.map_cons,
        sendFrames, hnext, hindex]
      dsimp only
      cases hsent : (hal.canSend world (fragmentFrame mode canId transferId packet
          (List.chunkCount (fragmentCapacity mode) packet.length) i)).1 with
      | false => rfl
      | true => exact ih (Nat.succ_le_of_lt hlt) (by omega) _
    · -- The packet has been sent.
      have hend : ¬List.chunkCount (fragmentCapacity mode) packet.length * fragmentCapacity mode <
          packet.length := fun h => lt_irrefl _ ((List.mul_lt_iff_lt_chunkCount hpos).1 h)
      rw [min_eq_right (not_lt.1 hend), if_neg (UInt16.lt_irrefl _), Nat.sub_self]
      rfl

/-- The loop of `send_packet` sends the frames of the packet. -/
theorem sendLoop_eq (hsize : packet.length ≤ kMaximumPacketSize) (world : W) :
    sendLoop hal mode packet transferId canId (packet.length + 1) 0 0 world =
      sendFrames hal world (packetFrames mode packet transferId canId) := by
  have hpos : 0 < fragmentCapacity mode := by
    have := fragmentCapacity_cases mode
    omega
  have hcount : List.chunkCount (fragmentCapacity mode) packet.length ≤ packet.length :=
    chunkCount_le hpos
  have hloop : sendLoop hal mode packet transferId canId (packet.length + 1)
      (UInt16.ofNat (min (0 * fragmentCapacity mode) packet.length)) (UInt16.ofNat 0) world = _ :=
    sendLoop_from hsize (packet.length + 1) (Nat.zero_le _) (by omega) world
  rw [Nat.zero_mul, Nat.zero_min, Nat.sub_zero, ← List.range_eq_range'] at hloop
  exact hloop

/-- A frame of `split` on the bus: padded with zeros to a length that a CAN-FD frame can have. -/
def wireFrame (mode : CanMode) (canId : UInt32) (data : List UInt8) : CanFrame :=
  ⟨canId,
    match mode with
    | .flexibleDataRate => data ++ List.replicate (canonicalFdLength data.length - data.length) 0
    | .classical => data⟩

/-- The fragment with number `i` into which the sender cuts a packet. -/
def packetFragment (mode : CanMode) (packet : List UInt8) (transferId : UInt16) (i : ℕ) :
    Fragment :=
  splitFragment (fragmentCapacity mode) (List.chunkCount (fragmentCapacity mode) packet.length)
    packet transferId i

/-- A frame of the packet is the frame of its fragment. -/
theorem fragmentFrame_eq (mode : CanMode) (canId : UInt32) (transferId : UInt16)
    (packet : List UInt8) (i : ℕ) :
    fragmentFrame mode canId transferId packet
        (List.chunkCount (fragmentCapacity mode) packet.length) i =
      wireFrame mode canId (packetFragment mode packet transferId i).frame := by
  have hflags : (UInt8.ofNat (packet.chunk (fragmentCapacity mode) i).length <<<
        RBSP_FRAGMENT_LENGTH_SHIFT) ||| (if i = 0 then RBSP_FRAGMENT_FIRST else 0) |||
        (if i + 1 = List.chunkCount (fragmentCapacity mode) packet.length then RBSP_FRAGMENT_LAST
          else 0) =
      flagByte (packetFragment mode packet transferId i).flags
        (packetFragment mode packet transferId i).payload.length := by
    rw [UInt8.or_assoc, UInt8.or_comm]
    rfl
  unfold fragmentFrame
  dsimp only
  rw [hflags]
  rfl

/-- The frames of the firmware are the frames of `split`, padded. -/
theorem packetFrames_eq_split (mode : CanMode) (canId : UInt32) (transferId : UInt16)
    {packet : List UInt8} {frames : List (List UInt8)}
    (hsplit : split mode.mtu packet transferId = .ok frames) :
    packetFrames mode packet transferId canId = frames.map (wireFrame mode canId) := by
  obtain ⟨hpos, hsize⟩ := length_of_split hsplit
  have hroom : kFragmentHeaderSize < mode.mtu := by cases mode <;> decide
  have hmtu : mode.mtu ≤ 68 := by cases mode <;> decide
  rw [split_spec hroom hmtu hpos hsize] at hsplit
  obtain rfl := Except.ok.inj hsplit
  unfold packetFrames
  dsimp only
  rw [List.map_map]
  exact List.map_congr_left fun i _ => fragmentFrame_eq mode canId transferId packet i

/-! ## One frame -/

/-- The length bits of the flag byte. -/
theorem flagByte_shift (byte : UInt8) :
    (byte &&& kFragmentLengthMask) >>> kFragmentLengthShift =
      byte >>> RBSP_FRAGMENT_LENGTH_SHIFT := by
  have hall : ∀ i : Fin 256, (UInt8.ofFin i &&& kFragmentLengthMask) >>> kFragmentLengthShift =
      UInt8.ofFin i >>> RBSP_FRAGMENT_LENGTH_SHIFT := by
    decide +kernel
  exact hall byte.toFin

/-- The firmware accepts what the host accepts, if all fragments but the last are full. -/
theorem parseFrame_of_decode {data : List UInt8} {fragment : Fragment}
    (h : decodeFragment data mode.mtu = .ok fragment)
    (hfull : fragment.isLast = false → fragment.payload.length = fragmentCapacity mode) :
    Core.parseFrame mode data = some fragment := by
  unfold decodeFragment at h
  simp only [bind, Except.bind, throw, throwThe, MonadExceptOf.throw, pure, Except.pure,
    flagByte_shift] at h
  split at h
  · cases h
  · split_ifs at h with hshort hlong hempty hfits hcut hpadding hfirst
    obtain rfl := Except.ok.inj h
    have hlength : ((data.drop kFragmentHeaderSize).take
        (byteAt data 4 >>> RBSP_FRAGMENT_LENGTH_SHIFT).toNat).length =
          (byteAt data 4 >>> RBSP_FRAGMENT_LENGTH_SHIFT).toNat := by
      rw [List.length_take, List.length_drop]
      omega
    have hcapacity : mode.mtu = kFragmentHeaderSize + fragmentCapacity mode := by cases mode <;> rfl
    unfold Core.parseFrame
    dsimp only
    rw [if_neg, if_neg, if_neg, if_neg]
    · rfl
    · rintro ⟨hlast, hpartial⟩
      refine hpartial (hlength.symm.trans (hfull ?_))
      exact bne_eq_false_iff_eq.2 hlast
    · rw [Bool.not_eq_true, List.any_eq_false]
      rw [Bool.not_eq_true, Bool.not_eq_false', List.all_eq_true] at hpadding
      intro byte hbyte
      rw [Bool.not_eq_true, bne_eq_false_iff_eq]
      exact beq_iff_eq.1 (hpadding byte hbyte)
    · refine not_or.2 ⟨hempty, not_or.2 ⟨?_, not_or.2 ⟨hcut, hfirst⟩⟩⟩
      omega
    · exact not_or.2 ⟨hshort, hlong⟩

/-- The length of a frame with padding. -/
theorem canonicalFdLength_bounds {length : ℕ} (h : length ≤ 64) :
    length ≤ canonicalFdLength length ∧ canonicalFdLength length ≤ 64 := by
  have hall : ∀ n : Fin 65, n ≤ canonicalFdLength n ∧ canonicalFdLength n ≤ 64 := by decide +kernel
  exact hall ⟨length, Nat.lt_succ_of_le h⟩

variable (canId transferId) in
/-- The fragments of a packet are received as they were sent. -/
theorem parseFrame_wireFrame {i : ℕ} (hsize : packet.length ≤ kMaximumPacketSize)
    (hi : i < List.chunkCount (fragmentCapacity mode) packet.length) :
    Core.parseFrame mode
        (wireFrame mode canId (packetFragment mode packet transferId i).frame).data =
      some (packetFragment mode packet transferId i) := by
  have hroom : kFragmentHeaderSize < mode.mtu := by cases mode <;> decide
  have hmtu : mode.mtu ≤ 68 := by cases mode <;> decide
  have hencodable : (packetFragment mode packet transferId i).Encodable mode.mtu :=
    splitFragment_encodable hroom hmtu hsize transferId hi
  have hfits : (packetFragment mode packet transferId i).frame.length ≤ mode.mtu := by
    rw [Fragment.length_frame]
    exact hencodable.fits
  have hpadded : ∃ n, (packetFragment mode packet transferId i).frame.length + n ≤ mode.mtu ∧
      (wireFrame mode canId (packetFragment mode packet transferId i).frame).data =
        (packetFragment mode packet transferId i).frame ++ List.replicate n 0 := by
    cases mode with
    | classical => exact ⟨0, hfits, (List.append_nil _).symm⟩
    | flexibleDataRate =>
      obtain ⟨hle, hbound⟩ := canonicalFdLength_bounds hfits
      refine ⟨_, ?_, rfl⟩
      rw [Nat.add_sub_cancel' hle]
      exact hbound
  obtain ⟨n, hn, hdata⟩ := hpadded
  rw [hdata]
  refine parseFrame_of_decode (decodeFragment_padded hencodable hn) fun hlast => ?_
  -- Only the last fragment may be short.
  have hnot : ¬i + 1 = List.chunkCount (fragmentCapacity mode) packet.length := by
    obtain ⟨-, hmarker, -⟩ := splitFragment_markers (fragmentCapacity mode)
      (List.chunkCount (fragmentCapacity mode) packet.length) packet transferId i
    exact of_decide_eq_false (hmarker.symm.trans hlast)
  have hpos : 0 < fragmentCapacity mode := by
    have := fragmentCapacity_cases mode
    omega
  have hnext : (i + 1) * fragmentCapacity mode < packet.length :=
    (List.mul_lt_iff_lt_chunkCount hpos).2 (Nat.lt_of_le_of_ne (Nat.succ_le_of_lt hi) hnot)
  have hsucc : (i + 1) * fragmentCapacity mode =
      i * fragmentCapacity mode + fragmentCapacity mode := Nat.succ_mul _ _
  change (packet.chunk (fragmentCapacity mode) i).length = _
  rw [List.length_chunk]
  omega

/-- The transfer and the sequence of a fragment that is received. -/
theorem header_of_parseFrame {data : List UInt8} {fragment : Fragment}
    (h : Core.parseFrame mode data = some fragment) :
    fragment.transferId = getU16 data 0 ∧ fragment.sequence = getU16 data 2 := by
  unfold Core.parseFrame at h
  dsimp only at h
  split_ifs at h
  rw [← Option.some.inj h]
  exact ⟨rfl, rfl⟩

/-! ## Receiving -/

/-- What happens to a node that receives. -/
inductive ReceiverEvent
  | accept (frame : CanFrame)
  | poll
deriving DecidableEq, Repr

variable {config : CoreConfig}

/-- The node as a receiver. The outcome of a frame is the packet that `decode_request` is given. -/
def receiver (config : CoreConfig) (board : Board W) :
    Machine (Core config W) ReceiverEvent (Option (List UInt8)) where
  step core
    | .accept frame => (core.acceptCan board frame, core.completed board frame)
    | .poll => (core.poll board, none)

/-- Whether an event is a frame of a transfer. -/
def ReceiverEvent.ofTransfer (streamId : UInt32) (transferId : UInt16) : ReceiverEvent → Bool
  | .accept frame => frame.identifier = streamId ∧ getU16 frame.data 0 = transferId
  | .poll => false

/-- The frames of a transfer from index `i` on, in order, among events that are not of the transfer
and repetitions of frames that are neither the first nor the last. -/
inductive Interleaved (mine : ReceiverEvent → Bool) (frames : List CanFrame) :
    ℕ → List ReceiverEvent → Prop
  /-- All frames of the packet have come in. -/
  | finish : Interleaved mine frames frames.length []
  /-- The next frame of the packet comes in. -/
  | following {i : ℕ} {events : List ReceiverEvent} (hi : i < frames.length)
      (h : Interleaved mine frames (i + 1) events) :
      Interleaved mine frames i (.accept frames[i] :: events)
  /-- A frame that has been received is received again. -/
  | again {i j : ℕ} {events : List ReceiverEvent} (hj : 0 < j) (hji : j < i)
      (hi : i < frames.length) (h : Interleaved mine frames i events) :
      Interleaved mine frames i (.accept (frames.get ⟨j, hji.trans hi⟩) :: events)
  /-- Something else comes in, which belongs to another packet. -/
  | other {i : ℕ} {event : ReceiverEvent} {events : List ReceiverEvent}
      (hother : mine event = false) (h : Interleaved mine frames i events) :
      Interleaved mine frames i (event :: events)

/-- Whether a slot is that of a transfer. -/
def ReassemblySlot.Serves (slot : ReassemblySlot) (streamId : UInt32) (transferId : UInt16) :
    Prop :=
  slot.streamId = streamId ∧ slot.transferId = transferId

/-- What a transfer needs: the node listens to its frames, there is room for it at its first frame,
and its slot does not time out. -/
def Undisturbed (board : Board W) (streamId : UInt32) (transferId : UInt16)
    (core : Core config W) : ReceiverEvent → Prop
  | .accept frame =>
    (ReceiverEvent.accept frame).ofTransfer streamId transferId = true →
      core.listens streamId = true ∧ (getU16 frame.data 2 = 0 →
        core.findSlot streamId transferId = none ∧ core.freeSlot ≠ none)
  | .poll => ∀ place, ∀ slot ∈ core.reassembly place, slot.Serves streamId transferId →
    (board.hal.milliseconds core.world).1 - slot.lastUpdateMs < config.reassemblyTimeoutMs

/-- A slot is compared with a transfer. -/
instance (slot : ReassemblySlot) (streamId : UInt32) (transferId : UInt16) :
    Decidable (slot.Serves streamId transferId) :=
  inferInstanceAs (Decidable (slot.streamId = streamId ∧ slot.transferId = transferId))

/-- What a transfer needs can be checked. -/
instance (board : Board W) (streamId : UInt32) (transferId : UInt16) (core : Core config W) :
    (event : ReceiverEvent) → Decidable (Undisturbed board streamId transferId core event)
  | .accept frame => inferInstanceAs (Decidable
      ((ReceiverEvent.accept frame).ofTransfer streamId transferId = true →
        core.listens streamId = true ∧ (getU16 frame.data 2 = 0 →
          core.findSlot streamId transferId = none ∧ core.freeSlot ≠ none)))
  | .poll => inferInstanceAs (Decidable (∀ place, ∀ slot ∈ core.reassembly place,
      slot.Serves streamId transferId →
        (board.hal.milliseconds core.world).1 - slot.lastUpdateMs < config.reassemblyTimeoutMs))

namespace Core

variable {board : Board W} {core : Core config W} {streamId : UInt32}

/-- No place but one is that of a transfer. -/
def OnlyAt (core : Core config W) (place : Fin config.reassemblySlots) (streamId : UInt32)
    (transferId : UInt16) : Prop :=
  ∀ place' slot, core.reassembly place' = some slot → slot.Serves streamId transferId →
    place' = place

/-- A transfer is received in one slot, which has some bytes and waits for a fragment. -/
def Receiving (core : Core config W) (streamId : UInt32) (transferId : UInt16)
    (received : List UInt8) (nextSequence : UInt16) : Prop :=
  ∃ place slot, core.reassembly place = some slot ∧ slot.Serves streamId transferId ∧
    slot.packet = received ∧ slot.nextSequence = nextSequence ∧
    core.OnlyAt place streamId transferId

/-- The place that is stored to. -/
@[simp]
theorem reassembly_storeSlot_self (place : Fin config.reassemblySlots)
    (slot : Option ReassemblySlot) : (core.storeSlot place slot).reassembly place = slot :=
  Function.update_self ..

/-- A store in one reassembly slot leaves the others as they are. -/
@[simp]
theorem reassembly_storeSlot_ne {place place' : Fin config.reassemblySlots} (h : place' ≠ place)
    (slot : Option ReassemblySlot) :
    (core.storeSlot place slot).reassembly place' = core.reassembly place' :=
  Function.update_of_ne h ..

/-- The slot that is found is that of the transfer. -/
theorem findSlot_eq_some {place : Fin config.reassemblySlots}
    (h : core.findSlot streamId transferId = some place) :
    ∃ slot, core.reassembly place = some slot ∧ slot.Serves streamId transferId := by
  have hfound := List.find?_some (p := fun place => (core.reassembly place).any
    fun slot : ReassemblySlot => slot.streamId = streamId ∧ slot.transferId = transferId) h
  obtain ⟨slot, hslot, hserves⟩ := (Option.any_eq_true _ _).1 hfound
  exact ⟨slot, hslot, of_decide_eq_true (p := slot.streamId = streamId ∧
    slot.transferId = transferId) hserves⟩

/-- No slot is that of the transfer. -/
theorem findSlot_eq_none (h : core.findSlot streamId transferId = none)
    {place : Fin config.reassemblySlots} {slot : ReassemblySlot}
    (hslot : core.reassembly place = some slot) : ¬slot.Serves streamId transferId := by
  intro hserves
  refine List.find?_eq_none.1 h place (List.mem_finRange place) ?_
  rw [hslot, Option.any_some]
  exact decide_eq_true hserves

/-- The only slot of a transfer is found. -/
theorem findSlot_of_onlyAt {place : Fin config.reassemblySlots} {slot : ReassemblySlot}
    (hslot : core.reassembly place = some slot) (hserves : slot.Serves streamId transferId)
    (honly : core.OnlyAt place streamId transferId) :
    core.findSlot streamId transferId = some place := by
  cases hfind : core.findSlot streamId transferId with
  | none => exact absurd hserves (findSlot_eq_none hfind hslot)
  | some place' =>
    obtain ⟨slot', hslot', hserves'⟩ := findSlot_eq_some hfind
    rw [honly place' slot' hslot' hserves']

/-- The slot that a fragment is given belongs to its transfer, and is in its place or new. -/
theorem slotFor_eq_some {fragment : Fragment} {place : Fin config.reassemblySlots}
    {slot : ReassemblySlot} (h : core.slotFor streamId fragment = some (place, slot)) :
    slot.Serves streamId fragment.transferId ∧
      (core.reassembly place = some slot ∨ core.reassembly place = none) := by
  unfold slotFor at h
  split at h
  · next place' hfind =>
    obtain ⟨slot', hslot', hserves⟩ := findSlot_eq_some hfind
    rw [hslot', Option.map_some] at h
    obtain ⟨rfl, rfl⟩ := Prod.mk.inj (Option.some.inj h)
    exact ⟨hserves, .inl hslot'⟩
  · split at h
    · cases h
    · obtain ⟨place', hfree, heq⟩ := Option.map_eq_some_iff.1 h
      obtain ⟨rfl, rfl⟩ := Prod.mk.inj heq
      have hnone := List.find?_some (p := fun place => (core.reassembly place).isNone) hfree
      exact ⟨⟨rfl, rfl⟩, .inr (Option.isNone_iff_eq_none.1 hnone)⟩

/-- A complete packet leaves the slots alone. -/
theorem reassembly_completePacket (packet : List UInt8) :
    (core.completePacket board packet).reassembly = core.reassembly := by
  unfold completePacket
  split
  · exact reassembly_processRequest
  · rfl

variable (board core) in
/-- A fragment reaches the place of its slot, where its transfer stays. -/
theorem reassembly_acceptFragment (place : Fin config.reassemblySlots) (slot : ReassemblySlot)
    (fragment : Fragment) :
    (∀ place' ≠ place, (core.acceptFragment board place slot fragment).reassembly place' =
        core.reassembly place') ∧
      ∀ slot', (core.acceptFragment board place slot fragment).reassembly place = some slot' →
        core.reassembly place = some slot' ∨ slot'.Serves slot.streamId slot.transferId := by
  -- What is put in the place of the slot belongs to the same transfer.
  have hstore : ∀ (c : Core config W) (x : Option ReassemblySlot),
      c.reassembly = core.reassembly → (∀ slot' ∈ x, slot'.Serves slot.streamId slot.transferId) →
      (∀ place' ≠ place, (c.storeSlot place x).reassembly place' = core.reassembly place') ∧
        ∀ slot', (c.storeSlot place x).reassembly place = some slot' →
          core.reassembly place = some slot' ∨ slot'.Serves slot.streamId slot.transferId := by
    intro c x hc hx
    refine ⟨fun place' hne => ?_, fun slot' hslot' => .inr (hx slot' ?_)⟩
    · rw [reassembly_storeSlot_ne hne, hc]
    · rwa [reassembly_storeSlot_self] at hslot'
  unfold acceptFragment
  -- A fragment that comes again renews the time of the slot at most.
  split
  · split
    · refine hstore _ _ rfl fun slot' hslot' => ?_
      obtain rfl := Option.some.inj hslot'
      exact ⟨rfl, rfl⟩
    · exact ⟨fun _ _ => rfl, fun _ => .inl⟩
  · split
    · exact hstore _ _ rfl nofun
    · dsimp only
      have hextend := hstore { core with world := (board.hal.milliseconds core.world).2 }
        (some (extend slot fragment (board.hal.milliseconds core.world).1)) rfl
        (fun slot' hslot' => by obtain rfl := Option.some.inj hslot'; exact ⟨rfl, rfl⟩)
      split
      · -- The packet is complete, and the place is freed.
        refine ⟨fun place' hne => ?_, fun slot' hslot' => ?_⟩
        · rw [reassembly_storeSlot_ne hne, reassembly_completePacket]
          exact hextend.1 place' hne
        · rw [reassembly_storeSlot_self] at hslot'
          cases hslot'
      · exact hextend

/-- A transfer goes on being received if its slot stays and no other slot becomes its own. -/
theorem Receiving.mono {core' : Core config W} {received : List UInt8} {nextSequence : UInt16}
    (h : core.Receiving streamId transferId received nextSequence)
    (hkeep : ∀ place slot, core.reassembly place = some slot → slot.Serves streamId transferId →
      core'.reassembly place = some slot)
    (hnew : ∀ place slot, core'.reassembly place = some slot → slot.Serves streamId transferId →
      core.reassembly place = some slot) :
    core'.Receiving streamId transferId received nextSequence := by
  obtain ⟨place, slot, hslot, hserves, hpacket, hnext, honly⟩ := h
  refine ⟨place, slot, hkeep place slot hslot hserves, hserves, hpacket, hnext, ?_⟩
  intro place' slot' hslot' hserves'
  exact honly place' slot' (hnew place' slot' hslot' hserves') hserves'

/-- The frames of other transfers do not reach the slot. -/
theorem Receiving.acceptCan_other {received : List UInt8} {nextSequence : UInt16}
    (h : core.Receiving streamId transferId received nextSequence) {frame : CanFrame}
    (hother : ¬(frame.identifier = streamId ∧ getU16 frame.data 0 = transferId)) :
    (core.acceptCan board frame).Receiving streamId transferId received nextSequence := by
  unfold acceptCan
  split
  · exact h
  · split
    · exact h
    · next fragment hparse =>
      split
      · exact h
      · next place₀ slot₀ hslotFor =>
        obtain ⟨hserves₀, hplace₀⟩ := slotFor_eq_some hslotFor
        obtain ⟨hothers, hown⟩ :=
          reassembly_acceptFragment board core place₀ slot₀ fragment
        rw [(header_of_parseFrame hparse).1] at hserves₀
        -- The slot of the frame is of another transfer.
        have hne : ∀ slot : ReassemblySlot, slot.Serves slot₀.streamId slot₀.transferId →
            ¬slot.Serves streamId transferId := by
          rintro slot ⟨hstream, htransfer⟩ ⟨hstream', htransfer'⟩
          exact hother ⟨hserves₀.1.symm.trans (hstream.symm.trans hstream'),
            hserves₀.2.symm.trans (htransfer.symm.trans htransfer')⟩
        refine h.mono (fun place slot hslot hserves => ?_) fun place slot hslot hserves => ?_
        · have hplace : place ≠ place₀ := by
            rintro rfl
            rcases hplace₀ with hthere | hfree
            · obtain rfl := Option.some.inj (hslot.symm.trans hthere)
              exact hne slot ⟨rfl, rfl⟩ hserves
            · rw [hfree] at hslot
              cases hslot
          rw [hothers place hplace, hslot]
        · by_cases hplace : place = place₀
          · rw [hplace] at hslot ⊢
            exact (hown slot hslot).resolve_right fun hserves' => hne slot hserves' hserves
          · rw [← hothers place hplace, hslot]

/-- A poll leaves a transfer that has not timed out. -/
theorem Receiving.poll {received : List UInt8} {nextSequence : UInt16}
    (h : core.Receiving streamId transferId received nextSequence)
    (hlive : Undisturbed board streamId transferId core .poll) :
    (core.poll board).Receiving streamId transferId received nextSequence := by
  rcases reassembly_poll board core with hsame | hexpired
  · exact h.mono (fun place slot hslot _ => by rwa [hsame])
      fun place slot hslot _ => by rwa [← hsame]
  · refine h.mono (fun place slot hslot hserves => ?_) fun place slot hslot _ => ?_
    · rw [hexpired]
      dsimp only
      rw [hslot, Option.filter_some, if_pos (decide_eq_true (hlive place slot hslot hserves))]
    · rw [hexpired] at hslot
      exact (Option.filter_eq_some_iff.1 hslot).1

/-- What `rbsp_core_accept_can` does with a fragment that has a slot. -/
theorem acceptCan_of_slotFor {frame : CanFrame} {fragment : Fragment}
    {place : Fin config.reassemblySlots} {slot : ReassemblySlot}
    (hlistens : core.listens frame.identifier = true)
    (hparse : parseFrame board.canMode frame.data = some fragment)
    (hslot : core.slotFor frame.identifier fragment = some (place, slot)) :
    core.acceptCan board frame = core.acceptFragment board place slot fragment ∧
      core.completed board frame =
        if fragment.sequence < slot.nextSequence ∨ misfits config slot fragment ∨
          fragment.flags &&& RBSP_FRAGMENT_LAST = 0 then none
        else some (slot.packet ++ fragment.payload) := by
  have hnot : ¬(!core.listens frame.identifier) = true := by
    rw [hlistens]
    decide
  unfold acceptCan completed
  rw [if_neg hnot, if_neg hnot, hparse]
  simp only [Option.bind_eq_bind, Option.bind_some, hslot, and_self]

/-- The last marker of a fragment. -/
theorem packetFragment_last (mode : CanMode) (packet : List UInt8) (transferId : UInt16) (i : ℕ) :
    (packetFragment mode packet transferId i).flags &&& RBSP_FRAGMENT_LAST = 0 ↔
      i + 1 ≠ List.chunkCount (fragmentCapacity mode) packet.length := by
  obtain ⟨-, hlast, -⟩ := splitFragment_markers (fragmentCapacity mode)
    (List.chunkCount (fragmentCapacity mode) packet.length) packet transferId i
  have hmarker : (packetFragment mode packet transferId i).isLast = false ↔
      i + 1 ≠ List.chunkCount (fragmentCapacity mode) packet.length := by
    rw [ne_eq, ← decide_eq_false_iff_not, ← hlast]
    rfl
  rw [← hmarker, Fragment.isLast, bne_eq_false_iff_eq]
  rfl

/-- The following fragment of a transfer extends its slot, and with the last one the packet is
complete. -/
theorem following_spec (hsize : packet.length ≤ config.maxPacketSize) {i : ℕ}
    (hi : i < List.chunkCount (fragmentCapacity board.canMode) packet.length)
    {place : Fin config.reassemblySlots} {slot : ReassemblySlot}
    (hlistens : core.listens streamId = true)
    (hslot : core.slotFor streamId (packetFragment board.canMode packet transferId i) =
      some (place, slot))
    (hpacket : slot.packet = packet.take (i * fragmentCapacity board.canMode))
    (hnext : slot.nextSequence = UInt16.ofNat i) (honly : core.OnlyAt place streamId transferId) :
    let frame :=
      wireFrame board.canMode streamId (packetFragment board.canMode packet transferId i).frame
    core.completed board frame =
        (if i + 1 = List.chunkCount (fragmentCapacity board.canMode) packet.length then some packet
          else none) ∧
      (i + 1 < List.chunkCount (fragmentCapacity board.canMode) packet.length →
        (core.acceptCan board frame).Receiving streamId transferId
          (packet.take ((i + 1) * fragmentCapacity board.canMode)) (UInt16.ofNat (i + 1))) := by
  -- The frame parses as the fragment, and the slot of the transfer takes it.
  intro frame
  have hmaximum := config.maxPacketSize_range.2
  have hparse : parseFrame board.canMode frame.data =
      some (packetFragment board.canMode packet transferId i) :=
    parseFrame_wireFrame transferId streamId (hsize.trans hmaximum) hi
  obtain ⟨haccept, hcompleted⟩ := acceptCan_of_slotFor hlistens hparse hslot
  have hpos : 0 < fragmentCapacity board.canMode := by
    have := fragmentCapacity_cases board.canMode
    omega
  have hgrow : slot.packet ++ (packetFragment board.canMode packet transferId i).payload =
      packet.take ((i + 1) * fragmentCapacity board.canMode) := by
    rw [hpacket, Nat.succ_mul, List.take_add]
    rfl
  -- The fragment is the one that the slot waits for, and there is room for it.
  have hinorder :
      ¬(packetFragment board.canMode packet transferId i).sequence < slot.nextSequence := by
    rw [hnext]
    exact UInt16.lt_irrefl _
  have hfits : ¬misfits config slot (packetFragment board.canMode packet transferId i) = true := by
    have hlength := congrArg List.length hgrow
    rw [List.length_append, List.length_take] at hlength
    unfold misfits
    rw [decide_eq_true_eq, not_or, not_not, not_lt, hnext]
    refine ⟨rfl, ?_⟩
    omega
  have hlast := packetFragment_last board.canMode packet transferId i
  -- With the last fragment the packet is complete, before it the slot waits for the next one.
  constructor
  · rw [hcompleted]
    by_cases hend : i + 1 = List.chunkCount (fragmentCapacity board.canMode) packet.length
    · have hmarker := mt hlast.1 (not_not.2 hend)
      rw [if_neg (not_or.2 ⟨hinorder, not_or.2 ⟨hfits, hmarker⟩⟩), if_pos hend, hgrow,
        List.take_of_length_le]
      rw [hend]
      exact not_lt.1 fun h => lt_irrefl _ ((List.mul_lt_iff_lt_chunkCount hpos).1 h)
    · rw [if_pos (.inr (.inr (hlast.2 hend))), if_neg hend]
  · intro hmore
    have hmarker : ¬(packetFragment board.canMode packet transferId i).flags &&&
        RBSP_FRAGMENT_LAST ≠ 0 := not_not.2 (hlast.2 hmore.ne)
    have hserves := (slotFor_eq_some hslot).1
    rw [haccept]
    unfold acceptFragment
    rw [if_neg hinorder, if_neg hfits]
    dsimp only
    rw [if_neg hmarker]
    refine ⟨place, _, reassembly_storeSlot_self _ _, hserves, hgrow, ?_,
      fun place' slot' hslot' hserves' => ?_⟩
    · change slot.nextSequence + 1 = _
      rw [hnext]
      exact (UInt16.ofNat_add i 1).symm
    · by_contra hne
      rw [reassembly_storeSlot_ne hne] at hslot'
      exact hne (honly place' slot' hslot' hserves')

/-- The following fragment of a transfer that is received. -/
theorem Receiving.following (hsize : packet.length ≤ config.maxPacketSize) {i : ℕ}
    (hi : i < List.chunkCount (fragmentCapacity board.canMode) packet.length)
    (hlistens : core.listens streamId = true)
    (h : core.Receiving streamId transferId (packet.take (i * fragmentCapacity board.canMode))
      (UInt16.ofNat i)) :
    let frame :=
      wireFrame board.canMode streamId (packetFragment board.canMode packet transferId i).frame
    core.completed board frame =
        (if i + 1 = List.chunkCount (fragmentCapacity board.canMode) packet.length then some packet
          else none) ∧
      (i + 1 < List.chunkCount (fragmentCapacity board.canMode) packet.length →
        (core.acceptCan board frame).Receiving streamId transferId
          (packet.take ((i + 1) * fragmentCapacity board.canMode)) (UInt16.ofNat (i + 1))) := by
  obtain ⟨place, slot, hslot, hserves, hpacket, hnext, honly⟩ := h
  refine following_spec hsize hi hlistens ?_ hpacket hnext honly
  unfold slotFor
  rw [show core.findSlot streamId (packetFragment board.canMode packet transferId i).transferId =
    some place from findSlot_of_onlyAt hslot hserves honly]
  dsimp only
  rw [hslot]
  rfl

/-- The first fragment of a transfer that finds room. -/
theorem first_spec (hsize : packet.length ≤ config.maxPacketSize)
    (hi : 0 < List.chunkCount (fragmentCapacity board.canMode) packet.length)
    (hlistens : core.listens streamId = true)
    (hnone : core.findSlot streamId transferId = none) (hfree : core.freeSlot ≠ none) :
    let frame :=
      wireFrame board.canMode streamId (packetFragment board.canMode packet transferId 0).frame
    core.completed board frame =
        (if 0 + 1 = List.chunkCount (fragmentCapacity board.canMode) packet.length then some packet
          else none) ∧
      (0 + 1 < List.chunkCount (fragmentCapacity board.canMode) packet.length →
        (core.acceptCan board frame).Receiving streamId transferId
          (packet.take ((0 + 1) * fragmentCapacity board.canMode)) (UInt16.ofNat (0 + 1))) := by
  obtain ⟨place, hplace⟩ := Option.ne_none_iff_exists'.1 hfree
  have hfirst : ¬(packetFragment board.canMode packet transferId 0).flags &&& RBSP_FRAGMENT_FIRST =
      0 := by
    obtain ⟨hmarker, -, -⟩ := splitFragment_markers (fragmentCapacity board.canMode)
      (List.chunkCount (fragmentCapacity board.canMode) packet.length) packet transferId 0
    rw [decide_eq_true rfl, Fragment.isFirst, bne_iff_ne] at hmarker
    exact hmarker
  have hslot : core.slotFor streamId (packetFragment board.canMode packet transferId 0) =
      some (place, ⟨streamId, transferId, 0, 0, []⟩) := by
    unfold slotFor
    rw [show core.findSlot streamId (packetFragment board.canMode packet transferId 0).transferId =
      none from hnone]
    dsimp only
    rw [if_neg hfirst, hplace]
    rfl
  refine following_spec hsize hi hlistens hslot ?_ rfl fun place' slot' hslot' hserves' => ?_
  · rw [Nat.zero_mul, List.take_zero]
  · exact absurd hserves' (findSlot_eq_none hnone hslot')

/-- A fragment that is received again leaves what has been received. -/
theorem Receiving.again (hsize : packet.length ≤ config.maxPacketSize) {i j : ℕ} (hji : j < i)
    (hi : i < List.chunkCount (fragmentCapacity board.canMode) packet.length)
    (hlistens : core.listens streamId = true)
    (h : core.Receiving streamId transferId (packet.take (i * fragmentCapacity board.canMode))
      (UInt16.ofNat i)) :
    let frame :=
      wireFrame board.canMode streamId (packetFragment board.canMode packet transferId j).frame
    core.completed board frame = none ∧
      (core.acceptCan board frame).Receiving streamId transferId
        (packet.take (i * fragmentCapacity board.canMode)) (UInt16.ofNat i) := by
  -- The frame parses as an earlier fragment, which finds the slot of its transfer.
  intro frame
  obtain ⟨place, slot, hslot, hserves, hpacket, hnext, honly⟩ := h
  have hmaximum := config.maxPacketSize_range.2
  have hparse : parseFrame board.canMode frame.data =
      some (packetFragment board.canMode packet transferId j) :=
    parseFrame_wireFrame transferId streamId (hsize.trans hmaximum) (hji.trans hi)
  have hslotFor : core.slotFor frame.identifier (packetFragment board.canMode packet transferId j) =
      some (place, slot) := by
    unfold slotFor
    rw [show core.findSlot frame.identifier
      (packetFragment board.canMode packet transferId j).transferId = some place from
        findSlot_of_onlyAt hslot hserves honly]
    dsimp only
    rw [hslot]
    rfl
  obtain ⟨haccept, hcompleted⟩ := acceptCan_of_slotFor hlistens hparse hslotFor
  have hbefore :
      (packetFragment board.canMode packet transferId j).sequence < slot.nextSequence := by
    have hpos : 0 < fragmentCapacity board.canMode := by
      have := fragmentCapacity_cases board.canMode
      omega
    have hcount : List.chunkCount (fragmentCapacity board.canMode) packet.length ≤ packet.length :=
      chunkCount_le hpos
    have hi16 : (UInt16.ofNat i).toNat = i := UInt16.toNat_ofNat_of_lt (show _ < 2^16 by omega)
    have hj16 : (UInt16.ofNat j).toNat = j := UInt16.toNat_ofNat_of_lt (show _ < 2^16 by omega)
    rw [hnext]
    change UInt16.ofNat j < UInt16.ofNat i
    rwa [UInt16.lt_iff_toNat_lt, hi16, hj16]
  -- The fragment completes nothing, and the slot stays as it is.
  refine ⟨by rw [hcompleted, if_pos (.inl hbefore)], ?_⟩
  rw [haccept]
  unfold acceptFragment
  rw [if_pos hbefore]
  split
  · refine ⟨place, _, reassembly_storeSlot_self _ _, hserves, hpacket, hnext,
      fun place' slot' hslot' hserves' => ?_⟩
    by_contra hne
    rw [reassembly_storeSlot_ne hne] at hslot'
    exact hne (honly place' slot' hslot' hserves')
  · exact ⟨place, slot, hslot, hserves, hpacket, hnext, honly⟩

end Core

/-! ## A whole transfer -/

variable {board : Board W} {streamId : UInt32}

/-- What the node has of a transfer after its first `i` frames. -/
def Received (board : Board W) (streamId : UInt32) (transferId : UInt16) (packet : List UInt8)
    (i : ℕ) (core : Core config W) : Prop :=
  0 < i → i < List.chunkCount (fragmentCapacity board.canMode) packet.length →
    core.Receiving streamId transferId (packet.take (i * fragmentCapacity board.canMode))
      (UInt16.ofNat i)

variable (mode canId transferId) in
/-- The frames of a packet are of its transfer, and carry their indices. -/
theorem header_wireFrame {i : ℕ} (hsize : packet.length ≤ kMaximumPacketSize)
    (hi : i < List.chunkCount (fragmentCapacity mode) packet.length) :
    let frame := wireFrame mode canId (packetFragment mode packet transferId i).frame
    (ReceiverEvent.accept frame).ofTransfer canId transferId = true ∧
      getU16 frame.data 2 = UInt16.ofNat i := by
  obtain ⟨htransfer, hsequence⟩ := header_of_parseFrame
    (parseFrame_wireFrame transferId canId hsize hi)
  exact ⟨decide_eq_true ⟨rfl, htransfer.symm⟩, hsequence.symm⟩

/-- The next frame of a transfer: with the last one the packet is complete. -/
theorem Received.following {core : Core config W} (hsize : packet.length ≤ config.maxPacketSize)
    {i : ℕ} (hi : i < List.chunkCount (fragmentCapacity board.canMode) packet.length)
    (h : Received board streamId transferId packet i core)
    (hundisturbed : Undisturbed board streamId transferId core
      (.accept (wireFrame board.canMode streamId
        (packetFragment board.canMode packet transferId i).frame))) :
    let frame :=
      wireFrame board.canMode streamId (packetFragment board.canMode packet transferId i).frame
    core.completed board frame =
        (if i + 1 = List.chunkCount (fragmentCapacity board.canMode) packet.length then some packet
          else none) ∧
      Received board streamId transferId packet (i + 1) (core.acceptCan board frame) := by
  obtain ⟨hmine, hindex⟩ := header_wireFrame board.canMode transferId streamId
    (hsize.trans config.maxPacketSize_range.2) hi
  obtain ⟨hlistens, hroom⟩ := hundisturbed hmine
  rcases Nat.eq_zero_or_pos i with rfl | hpos
  · obtain ⟨hnone, hfree⟩ := hroom hindex
    obtain ⟨hcompleted, hnext⟩ := Core.first_spec hsize hi hlistens hnone hfree
    exact ⟨hcompleted, fun _ => hnext⟩
  · obtain ⟨hcompleted, hnext⟩ := (h hpos hi).following hsize hi hlistens
    exact ⟨hcompleted, fun _ => hnext⟩

/-- Events that are not of the transfer leave what the node has of it. -/
theorem Received.other {core : Core config W} {i : ℕ} {event : ReceiverEvent}
    (h : Received board streamId transferId packet i core)
    (hother : event.ofTransfer streamId transferId = false)
    (hundisturbed : Undisturbed board streamId transferId core event) :
    Received board streamId transferId packet i ((receiver config board).step core event).1 := by
  intro hpos hi
  cases event with
  | accept frame => exact (h hpos hi).acceptCan_other (of_decide_eq_false hother)
  | poll => exact (h hpos hi).poll hundisturbed

/-- The frames of a transfer that are left hand the packet over once. -/
theorem outcomes_interleaved {frames : List CanFrame} {i : ℕ} {events : List ReceiverEvent}
    (hsize : packet.length ≤ config.maxPacketSize)
    (hframes : frames = (List.range
      (List.chunkCount (fragmentCapacity board.canMode) packet.length)).map fun i =>
        wireFrame board.canMode streamId (packetFragment board.canMode packet transferId i).frame)
    (hevents : Interleaved (ReceiverEvent.ofTransfer streamId transferId) frames i events)
    {core : Core config W} (hreceived : Received board streamId transferId packet i core)
    (halong : (receiver config board).Along (Undisturbed board streamId transferId) core events) :
    ((receiver config board).outcomesOf (ReceiverEvent.ofTransfer streamId transferId) core
      events).reduceOption = if i < frames.length then [packet] else [] := by
  have hsize' := hsize.trans config.maxPacketSize_range.2
  have hlength : frames.length =
      List.chunkCount (fragmentCapacity board.canMode) packet.length := by
    rw [hframes, List.length_map, List.length_range]
  have hget : ∀ (j : ℕ) (hj : j < frames.length), frames[j] = wireFrame board.canMode streamId
      (packetFragment board.canMode packet transferId j).frame := by
    intro j hj
    simp only [hframes, List.getElem_map, List.getElem_range]
  -- The induction is on the frames that are left, of which each may come again.
  induction hevents generalizing core with
  | finish =>
    rw [if_neg (lt_irrefl _)]
    rfl
  | @following i events hi _ ih =>
    obtain ⟨hundisturbed, hrest⟩ := halong
    rw [hget i hi] at hundisturbed hrest ⊢
    have hi' : i < List.chunkCount (fragmentCapacity board.canMode) packet.length := hlength ▸ hi
    obtain ⟨hcompleted, hnext⟩ := hreceived.following hsize hi' hundisturbed
    obtain ⟨hmine, -⟩ := header_wireFrame board.canMode transferId streamId hsize' hi'
    have htail : ((receiver config board).outcomesOf (ReceiverEvent.ofTransfer streamId transferId)
        ((receiver config board).step core (.accept (wireFrame board.canMode streamId
          (packetFragment board.canMode packet transferId i).frame))).1 events).reduceOption = _ :=
      ih hnext hrest
    unfold Machine.outcomesOf
    rw [if_pos hmine, if_pos hi]
    change List.reduceOption (core.completed board _ :: _) = _
    rw [hcompleted]
    split
    · next hend =>
      rw [List.reduceOption_cons_of_some, htail, if_neg]
      omega
    · next hmore =>
      rw [List.reduceOption_cons_of_none, htail, if_pos]
      omega
  | @again i j events hj hji hi _ ih =>
    -- The fragment has been received before, and is passed over.
    obtain ⟨hundisturbed, hrest⟩ := halong
    rw [List.get_eq_getElem, hget j] at hundisturbed hrest ⊢
    have hi' : i < List.chunkCount (fragmentCapacity board.canMode) packet.length := hlength ▸ hi
    obtain ⟨hmine, -⟩ := header_wireFrame board.canMode transferId streamId hsize'
      (hji.trans hi')
    have hlistens := (hundisturbed hmine).1
    obtain ⟨hcompleted, hnext⟩ :=
      (hreceived (hj.trans hji) hi').again hsize hji hi' hlistens
    unfold Machine.outcomesOf
    rw [if_pos hmine]
    change List.reduceOption (core.completed board _ :: _) = _
    rw [hcompleted, List.reduceOption_cons_of_none]
    exact ih (fun _ _ => hnext) hrest
  | other hother _ ih =>
    obtain ⟨hundisturbed, hrest⟩ := halong
    unfold Machine.outcomesOf
    rw [if_neg (Bool.not_eq_true _ ▸ hother)]
    exact ih (hreceived.other hother hundisturbed) hrest

/-- The fragments of the firmware are those of the host, in both directions. It sends the frames of
`split`, padded. If the frames of `split` reach it padded and in order, between
events that are not of the transfer and repetitions, and it listens to each of them, the packet is
handed over once. -/
theorem fragments_interoperate (config : CoreConfig) (board : Board W) (packet : List UInt8)
    (transferId : UInt16) (hpos : 0 < packet.length) (hsize : packet.length ≤ kMaximumPacketSize) :
    ∃ frames, split board.canMode.mtu packet transferId = .ok frames ∧
      (∀ (bus : W → List CanFrame) (canId : UInt32) (world : W), Sends board.hal bus →
        let result := sendLoop board.hal board.canMode packet transferId canId (packet.length + 1)
          0 0 world
        result.1 = true ∧
          bus result.2 = bus world ++ frames.map (wireFrame board.canMode canId)) ∧
      (packet.length ≤ config.maxPacketSize →
        ∀ (streamId : UInt32) (core : Core config W) (events : List ReceiverEvent),
          Interleaved (ReceiverEvent.ofTransfer streamId transferId)
            (frames.map (wireFrame board.canMode streamId)) 0 events →
          (receiver config board).Along (Undisturbed board streamId transferId) core events →
          ((receiver config board).outcomesOf (ReceiverEvent.ofTransfer streamId transferId) core
            events).reduceOption = [packet]) := by
  have hroom : kFragmentHeaderSize < board.canMode.mtu := by cases board.canMode <;> decide
  have hmtu : board.canMode.mtu ≤ 68 := by cases board.canMode <;> decide
  have hcapacity := fragmentCapacity_cases board.canMode
  have hsplit := split_spec hroom hmtu hpos hsize transferId
  refine ⟨_, hsplit, fun bus canId world hsends => ?_, fun hfits streamId core events hevents
    halong => ?_⟩
  · rw [sendLoop_eq hsize, packetFrames_eq_split board.canMode canId transferId hsplit]
    exact hsends.sendFrames world _
  · have hcount : 0 < List.chunkCount (fragmentCapacity board.canMode) packet.length := by
      refine (List.mul_lt_iff_lt_chunkCount (by omega)).1 ?_
      rwa [Nat.zero_mul]
    have houtcomes := outcomes_interleaved hfits
      (List.map_map (g := wireFrame board.canMode streamId)) hevents
      (fun h => absurd h (lt_irrefl 0)) halong
    rw [List.length_map, List.length_map, List.length_range] at houtcomes
    exact houtcomes.trans (if_pos hcount)

/-- The UUID of the board to which the fragments go. -/
def deskUuid : NodeUuid := ⟨List.replicate 16 1, List.length_replicate⟩

/-- A PING whose payload is too long for one CAN FD frame. -/
def longPing : List UInt8 := encodePacket .request Command.ping 1 1 0 0 (List.replicate 40 7)

/-- The frames of the packet for node 5. -/
def longPingFrames : List CanFrame := packetFrames .flexibleDataRate longPing 8 0x605

/-- An assignment of a node ID to the board, in one frame. -/
def assignmentFrames (nodeId : UInt32) : List CanFrame :=
  packetFrames .flexibleDataRate
    (encodePacket .request Command.nodeAssign 0 9 0 0 (deskUuid.bytes ++ putU32 nodeId)) 8 0x700

/-- A board that has the node ID 5. -/
def assignedCore : Core benchConfig Bench := { benchCore with nodeId := 5 }

/-- The first frame of the packet, the assignment of a node ID, and the second frame. -/
def assignmentRun (nodeId : UInt32) : List ReceiverEvent :=
  (longPingFrames.take 1 ++ assignmentFrames nodeId ++ longPingFrames.drop 1).map .accept

/-- The assignment stands between the frames of the packet. -/
theorem interleaved_assignmentRun {nodeId : UInt32} (hone : (assignmentFrames nodeId).length = 1)
    (hother : ∀ frame ∈ assignmentFrames nodeId,
      (ReceiverEvent.accept frame).ofTransfer 0x605 8 = false) :
    Interleaved (ReceiverEvent.ofTransfer 0x605 8) longPingFrames 0 (assignmentRun nodeId) := by
  obtain ⟨first, second, hpair⟩ := List.length_eq_two.1
    (show longPingFrames.length = 2 by decide +kernel)
  obtain ⟨assignment, hassignment⟩ := List.length_eq_one_iff.1 hone
  have hmine := hother assignment (hassignment ▸ List.mem_singleton_self assignment)
  unfold assignmentRun
  rw [hpair, hassignment]
  exact .following (Nat.zero_lt_succ 1 : 0 < [first, second].length)
    (.other hmine (.following (Nat.lt_succ_self 1 : 1 < [first, second].length) .finish))

/-- The packet is handed over when the node is assigned the node ID that it has. -/
theorem fragments_interoperate_reassigned :
    ((receiver benchConfig (benchBoard deskUuid)).outcomesOf (ReceiverEvent.ofTransfer 0x605 8)
      assignedCore (assignmentRun 5)).reduceOption = [longPing] := by
  obtain ⟨frames, hsplit, -, hreceive⟩ := fragments_interoperate benchConfig (benchBoard deskUuid)
    longPing 8 (by decide +kernel) (by decide +kernel)
  have hframes : longPingFrames = frames.map (wireFrame .flexibleDataRate 0x605) :=
    packetFrames_eq_split .flexibleDataRate 0x605 8 hsplit
  refine hreceive (by decide +kernel) 0x605 assignedCore _ ?_ (by decide +kernel)
  change Interleaved _ (frames.map (wireFrame .flexibleDataRate 0x605)) 0 _
  rw [← hframes]
  exact interleaved_assignmentRun (by decide +kernel) (by decide +kernel)

/-- Another node ID is assigned between the frames of a packet, which is not handed over, although
all slots were free: the node does not listen to the second frame. -/
theorem fragments_lost_by_assignment :
    ∃ frames, split CanMode.flexibleDataRate.mtu longPing 8 = .ok frames ∧
      Interleaved (ReceiverEvent.ofTransfer 0x605 8)
        (frames.map (wireFrame .flexibleDataRate 0x605)) 0 (assignmentRun 6) ∧
      assignedCore.listens 0x605 = true ∧ (∀ place, assignedCore.reassembly place = none) ∧
      ((receiver benchConfig (benchBoard deskUuid)).outcomesOf (ReceiverEvent.ofTransfer 0x605 8)
        assignedCore (assignmentRun 6)).reduceOption = [] := by
  have hsplit := split_spec
    (show kFragmentHeaderSize < CanMode.flexibleDataRate.mtu by decide) (by decide)
    (show 0 < longPing.length by decide +kernel)
    (show longPing.length ≤ kMaximumPacketSize by decide +kernel) 8
  refine ⟨_, hsplit, ?_, by decide, fun _ => rfl, by decide +kernel⟩
  rw [← packetFrames_eq_split .flexibleDataRate 0x605 8 hsplit]
  exact interleaved_assignmentRun (by decide +kernel) (by decide +kernel)

end RemoteBSP.Firmware
