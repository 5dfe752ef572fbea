import RemoteBSP.Protocol.Reassembler
import RemoteBSP.Transport.CanFrame

/-!
# A packet comes back from its frames

From `Fragmenter::split`, through the frames of either CAN mode, to `Reassembler::accept`: the
packet is returned at the arrival that completes it, whatever the order of the arrivals after the
first fragment and however often each of them is repeated (`transport_round_trip`).

The state of a transfer depends only on the set of the indexes that have arrived
(`Transfer.Holds`). `accept_seen` and `accept_new` are the two steps, a repeated fragment and a new
one, and the completion scan succeeds exactly when the set has all indexes (`Holds.tryComplete`).
-/

namespace RemoteBSP

/-- The number of the fragments of a packet. -/
def fragmentCount (capacity : ℕ) (packet : List UInt8) : ℕ :=
  List.chunkCount capacity packet.length

/-- The fragment with number `i` into which a packet is cut. -/
def fragmentAt (capacity : ℕ) (packet : List UInt8) (transferId : UInt16) (i : ℕ) : Fragment :=
  splitFragment capacity (fragmentCount capacity packet) packet transferId i

namespace Transfer

/-- A transfer, not complete, that holds the fragments with the indexes of `seen`. -/
structure Holds (capacity : ℕ) (packet : List UInt8) (transferId : UInt16) (seen : Finset ℕ)
    (t : Transfer) : Prop where
  /-- The indexes are those of fragments. -/
  subset : seen ⊆ Finset.range (fragmentCount capacity packet)
  /-- The packet has not been returned. -/
  incomplete : t.complete = false
  /-- The payload kept under a sequence number is the part of the packet with this number. -/
  pieces : ∀ i < 2^16, t.pieces.lookup (UInt16.ofNat i) =
    if i ∈ seen then some (packet.chunk capacity i) else none
  /-- The flags kept under a sequence number are those with which the part was sent. -/
  flags : ∀ i < 2^16, t.pieceFlags.lookup (UInt16.ofNat i) =
    if i ∈ seen then some (fragmentAt capacity packet transferId i).flags else none
  /-- The last sequence is known once the last fragment has arrived. -/
  last : t.lastSequence = if fragmentCount capacity packet - 1 ∈ seen then
    some (UInt16.ofNat (fragmentCount capacity packet - 1)) else none
  /-- The counter of bytes is the sum over the parts that are there. -/
  size : t.receivedSize = ∑ i ∈ seen, (packet.chunk capacity i).length

variable {capacity : ℕ} {packet : List UInt8} {transferId : UInt16} {seen : Finset ℕ}
  {t : Transfer}

/-- A transfer that has just been opened holds no part. -/
theorem holds_empty (now : ℤ) : (empty now).Holds capacity packet transferId ∅ where
  subset := Finset.empty_subset _
  incomplete := rfl
  pieces _ _ := rfl
  flags _ _ := rfl
  last := rfl
  size := rfl

/-- When a transfer was last updated says nothing about what it holds. -/
theorem Holds.touch (h : t.Holds capacity packet transferId seen) (now : ℤ) :
    ({ t with lastUpdate := now } : Transfer).Holds capacity packet transferId seen :=
  ⟨h.subset, h.incomplete, h.pieces, h.flags, h.last, h.size⟩

/-- Indexes below `2^16` are told apart by their sequences. -/
theorem ofNat_eq_iff {i j : ℕ} (hi : i < 2^16) (hj : j < 2^16) :
    UInt16.ofNat i = UInt16.ofNat j ↔ i = j := by
  rw [← UInt16.toNat_inj, UInt16.toNat_ofNat_of_lt' hi, UInt16.toNat_ofNat_of_lt' hj]

/-- A map that holds a value for each sequence seen, with the value of one more. -/
theorem lookup_insert_seen {V : Type} {m : Map UInt16 V} (value : ℕ → V)
    (hm : ∀ j < 2^16, m.lookup (UInt16.ofNat j) = if j ∈ seen then some (value j) else none)
    {i : ℕ} (hi : i < 2^16) : ∀ j < 2^16, (m.insert (UInt16.ofNat i) (value i)).lookup
      (UInt16.ofNat j) = if j ∈ insert i seen then some (value j) else none := by
  intro j hj
  rw [Map.lookup_insert_ite, hm j hj]
  simp only [ofNat_eq_iff hj hi, Finset.mem_insert]
  by_cases hji : j = i
  · rw [if_pos hji, if_pos (.inl hji), hji]
  · simp only [hji, false_or, if_false]

/-- All chunks together are as long as the packet. -/
theorem sum_length_chunk (hcapacity : 0 < capacity) :
    ∑ i ∈ Finset.range (fragmentCount capacity packet), (packet.chunk capacity i).length =
      packet.length := by
  conv_rhs => rw [← List.flatMap_chunk hcapacity packet]
  rw [List.length_flatMap]
  rfl

/-- One more index of the packet's fragments leaves the sum within the packet. -/
theorem Holds.size_insert_le (hcapacity : 0 < capacity)
    (h : t.Holds capacity packet transferId seen) {i : ℕ} (hnew : i ∉ seen)
    (hi : i < fragmentCount capacity packet) :
    t.receivedSize + (packet.chunk capacity i).length ≤ packet.length := by
  have hsubset : insert i seen ⊆ Finset.range (fragmentCount capacity packet) :=
    Finset.insert_subset (Finset.mem_range.2 hi) h.subset
  rw [h.size, Nat.add_comm, ← Finset.sum_insert hnew
    (f := fun i => (packet.chunk capacity i).length),
    ← sum_length_chunk hcapacity]
  exact Finset.sum_le_sum_of_subset hsubset

/-- The transfer with one more fragment. -/
theorem Holds.addPiece (h : t.Holds capacity packet transferId seen) {i : ℕ} (hnew : i ∉ seen)
    (hi : i < fragmentCount capacity packet) (hcount : fragmentCount capacity packet < 2^16)
    (now : ℤ) :
    (t.addPiece (fragmentAt capacity packet transferId i) now).Holds capacity packet transferId
      (insert i seen) := by
  have hi16 : i < 2^16 := hi.trans hcount
  obtain ⟨-, hlast, -⟩ := splitFragment_markers capacity (fragmentCount capacity packet) packet
    transferId i
  refine ⟨Finset.insert_subset (Finset.mem_range.2 hi) h.subset, h.incomplete, ?_, ?_, ?_, ?_⟩
  · exact lookup_insert_seen (fun j => packet.chunk capacity j) h.pieces hi16
  · exact lookup_insert_seen (fun j => (fragmentAt capacity packet transferId j).flags) h.flags hi16
  · show (if (fragmentAt capacity packet transferId i).isLast then
      some (UInt16.ofNat i) else t.lastSequence) = _
    rw [fragmentAt, hlast, h.last]
    by_cases hil : i + 1 = fragmentCount capacity packet
    · have hpred : fragmentCount capacity packet - 1 = i := by omega
      rw [decide_eq_true hil, if_pos rfl, hpred, if_pos (Finset.mem_insert_self i seen)]
    · have hpred : fragmentCount capacity packet - 1 ≠ i := by omega
      simp only [decide_eq_false hil, Bool.false_eq_true, if_false, Finset.mem_insert, hpred,
        false_or]
  · show t.receivedSize + (packet.chunk capacity i).length = _
    rw [Finset.sum_insert hnew, h.size, Nat.add_comm]

/-- The completion scan succeeds when all fragments are there, and then finds the packet. -/
theorem Holds.tryComplete (hcapacity : 0 < capacity) (hpos : 0 < fragmentCount capacity packet)
    (hcount : fragmentCount capacity packet < 2^16)
    (h : t.Holds capacity packet transferId seen) :
    t.tryComplete =
      if seen = Finset.range (fragmentCount capacity packet) then some packet else none := by
  have hlast16 : (UInt16.ofNat (fragmentCount capacity packet - 1)).toNat =
      fragmentCount capacity packet - 1 :=
    UInt16.toNat_ofNat_of_lt' (show _ < 2^16 by omega)
  split_ifs with hall
  · -- All fragments are there, so every piece of the scan is a chunk of the packet.
    rw [tryComplete_eq_some_iff]
    have hmem : ∀ i < fragmentCount capacity packet,
        t.pieces.lookup (UInt16.ofNat i) = some (packet.chunk capacity i) := by
      intro i hi
      rw [h.pieces i (hi.trans hcount), hall, if_pos (Finset.mem_range.2 hi)]
    refine ⟨UInt16.ofNat (fragmentCount capacity packet - 1), ?_, ?_, ?_⟩
    · rw [h.last, hall, if_pos (Finset.mem_range.2 (by omega))]
    · intro s hs
      rw [UInt16.le_iff_toNat_le, hlast16] at hs
      rw [← UInt16.ofNat_toNat (x := s), hmem s.toNat (by omega), Option.isSome_some]
    · rw [payloads, hlast16, Nat.sub_add_cancel hpos]
      conv_lhs => rw [← List.flatMap_chunk hcapacity packet]
      refine List.flatMap_congr fun i hi => ?_
      rw [hmem i (List.mem_range.1 hi), Option.getD_some]
  · -- A success would have found every fragment.
    rw [Option.eq_none_iff_forall_ne_some]
    intro found hfound
    obtain ⟨last, hlast, hpieces, -⟩ := tryComplete_eq_some_iff.1 hfound
    rw [h.last] at hlast
    split_ifs at hlast with hmem
    obtain rfl := Option.some.inj hlast
    refine hall (h.subset.antisymm fun i hi => ?_)
    rw [Finset.mem_range] at hi
    have hpiece := hpieces (UInt16.ofNat i) (by
      rw [UInt16.le_iff_toNat_le, hlast16, UInt16.toNat_ofNat_of_lt' (show i < 2^16 by omega)]
      omega)
    rw [h.pieces i (by omega)] at hpiece
    by_contra hnot
    simp [hnot] at hpiece

/-- A fragment that has arrived before is a duplicate. -/
theorem Holds.accept_seen (h : t.Holds capacity packet transferId seen) {i : ℕ} (hi : i ∈ seen)
    (hcount : fragmentCount capacity packet < 2^16) (now : ℤ) :
    t.accept (fragmentAt capacity packet transferId i) now =
      (.ok ⟨.duplicate, none⟩, some { t with lastUpdate := now }) := by
  have hi16 : i < 2^16 := (Finset.mem_range.1 (h.subset hi)).trans hcount
  have hpiece : t.pieces.lookup (fragmentAt capacity packet transferId i).sequence =
      some (fragmentAt capacity packet transferId i).payload := by
    show t.pieces.lookup (UInt16.ofNat i) = _
    rw [h.pieces i hi16, if_pos hi]
    rfl
  have hflags : t.pieceFlags.lookup (fragmentAt capacity packet transferId i).sequence =
      some (fragmentAt capacity packet transferId i).flags := by
    show t.pieceFlags.lookup (UInt16.ofNat i) = _
    rw [h.flags i hi16, if_pos hi]
  unfold accept
  simp [hpiece, hflags, h.incomplete]

/-- A new fragment completes the transfer if it is the last one missing. -/
theorem Holds.accept_new (hcapacity : 0 < capacity) (hsize : packet.length ≤ kMaximumPacketSize)
    (h : t.Holds capacity packet transferId seen) {i : ℕ} (hnew : i ∉ seen)
    (hi : i < fragmentCount capacity packet) (hcount : fragmentCount capacity packet < 2^16)
    (now : ℤ) :
    if insert i seen = Finset.range (fragmentCount capacity packet) then
      (t.accept (fragmentAt capacity packet transferId i) now).1 = .ok ⟨.complete, some packet⟩
    else
      t.accept (fragmentAt capacity packet transferId i) now =
        (.ok ⟨.inProgress, none⟩,
          some (t.addPiece (fragmentAt capacity packet transferId i) now)) := by
  have hi16 : i < 2^16 := hi.trans hcount
  have hseq : (fragmentAt capacity packet transferId i).sequence = UInt16.ofNat i := rfl
  have hpiece : t.pieces.lookup (fragmentAt capacity packet transferId i).sequence = none := by
    rw [hseq, h.pieces i hi16, if_neg hnew]
  -- The checks of `accept` pass.
  have hafter : ¬ (t.complete = true ∨
      ∃ last ∈ t.lastSequence, last < (fragmentAt capacity packet transferId i).sequence) := by
    rintro (hcomplete | ⟨last, hlast, hlt⟩)
    · rw [h.incomplete] at hcomplete
      exact Bool.false_ne_true hcomplete
    · rw [h.last, Option.mem_def] at hlast
      split_ifs at hlast
      rw [hseq, ← Option.some.inj hlast, UInt16.lt_iff_toNat_lt,
        UInt16.toNat_ofNat_of_lt' (show _ < 2^16 by omega), UInt16.toNat_ofNat_of_lt' hi16] at hlt
      omega
  have honly : ¬ ((fragmentAt capacity packet transferId i).isLast = true ∧
      ∃ last ∈ t.lastSequence, last ≠ (fragmentAt capacity packet transferId i).sequence) := by
    rintro ⟨hisLast, last, hlast, -⟩
    rw [fragmentAt, (splitFragment_markers _ _ _ _ _).2.1, decide_eq_true_iff] at hisLast
    rw [h.last, Option.mem_def] at hlast
    split_ifs at hlast with hmem
    exact hnew (by rwa [show fragmentCount capacity packet - 1 = i by omega] at hmem)
  have hfits : ¬ kMaximumPacketSize <
      t.receivedSize + (fragmentAt capacity packet transferId i).payload.length := by
    have := h.size_insert_le hcapacity hnew hi
    exact not_lt.2 (this.trans hsize)
  have htry := (h.addPiece hnew hi hcount now).tryComplete hcapacity (by omega) hcount
  unfold accept
  simp only [hpiece, hafter, honly, hfits, if_false, htry]
  split_ifs <;> rfl

end Transfer

/-- The arrival of a frame: which of the frames it is, and when. -/
structure Arrival where
  /-- The index of the frame among those of the packet. -/
  index : ℕ
  /-- The time at which the frame arrives. -/
  now : ℤ
deriving DecidableEq, Repr

/-- Arrivals of the frames of a packet, `count` of them, of which the last one is the first of the
last frame that was missing. -/
structure Arrivals (count : ℕ) (timeout : ℤ) (before : List Arrival) (final : Arrival) : Prop where
  /-- The fragment that opens the transfer arrives before all others. -/
  first : ∀ arrival ∈ (before ++ [final]).head?, arrival.index = 0
  /-- The frames that arrive are those of the packet. -/
  index_lt : ∀ arrival ∈ before ++ [final], arrival.index < count
  /-- No frame is lost: each number arrives at some time. -/
  covers : ∀ i < count, ∃ arrival ∈ before ++ [final], arrival.index = i
  /-- The last one has not arrived before. -/
  missing : ∀ arrival ∈ before, arrival.index ≠ final.index
  /-- The transfer does not time out between two arrivals. -/
  gaps : (before ++ [final]).IsChain fun earlier later => later.now - earlier.now < timeout

/-- What the receiver does with an arrival: it decodes the CAN frame that the sender has encoded,
and hands the data to `accept`, with the identifier as the stream. -/
def Arrival.call (mode : CanMode) (identifier : UInt32) (bitRateSwitch : Bool)
    (frames : List (List UInt8)) (arrival : Arrival) : Except CanFrameException AcceptCall := do
  let message ← mode.transmit
    ⟨identifier, false, frames.getD arrival.index [], bitRateSwitch⟩
  return ⟨message.identifier, message.data, arrival.now⟩

section Feeding

variable {capacity : ℕ} {packet : List UInt8} {transferId : UInt16} {streamId : UInt32}
  {frame : ℕ → List UInt8} {mtu : ℕ} {timeout : ℤ}

/-- The reassembler is ready for an arrival: the fragment goes to a transfer that holds what has
arrived. -/
def Reassembler.Ready (r : Reassembler) (capacity : ℕ) (packet : List UInt8) (transferId : UInt16)
    (streamId : UInt32) (seen : Finset ℕ) (arrival : Arrival) : Prop :=
  ∃ t : Transfer, t.Holds capacity packet transferId seen ∧
    r.transferFor streamId (fragmentAt capacity packet transferId arrival.index) arrival.now =
      some t

/-- After a transfer has been put back, the reassembler is ready for the next arrival in time. -/
theorem Reassembler.ready_store {r : Reassembler} {t : Transfer} {seen : Finset ℕ}
    (h : t.Holds capacity packet transferId seen) {arrival : Arrival}
    (hgap : arrival.now - t.lastUpdate < r.timeout) :
    (r.store (key streamId transferId) (some t)).Ready capacity packet transferId streamId seen
      arrival := by
  refine ⟨t, h, ?_⟩
  have hlive : live r.timeout arrival.now t = true := by
    simp only [live, Bool.not_eq_true', decide_eq_false_iff_not, not_le, hgap]
  unfold transferFor
  rw [show (fragmentAt capacity packet transferId arrival.index).transferId = transferId from rfl,
    lookup_store, if_pos rfl, (store_config _ _ _).2, Option.filter_some_pos hlive]

/-- One arrival before the last: in progress or a duplicate, and the reassembler is ready for the
next one. -/
theorem Reassembler.Ready.step (hcapacity : 0 < capacity)
    (hsize : packet.length ≤ kMaximumPacketSize) (hcount : fragmentCount capacity packet < 2^16)
    {r : Reassembler} {seen : Finset ℕ} {arrival : Arrival}
    (hready : r.Ready capacity packet transferId streamId seen arrival)
    (hdecode : decodeFragment (frame arrival.index) r.mtu =
      .ok (fragmentAt capacity packet transferId arrival.index))
    (hi : arrival.index < fragmentCount capacity packet)
    (hopen : insert arrival.index seen ≠ Finset.range (fragmentCount capacity packet)) :
    ((r.accept streamId (frame arrival.index) arrival.now).1 = .ok ⟨.inProgress, none⟩ ∨
      (r.accept streamId (frame arrival.index) arrival.now).1 = .ok ⟨.duplicate, none⟩) ∧
    ∀ next : Arrival, next.now - arrival.now < r.timeout →
      (r.accept streamId (frame arrival.index) arrival.now).2.Ready capacity packet transferId
        streamId (insert arrival.index seen) next := by
  obtain ⟨t, hholds, hfor⟩ := hready
  rw [accept_spec hdecode hfor]
  by_cases hseen : arrival.index ∈ seen
  · rw [hholds.accept_seen hseen hcount, Finset.insert_eq_of_mem hseen]
    exact ⟨.inr rfl, fun next hgap => ready_store (hholds.touch arrival.now) hgap⟩
  · have haccept := hholds.accept_new hcapacity hsize hseen hi hcount arrival.now
    rw [if_neg hopen] at haccept
    rw [haccept]
    exact ⟨.inl rfl, fun next hgap =>
      ready_store (hholds.addPiece hseen hi hcount arrival.now) hgap⟩

/-- The arrivals from any point on. -/
theorem Reassembler.Ready.outcomes (hcapacity : 0 < capacity)
    (hsize : packet.length ≤ kMaximumPacketSize) (hcount : fragmentCount capacity packet < 2^16)
    (hdecode : ∀ i < fragmentCount capacity packet,
      decodeFragment (frame i) mtu = .ok (fragmentAt capacity packet transferId i))
    {before : List Arrival} {final : Arrival} {r : Reassembler} {seen : Finset ℕ}
    (hmtu : r.mtu = mtu) (htimeout : r.timeout = timeout)
    (hready : ∀ arrival ∈ (before ++ [final]).head?,
      r.Ready capacity packet transferId streamId seen arrival)
    (hindex : ∀ arrival ∈ before ++ [final], arrival.index < fragmentCount capacity packet)
    (hall : ∀ i < fragmentCount capacity packet,
      i ∈ seen ∨ ∃ arrival ∈ before ++ [final], arrival.index = i)
    (hsubset : seen ⊆ Finset.range (fragmentCount capacity packet))
    (hmissing : final.index ∉ seen) (hbefore : ∀ arrival ∈ before, arrival.index ≠ final.index)
    (hgaps : (before ++ [final]).IsChain fun earlier later => later.now - earlier.now < timeout) :
    ∃ results, reassembly.outcomes r ((before ++ [final]).map fun arrival =>
        ⟨streamId, frame arrival.index, arrival.now⟩) =
          results ++ [.ok ⟨.complete, some packet⟩] ∧
      ∀ result ∈ results, result = .ok ⟨.inProgress, none⟩ ∨ result = .ok ⟨.duplicate, none⟩ := by
  induction before generalizing r seen with
  | nil =>
    -- The last missing fragment.
    obtain ⟨t, hholds, hfor⟩ := hready final rfl
    have hi := hindex final (List.mem_singleton_self final)
    have hfull : insert final.index seen = Finset.range (fragmentCount capacity packet) := by
      refine (Finset.insert_subset (Finset.mem_range.2 hi) hsubset).antisymm fun i hirange => ?_
      rcases hall i (Finset.mem_range.1 hirange) with hin | ⟨arrival, hmem, rfl⟩
      · exact Finset.mem_insert_of_mem hin
      · rw [List.mem_singleton.1 hmem]
        exact Finset.mem_insert_self _ _
    have haccept := hholds.accept_new hcapacity hsize hmissing hi hcount final.now
    rw [if_pos hfull] at haccept
    refine ⟨[], ?_, fun _ h => absurd h List.not_mem_nil⟩
    show [(r.accept streamId (frame final.index) final.now).1] = _
    rw [accept_spec (hmtu ▸ hdecode final.index hi) hfor, haccept]
    rfl
  | cons arrival rest ih =>
    -- One more fragment arrives, after which the last missing one is still missing.
    have hi := hindex arrival List.mem_cons_self
    have hne := hbefore arrival List.mem_cons_self
    have hfinal := hindex final (List.mem_append_right _ (List.mem_singleton_self final))
    have hstill : final.index ∉ insert arrival.index seen := by
      rw [Finset.mem_insert, not_or]
      exact ⟨Ne.symm hne, hmissing⟩
    obtain ⟨hresult, hnext⟩ := (hready arrival rfl).step hcapacity hsize hcount
      (hmtu ▸ hdecode arrival.index hi) hi fun hfull =>
        hstill (hfull ▸ Finset.mem_range.2 hfinal)
    obtain ⟨hmtu', htimeout'⟩ := accept_config r streamId (frame arrival.index) arrival.now
    -- The fragments behind it are those of the induction hypothesis.
    rw [List.cons_append, List.isChain_cons] at hgaps
    obtain ⟨results, hresults, hearlier⟩ := ih (hmtu'.trans hmtu) (htimeout'.trans htimeout)
      (fun next hmem => hnext next (htimeout ▸ hgaps.1 next hmem))
      (fun a ha => hindex a (List.mem_cons_of_mem _ ha))
      (fun i hirange => by
        rcases hall i hirange with hin | ⟨a, hmem, rfl⟩
        · exact .inl (Finset.mem_insert_of_mem hin)
        · rcases List.mem_cons.1 hmem with rfl | hrest
          · exact .inl (Finset.mem_insert_self _ _)
          · exact .inr ⟨a, hrest, rfl⟩)
      (Finset.insert_subset (Finset.mem_range.2 hi) hsubset) hstill
      (fun a ha => hbefore a (List.mem_cons_of_mem _ ha)) hgaps.2
    refine ⟨(r.accept streamId (frame arrival.index) arrival.now).1 :: results, ?_, ?_⟩
    · exact congrArg (List.cons _) hresults
    · intro result hmem
      rcases List.mem_cons.1 hmem with rfl | hrest
      · exact hresult
      · exact hearlier result hrest

end Feeding

/-- On its way over the bus a frame may be padded with zeros, within the MTU. -/
theorem transmit_frame {mode : CanMode} {bitRateSwitch : Bool}
    (hswitch : mode = .classical → bitRateSwitch = false) {identifier : UInt32}
    (hid : identifier ≤ CAN_SFF_MASK) {data : List UInt8} (hdata : data.length ≤ mode.mtu) :
    ∃ n, data.length + n ≤ mode.mtu ∧
      mode.transmit ⟨identifier, false, data, bitRateSwitch⟩ =
        .ok ⟨identifier, false, data ++ List.replicate n 0, bitRateSwitch⟩ := by
  cases mode with
  | classical =>
    refine ⟨0, hdata, ?_⟩
    rw [hswitch rfl, List.replicate_zero, List.append_nil]
    exact classical_round_trip hid hdata
  | flexibleDataRate =>
    obtain ⟨hle, hmax⟩ := canonicalFdLength_spec hdata
    refine ⟨canonicalFdLength data.length - data.length, ?_, fd_round_trip hid hdata bitRateSwitch⟩
    rw [Nat.add_sub_cancel' hle]
    exact hmax

/-- Round trip. A packet is split into frames, and whatever the order of their arrivals, the packet
is returned at the arrival of the last missing one and not before. -/
theorem transport_round_trip (mode : CanMode) (bitRateSwitch : Bool)
    (hswitch : mode = .classical → bitRateSwitch = false) (packet : List UInt8)
    (hpos : 1 ≤ packet.length) (hsize : packet.length ≤ kMaximumPacketSize) (transferId : UInt16)
    (identifier : UInt32) (hid : identifier ≤ CAN_SFF_MASK) :
    ∃ frames, split mode.mtu packet transferId = .ok frames ∧
      ∀ (r : Reassembler) (before : List Arrival) (final : Arrival), r.mtu = mode.mtu →
        r.transfers.lookup (Reassembler.key identifier transferId) = none →
        Arrivals frames.length r.timeout before final →
        ∃ calls results,
          (before ++ [final]).mapM (Arrival.call mode identifier bitRateSwitch frames) =
            .ok calls ∧
          reassembly.outcomes r calls = results ++ [.ok ⟨.complete, some packet⟩] ∧
          ∀ result ∈ results,
            result = .ok ⟨.inProgress, none⟩ ∨ result = .ok ⟨.duplicate, none⟩ := by
  have hroom : kFragmentHeaderSize < mode.mtu := by cases mode <;> decide
  have hmtu : mode.mtu ≤ 68 := by cases mode <;> decide
  have hcapacity : 0 < mode.mtu - kFragmentHeaderSize := Nat.sub_pos_of_lt hroom
  have hcount : fragmentCount (mode.mtu - kFragmentHeaderSize) packet < 2^16 := by
    have := chunkCount_le (n := packet.length) hcapacity
    unfold kMaximumPacketSize at hsize
    unfold fragmentCount
    omega
  generalize hframes : (List.range (fragmentCount (mode.mtu - kFragmentHeaderSize) packet)).map
    (fun i => (fragmentAt (mode.mtu - kFragmentHeaderSize) packet transferId i).frame) = frames
  refine ⟨frames, hframes ▸ split_spec hroom hmtu hpos hsize transferId, ?_⟩
  intro r before final hr hkey harrivals
  -- What a frame is when it arrives, and what it decodes to.
  have hframe : ∀ i < fragmentCount (mode.mtu - kFragmentHeaderSize) packet, ∃ data,
      mode.transmit ⟨identifier, false, frames.getD i [], bitRateSwitch⟩ =
        .ok ⟨identifier, false, data, bitRateSwitch⟩ ∧
      decodeFragment data mode.mtu =
        .ok (fragmentAt (mode.mtu - kFragmentHeaderSize) packet transferId i) := by
    intro i hi
    have hencodable := splitFragment_encodable hroom hmtu hsize transferId hi
    have hget : frames.getD i [] =
        (fragmentAt (mode.mtu - kFragmentHeaderSize) packet transferId i).frame := by
      rw [← hframes, List.getD_eq_getElem?_getD, List.getElem?_map, List.getElem?_range hi]
      rfl
    have hlength : (fragmentAt (mode.mtu - kFragmentHeaderSize) packet transferId
        i).frame.length ≤ mode.mtu := by
      rw [Fragment.length_frame]
      exact hencodable.fits
    obtain ⟨n, hn, htransmit⟩ := transmit_frame hswitch hid hlength
    exact ⟨_, hget ▸ htransmit, decodeFragment_padded hencodable hn⟩
  choose! data htransmit hdecode using hframe
  have hlength : frames.length = fragmentCount (mode.mtu - kFragmentHeaderSize) packet := by
    rw [← hframes, List.length_map, List.length_range]
  rw [hlength] at harrivals
  have hcalls : (before ++ [final]).mapM (Arrival.call mode identifier bitRateSwitch frames) =
      .ok ((before ++ [final]).map fun arrival =>
        ⟨identifier, data arrival.index, arrival.now⟩) := by
    refine mapM_eq_ok fun arrival hmem => ?_
    unfold Arrival.call
    rw [htransmit arrival.index (harrivals.index_lt arrival hmem)]
    rfl
  -- The first fragment opens the transfer.
  have hready : ∀ arrival ∈ (before ++ [final]).head?,
      r.Ready (mode.mtu - kFragmentHeaderSize) packet transferId identifier ∅ arrival := by
    intro arrival hmem
    refine ⟨Transfer.empty arrival.now, Transfer.holds_empty _, ?_⟩
    have hfirst : (fragmentAt (mode.mtu - kFragmentHeaderSize) packet transferId
        arrival.index).isFirst = true := by
      rw [fragmentAt, (splitFragment_markers _ _ _ _ _).1, harrivals.first arrival hmem]
      rfl
    unfold Reassembler.transferFor
    rw [show (fragmentAt (mode.mtu - kFragmentHeaderSize) packet transferId
      arrival.index).transferId = transferId from rfl, hkey, Option.filter_none, hfirst]
    rfl
  obtain ⟨results, hresults, hearlier⟩ := Reassembler.Ready.outcomes hcapacity hsize hcount hdecode
    hr rfl hready harrivals.index_lt (fun i hi => .inr (harrivals.covers i hi))
    (Finset.empty_subset _) (Finset.notMem_empty _) harrivals.missing harrivals.gaps
  exact ⟨_, results, hcalls, hresults, hearlier⟩

/-- Four bytes over Classical CAN, the first frame twice. -/
theorem transport_round_trip_two_frames :
    ∃ calls results,
      [(⟨0, 0⟩ : Arrival), ⟨0, 1000⟩, ⟨1, 2000⟩].mapM (Arrival.call .classical 0x123 false
        [[9, 0, 0, 0, 13, 1, 2, 3], [9, 0, 1, 0, 6, 4]]) = .ok calls ∧
      reassembly.outcomes (Reassembler.create 8 500000000 (by decide) (by decide)) calls =
        results ++ [.ok ⟨.complete, some [1, 2, 3, 4]⟩] ∧
      ∀ result ∈ results, result = .ok ⟨.inProgress, none⟩ ∨ result = .ok ⟨.duplicate, none⟩ := by
  obtain ⟨frames, hframes, harrive⟩ := transport_round_trip .classical false (fun _ => rfl)
    [1, 2, 3, 4] (by decide) (by decide) 9 0x123 (by decide)
  have hsplit : split 8 [1, 2, 3, 4] 9 =
      .ok [[9, 0, 0, 0, 13, 1, 2, 3], [9, 0, 1, 0, 6, 4]] := by
    decide +kernel
  obtain rfl := Except.ok.inj (hframes.symm.trans hsplit)
  refine harrive (Reassembler.create 8 500000000 (by decide) (by decide)) [⟨0, 0⟩, ⟨0, 1000⟩]
    ⟨1, 2000⟩ rfl rfl ⟨?_, ?_, ?_, ?_, ?_⟩
  · simp
  · simp
  · intro i hi
    have : i < 2 := hi
    interval_cases i <;> simp
  · simp
  · simp [Reassembler.create]

end RemoteBSP
