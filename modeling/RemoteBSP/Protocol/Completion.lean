import RemoteBSP.Protocol.Reassembler

/-!
# Nothing but the packet in a completed transfer

What a completed transfer has accepted, over runs of `accept` on any frames. The invariant of a
transfer (`Transfer.Coherent`) is about its bookkeeping: the size is the sum of the pieces, and the
last sequence is the one piece that carries the last marker. One part of it, that no piece lies
beyond the last sequence, is not kept by the code: `accept` rejects a piece behind a last fragment
that is there, but it takes a last fragment in front of a piece that is there
(`stray_piece_completes`). As long as that does not happen (`StrandsPiece`), a completed packet is
made of all that its transfer accepted (`completion_whole`).
-/

namespace RemoteBSP

namespace Transfer

/-- What the fields of a transfer say about its pieces. -/
structure Coherent (t : Transfer) : Prop where
  /-- The pieces and the flags have the same keys. -/
  flags_isSome : ∀ s, (t.pieceFlags.lookup s).isSome = (t.pieces.lookup s).isSome
  /-- The size received is that of the pieces. -/
  size : t.receivedSize = Map.total t.pieces List.length
  /-- It is at most the size of a packet. -/
  size_le : t.receivedSize ≤ kMaximumPacketSize
  /-- The piece with the last marker is the one at the last sequence. -/
  last_iff : ∀ s flags, t.pieceFlags.lookup s = some flags →
    (flags &&& kFragmentLast ≠ 0 ↔ t.lastSequence = some s)
  /-- There is a piece at the last sequence. -/
  last_isSome : ∀ last, t.lastSequence = some last → (t.pieces.lookup last).isSome
  /-- No piece lies beyond the last sequence. -/
  le_last : ∀ last, t.lastSequence = some last → ∀ s, (t.pieces.lookup s).isSome → s ≤ last

/-- A last fragment that the transfer accepts, with a piece beyond it that is there already. -/
def Strands (t : Transfer) (f : Fragment) : Prop :=
  f.isLast = true ∧ t.complete = false ∧ t.lastSequence = none ∧
    t.pieces.lookup f.sequence = none ∧
    t.receivedSize + f.payload.length ≤ kMaximumPacketSize ∧
    ∃ s ∈ t.pieces.keys, f.sequence < s

instance (t : Transfer) (f : Fragment) : Decidable (t.Strands f) :=
  inferInstanceAs (Decidable (_ ∧ _))

/-- A new transfer is coherent. -/
theorem coherent_empty (now : ℤ) : (empty now).Coherent where
  flags_isSome _ := rfl
  size := rfl
  size_le := Nat.zero_le _
  last_iff s flags h := by simp [empty] at h
  last_isSome last h := by simp [empty] at h
  le_last last h := by simp [empty] at h

/-- The time of the last update does not matter. -/
theorem Coherent.touch {t : Transfer} (h : t.Coherent) (now : ℤ) :
    ({ t with lastUpdate := now } : Transfer).Coherent :=
  ⟨h.flags_isSome, h.size, h.size_le, h.last_iff, h.last_isSome, h.le_last⟩

/-- The completion does not matter. -/
theorem Coherent.completed {t : Transfer} (h : t.Coherent) (packet : List UInt8) :
    ({ t with complete := true, completedPacket := packet } : Transfer).Coherent :=
  ⟨h.flags_isSome, h.size, h.size_le, h.last_iff, h.last_isSome, h.le_last⟩

/-- A new piece keeps a transfer coherent, if it passes the checks of `accept` and does not strand
another piece. -/
theorem Coherent.addPiece {t : Transfer} (h : t.Coherent) {f : Fragment}
    (hnew : t.pieces.lookup f.sequence = none)
    (hafter : ∀ last ∈ t.lastSequence, f.sequence ≤ last)
    (honly : f.isLast = true → ∀ last ∈ t.lastSequence, last = f.sequence)
    (hsize : t.receivedSize + f.payload.length ≤ kMaximumPacketSize)
    (hstrands : f.isLast = true → t.lastSequence = none →
      ∀ s, (t.pieces.lookup s).isSome → s ≤ f.sequence) (now : ℤ) :
    (t.addPiece f now).Coherent := by
  -- The sequence is new, so it is not the last one already known.
  have hnotlast : t.lastSequence ≠ some f.sequence := by
    intro hlast
    have := h.last_isSome _ hlast
    rw [hnew] at this
    exact absurd this (by simp)
  -- A last piece is the first one that is marked as the last.
  have hnone : f.isLast = true → t.lastSequence = none := by
    intro his
    rw [Option.eq_none_iff_forall_ne_some]
    rintro last hlast
    exact hnotlast (by rw [hlast, honly his last hlast])
  -- What remains is the case of the new piece and that of an old one in each field.
  refine ⟨?_, ?_, hsize, ?_, ?_, ?_⟩
  · intro s
    simp only [Transfer.addPiece, Map.lookup_insert_ite]
    split_ifs with hs
    · rfl
    · exact h.flags_isSome s
  · simp only [Transfer.addPiece]
    rw [Map.total_insert hnew, h.size, Nat.add_comm]
  · intro s flags hflags
    simp only [Transfer.addPiece, Map.lookup_insert_ite] at hflags ⊢
    by_cases hs : s = f.sequence
    · -- The new piece.
      rw [if_pos hs, Option.some.injEq] at hflags
      subst hs hflags
      cases his : f.isLast with
      | true => simpa [Fragment.isLast] using his
      | false =>
        simp only [Fragment.isLast, bne_eq_false_iff_eq] at his
        simp [his, hnotlast]
    · -- A piece that was there.
      rw [if_neg hs] at hflags
      rw [h.last_iff s flags hflags]
      split_ifs with his
      · rw [hnone his]
        simp [Ne.symm hs]
      · rfl
  -- The last sequence number is the one of the new piece, or was known.
  · intro last hlast
    simp only [Transfer.addPiece, Map.lookup_insert_ite] at hlast ⊢
    split_ifs with hs
    · rfl
    · split_ifs at hlast with his
      · exact absurd (Option.some.inj hlast).symm hs
      · exact h.last_isSome last hlast
  · intro last hlast s hpiece
    simp only [Transfer.addPiece, Map.lookup_insert_ite] at hlast hpiece
    split_ifs at hlast with his
    · obtain rfl := Option.some.inj hlast
      split_ifs at hpiece with hs
      · exact hs ▸ UInt16.le_refl _
      · exact hstrands his (hnone his) s hpiece
    · split_ifs at hpiece with hs
      · exact hs ▸ hafter last hlast
      · exact h.le_last last hlast s hpiece

/-- What a transfer that accepts a fragment leaves is coherent, unless it strands a piece. -/
theorem Coherent.accept {t : Transfer} (h : t.Coherent) {f : Fragment} (hs : ¬ t.Strands f)
    (now : ℤ) : ∀ t' ∈ (t.accept f now).2, t'.Coherent := by
  intro t' ht'
  rcases t.accept_cases f now with ⟨e, heq⟩ | ⟨e, heq⟩ | ⟨-, p, heq⟩ |
    ⟨hnew, hopen, hafter, honly, hsize, ⟨packet, -, heq⟩ | ⟨-, heq⟩⟩
  · rw [heq] at ht'
    exact Option.some.inj ht' ▸ h
  · rw [heq] at ht'
    exact absurd ht' (by simp)
  · rw [heq] at ht'
    exact Option.some.inj ht' ▸ h.touch now
  all_goals
    have hadd : (t.addPiece f now).Coherent :=
      h.addPiece hnew hafter honly hsize (fun his hlast s hpiece => by_contra fun hlt =>
        hs ⟨his, hopen, hlast, hnew, hsize, s, AList.lookup_isSome.1 hpiece,
          UInt16.not_le.1 hlt⟩) now
    rw [heq] at ht'
  · exact Option.some.inj ht' ▸ hadd.completed packet
  · exact Option.some.inj ht' ▸ hadd

/-- The pieces of a transfer are those up to `last`, one of which, that at `last`, carries the last
marker, and `packet` is made of all of them. -/
structure Whole (t : Transfer) (last : UInt16) (packet : List UInt8) : Prop where
  /-- The pieces are those up to the last sequence. -/
  pieces : ∀ s, (t.pieces.lookup s).isSome ↔ s ≤ last
  /-- One piece has the last marker. -/
  marker : ∀ s flags, t.pieceFlags.lookup s = some flags →
    (flags &&& kFragmentLast ≠ 0 ↔ s = last)
  /-- The packet consists of the pieces. -/
  payloads : packet = t.payloads last
  /-- Every byte received is in the packet. -/
  size : packet.length = t.receivedSize
  /-- The size of a packet. -/
  size_le : packet.length ≤ kMaximumPacketSize

/-- The pieces up to the last sequence of a transfer that has no others are as long as what it has
received. -/
theorem length_payloads {t : Transfer} {last : UInt16}
    (hpieces : ∀ s, (t.pieces.lookup s).isSome ↔ s ≤ last) :
    (t.payloads last).length = Map.total t.pieces List.length := by
  have hofNat : ∀ i ∈ List.range (last.toNat + 1), (UInt16.ofNat i).toNat = i := by
    intro i hi
    have := last.toNat_lt
    rw [List.mem_range] at hi
    exact UInt16.toNat_ofNat_of_lt' (show i < 2^16 by omega)
  have hnodup : ((List.range (last.toNat + 1)).map UInt16.ofNat).Nodup := by
    refine List.Nodup.map_on (fun i hi j hj hij => ?_) List.nodup_range
    rw [← hofNat i hi, ← hofNat j hj, hij]
  have hmem : ∀ s, s ∈ (List.range (last.toNat + 1)).map UInt16.ofNat ↔
      (t.pieces.lookup s).isSome := by
    intro s
    rw [hpieces, List.mem_map]
    constructor
    · rintro ⟨i, hi, rfl⟩
      rw [UInt16.le_iff_toNat_le, hofNat i hi]
      exact Nat.le_of_lt_succ (List.mem_range.1 hi)
    · intro hs
      exact ⟨s.toNat, List.mem_range.2 (Nat.lt_succ_of_le (UInt16.le_iff_toNat_le.1 hs)),
        UInt16.ofNat_toNat⟩
  rw [Map.total_eq_sum t.pieces List.length hnodup hmem, payloads, List.length_flatMap,
    List.map_map]
  refine congrArg List.sum (List.map_congr_left fun i _ => ?_)
  rw [Function.comp_apply]
  cases t.pieces.lookup (UInt16.ofNat i) <;> rfl

/-- A coherent transfer whose completion scan succeeds is whole. -/
theorem Coherent.whole {t : Transfer} (h : t.Coherent) {packet : List UInt8}
    (hcomplete : t.tryComplete = some packet) :
    ∃ last, t.lastSequence = some last ∧ t.Whole last packet := by
  obtain ⟨last, hlast, hall, rfl⟩ := tryComplete_eq_some_iff.1 hcomplete
  have hpieces : ∀ s, (t.pieces.lookup s).isSome ↔ s ≤ last :=
    fun s => ⟨h.le_last last hlast s, hall s⟩
  have hsize : (t.payloads last).length = t.receivedSize := by
    rw [length_payloads hpieces, h.size]
  refine ⟨last, hlast, hpieces, fun s flags hflags => ?_, rfl, hsize, hsize ▸ h.size_le⟩
  rw [h.last_iff s flags hflags, hlast, Option.some.injEq, eq_comm]

end Transfer

namespace Reassembler

/-- A call that makes a transfer accept a last fragment in front of a piece that it holds. -/
def StrandsPiece (r : Reassembler) (call : AcceptCall) : Prop :=
  ∃ fragment ∈ (decodeFragment call.frame r.mtu).toOption,
    ∃ t ∈ r.transferFor call.streamId fragment call.now, t.Strands fragment

instance (r : Reassembler) (call : AcceptCall) : Decidable (r.StrandsPiece call) :=
  inferInstanceAs (Decidable (∃ fragment ∈ _, _))

/-- All transfers are coherent. -/
def Coherent (r : Reassembler) : Prop :=
  ∀ k t, r.transfers.lookup k = some t → t.Coherent

/-- The transfer that a fragment goes to is coherent. -/
theorem Coherent.transferFor {r : Reassembler} (h : r.Coherent) {streamId : UInt32}
    {fragment : Fragment} {now : ℤ} {t : Transfer}
    (ht : r.transferFor streamId fragment now = some t) : t.Coherent := by
  unfold Reassembler.transferFor at ht
  cases hlookup : (r.transfers.lookup (key streamId fragment.transferId)).filter
      (live r.timeout now) with
  | some found =>
    rw [hlookup] at ht
    obtain rfl := Option.some.inj ht
    exact h _ _ (Option.filter_eq_some_iff.1 hlookup).1
  | none =>
    rw [hlookup] at ht
    split_ifs at ht
    exact Option.some.inj ht ▸ Transfer.coherent_empty now

/-- An expiry keeps the transfers coherent. -/
theorem Coherent.expire {r : Reassembler} (h : r.Coherent) (now : ℤ) :
    (r.expire now).2.Coherent := by
  intro k t ht
  rw [lookup_expire, Option.filter_eq_some_iff] at ht
  exact h k t ht.1

/-- A call that strands no piece keeps the transfers coherent. -/
theorem Coherent.step {r : Reassembler} (h : r.Coherent) {call : AcceptCall}
    (hcall : ¬ r.StrandsPiece call) : (reassembly.step r call).1.Coherent := by
  show (r.accept call.streamId call.frame call.now).2.Coherent
  cases hdecode : decodeFragment call.frame r.mtu with
  | error e => rw [accept_malformed hdecode]; exact h.expire _
  | ok fragment =>
    cases hfor : r.transferFor call.streamId fragment call.now with
    | none => rw [accept_unknown hdecode hfor]; exact h.expire _
    | some t =>
      rw [accept_spec hdecode hfor]
      intro k t' ht'
      rw [lookup_store] at ht'
      split_ifs at ht' with hk
      · refine (h.transferFor hfor).accept (fun hs => hcall ?_) call.now t' ht'
        exact ⟨fragment, by rw [hdecode]; rfl, t, hfor, hs⟩
      · exact h.expire call.now k t' ht'

/-- What a call does that returns a packet: the transfer with the fragment is complete, and it is
what the reassembler now holds. -/
theorem accept_complete {r : Reassembler} {streamId : UInt32} {frame : List UInt8} {now : ℤ}
    {result : Option (List UInt8)}
    (hresult : (r.accept streamId frame now).1 = .ok ⟨.complete, result⟩) :
    ∃ fragment t packet, decodeFragment frame r.mtu = .ok fragment ∧
      r.transferFor streamId fragment now = some t ∧
      (t.addPiece fragment now).tryComplete = some packet ∧ result = some packet ∧
      (r.accept streamId frame now).2.transfers.lookup (key streamId fragment.transferId) =
        some { t.addPiece fragment now with complete := true, completedPacket := packet } := by
  cases hdecode : decodeFragment frame r.mtu with
  | error e => rw [accept_malformed hdecode] at hresult; cases hresult
  | ok fragment =>
    cases hfor : r.transferFor streamId fragment now with
    | none => rw [accept_unknown hdecode hfor] at hresult; cases hresult
    | some t =>
      rw [accept_spec hdecode hfor] at hresult ⊢
      rcases t.accept_cases fragment now with ⟨e, heq⟩ | ⟨e, heq⟩ | ⟨-, p, heq⟩ |
        ⟨-, -, -, -, -, ⟨packet, htry, heq⟩ | ⟨-, heq⟩⟩ <;> rw [heq] at hresult ⊢ <;> cases hresult
      refine ⟨fragment, t, packet, rfl, hfor, htry, rfl, ?_⟩
      rw [lookup_store, if_pos rfl]

end Reassembler

/-- If the run of `calls` and then `call` ends with a completed packet, its transfer is whole: the
fragments accepted are those up to the last one, and the packet has every byte of them. -/
def CompletesWhole (r : Reassembler) (calls : List AcceptCall) (call : AcceptCall) : Prop :=
  ∀ packet, (reassembly.step (reassembly.run r calls) call).2 = .ok ⟨.complete, packet⟩ →
    ∃ fragment t last bytes, decodeFragment call.frame (reassembly.run r calls).mtu = .ok fragment ∧
      (reassembly.run r (calls ++ [call])).transfers.lookup
        (Reassembler.key call.streamId fragment.transferId) = some t ∧
      packet = some bytes ∧ t.Whole last bytes

/-- A transfer holds a piece beyond its last fragment. -/
def Transfer.HoldsStray (t : Transfer) : Prop :=
  ∃ last s, t.lastSequence = some last ∧ last < s ∧ (t.pieces.lookup s).isSome

/-- In a run from a new reassembler that strands no piece, no transfer holds a piece beyond its last
fragment, and every completed packet is whole. -/
theorem completion_whole (mtu : ℕ) (timeout : ℤ) (room : kFragmentHeaderSize < mtu)
    (timeout_pos : 0 < timeout) (calls : List AcceptCall)
    (hstrands : reassembly.Along (fun r call => ¬ r.StrandsPiece call)
      (Reassembler.create mtu timeout room timeout_pos) calls) :
    (∀ k t, (reassembly.run (Reassembler.create mtu timeout room timeout_pos)
        calls).transfers.lookup k = some t → ¬ t.HoldsStray) ∧
      ∀ pre call, pre ++ [call] <+: calls →
        CompletesWhole (Reassembler.create mtu timeout room timeout_pos) pre call := by
  have hcoherent : ∀ pre, pre <+: calls →
      (reassembly.run (Reassembler.create mtu timeout room timeout_pos) pre).Coherent := by
    intro pre hpre
    refine reassembly.run_induction_of (fun r call hr hcall => hr.step hcall)
      (fun k t ht => ?_) (hstrands.of_prefix reassembly hpre)
    simp [Reassembler.create] at ht
  constructor
  · rintro k t ht ⟨last, s, hlast, hlt, hpiece⟩
    have hle := (hcoherent calls (List.prefix_refl _) k t ht).le_last last hlast s hpiece
    exact UInt16.not_le.2 hlt hle
  · intro pre call hpre packet hcomplete
    have hafter := hcoherent (pre ++ [call]) hpre
    obtain ⟨fragment, t, bytes, hdecode, hfor, htry, rfl, hlookup⟩ :=
      Reassembler.accept_complete hcomplete
    rw [Machine.run_concat] at hafter
    obtain ⟨last, -, hwhole⟩ := (hafter _ _ hlookup).whole htry
    refine ⟨fragment, _, last, bytes, hdecode, ?_, rfl, hwhole⟩
    rw [Machine.run_concat]
    exact hlookup

/-- Two fragments in order, the second one last. -/
theorem completion_whole_two_fragments :
    CompletesWhole (Reassembler.create 8 500000000 (by decide) (by decide))
      [⟨7, [1, 0, 0, 0, 5, 0xAA], 0⟩] ⟨7, [1, 0, 1, 0, 6, 0xCC], 1000⟩ :=
  (completion_whole 8 500000000 (by decide) (by decide)
    [⟨7, [1, 0, 0, 0, 5, 0xAA], 0⟩, ⟨7, [1, 0, 1, 0, 6, 0xCC], 1000⟩] (by decide +kernel)).2
    [⟨7, [1, 0, 0, 0, 5, 0xAA], 0⟩] _ (List.prefix_refl _)

/-- Sequence zero, sequence five, and then sequence one as the last fragment: the packet lacks the
byte of sequence five. -/
theorem stray_piece_completes :
    ¬ CompletesWhole (Reassembler.create 8 500000000 (by decide) (by decide))
      [⟨7, [1, 0, 0, 0, 5, 0xAA], 0⟩, ⟨7, [1, 0, 5, 0, 4, 0xBB], 0⟩]
      ⟨7, [1, 0, 1, 0, 6, 0xCC], 0⟩ := by
  intro h
  generalize hr : Reassembler.create 8 500000000 (by decide) (by decide) = r at h
  generalize hcalls : ([⟨7, [1, 0, 0, 0, 5, 0xAA], 0⟩, ⟨7, [1, 0, 5, 0, 4, 0xBB], 0⟩] :
    List AcceptCall) = calls at h
  have hcomplete : (reassembly.step (reassembly.run r calls)
      ⟨7, [1, 0, 1, 0, 6, 0xCC], 0⟩).2 = .ok ⟨.complete, some [0xAA, 0xCC]⟩ := by
    subst hr hcalls; decide +kernel
  obtain ⟨fragment, t, last, bytes, hdecode, ht, hbytes, hwhole⟩ := h _ hcomplete
  have hfragment : decodeFragment [1, 0, 1, 0, 6, 0xCC] (reassembly.run r calls).mtu =
      .ok ⟨1, 1, kFragmentLast, [0xCC]⟩ := by
    subst hr hcalls; decide +kernel
  obtain rfl := Except.ok.inj (hfragment.symm.trans hdecode)
  -- The transfer has received three bytes, and the packet has two.
  have hsize : ((reassembly.run r (calls ++ [⟨7, [1, 0, 1, 0, 6, 0xCC], 0⟩])).transfers.lookup
      (Reassembler.key 7 1)).map Transfer.receivedSize = some 3 := by
    subst hr hcalls; decide +kernel
  rw [ht, Option.map_some, Option.some.injEq, ← hwhole.size, ← Option.some.inj hbytes] at hsize
  exact absurd hsize (by decide)

end RemoteBSP
