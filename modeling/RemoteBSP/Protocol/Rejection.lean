import RemoteBSP.Protocol.Reassembler

/-!
# Rejected fragments

`accept` of the reassembler may throw after it has dropped the transfers that have timed out, after
it has opened a transfer, and after it has found the one that the fragment belongs to. What it
leaves is in every case what the expiry alone leaves, except for a transfer that would grow beyond
the maximum size, which is erased (`accept_rejected`).

Behind the lookup this is a fact about one transfer (`Transfer.accept_error`). That `accept` does
not keep a transfer which it has opened for a fragment that it then rejects is a fact about sizes: a
new transfer rejects nothing, since the payload of one frame is far below the maximum size
(`Transfer.empty_accept_ne_error`).
-/

namespace RemoteBSP

/-! ## What a frame decodes to -/

/-- The six bits of the flag byte that hold the payload's length. -/
theorem encodedLength_lt (b : UInt8) :
    ((b &&& kFragmentLengthMask) >>> kFragmentLengthShift).toNat < 64 := by
  have hlt := (b &&& kFragmentLengthMask).toNat_lt
  have hshift : (kFragmentLengthShift.toNat % 8) = 2 := rfl
  rw [UInt8.toNat_shiftRight, hshift, Nat.shiftRight_eq_div_pow]
  omega

/-- The payload of a decoded fragment is as long as its six bits say. -/
theorem length_payload_decodeFragment {data : List UInt8} {mtu : ℕ} {fragment : Fragment}
    (hdecode : decodeFragment data mtu = .ok fragment) : fragment.payload.length < 64 := by
  unfold decodeFragment validateMtu at hdecode
  simp only [bind, Except.bind, pure, Except.pure, throw, throwThe, MonadExceptOf.throw]
    at hdecode
  split_ifs at hdecode
  obtain rfl := Except.ok.inj hdecode
  exact lt_of_le_of_lt (List.length_take_le _ _) (encodedLength_lt _)

/-- The size of a packet is not a matter of one frame. -/
theorem decodeFragment_error_code {data : List UInt8} {mtu : ℕ} {exception : FragmentException}
    (hdecode : decodeFragment data mtu = .error exception) :
    exception.code ≠ .reassembledPacketTooLarge := by
  unfold decodeFragment validateMtu at hdecode
  simp only [bind, Except.bind, pure, Except.pure, throw, throwThe, MonadExceptOf.throw]
    at hdecode
  split_ifs at hdecode <;> obtain rfl := Except.error.inj hdecode <;> exact nofun

/-! ## What a transfer rejects -/

/-- A fragment that would make the packet too large. -/
def Transfer.Overflows (transfer : Transfer) (fragment : Fragment) : Prop :=
  kMaximumPacketSize < transfer.receivedSize + fragment.payload.length

/-- A transfer that throws keeps all that it has, or it is too large and is erased. -/
theorem Transfer.accept_error {t : Transfer} {f : Fragment} {now : ℤ} {e : FragmentException}
    (herror : (t.accept f now).1 = .error e) :
    (e.code ≠ .reassembledPacketTooLarge ∧ (t.accept f now).2 = some t) ∨
      (e.code = .reassembledPacketTooLarge ∧ (t.accept f now).2 = none ∧ t.Overflows f) := by
  unfold Transfer.accept at herror ⊢
  cases hpiece : t.pieces.lookup f.sequence with
  | some payload =>
    rw [hpiece] at herror
    dsimp only at herror ⊢
    by_cases hconflict : payload ≠ f.payload ∨ t.pieceFlags.lookup f.sequence ≠ some f.flags
    · rw [if_pos hconflict] at herror ⊢
      obtain rfl := Except.error.inj herror
      exact .inl ⟨nofun, rfl⟩
    · rw [if_neg hconflict] at herror
      cases herror
  | none =>
    rw [hpiece] at herror
    dsimp only at herror ⊢
    split_ifs at herror ⊢ with hafter hlast hsize
    · obtain rfl := Except.error.inj herror
      exact .inl ⟨nofun, rfl⟩
    · obtain rfl := Except.error.inj herror
      exact .inl ⟨nofun, rfl⟩
    · obtain rfl := Except.error.inj herror
      exact .inr ⟨rfl, rfl, hsize⟩
    -- The fragment has been taken: the completion scan does not throw.
    · cases htry : (t.addPiece f now).tryComplete with
      | some packet => rw [htry] at herror; cases herror
      | none => rw [htry] at herror; cases herror

/-- A new transfer takes every fragment of a frame. -/
theorem Transfer.empty_accept_ne_error {f : Fragment} {now : ℤ} (hlength : f.payload.length < 64)
    (e : FragmentException) : ((Transfer.empty now).accept f now).1 ≠ .error e := by
  intro herror
  have hpiece : (Transfer.empty now).pieces.lookup f.sequence = none := rfl
  have hsize : ¬ kMaximumPacketSize < (Transfer.empty now).receivedSize + f.payload.length := by
    have hzero : (Transfer.empty now).receivedSize = 0 := rfl
    have hmax : kMaximumPacketSize = 2048 := rfl
    omega
  unfold Transfer.accept at herror
  rw [hpiece] at herror
  dsimp only at herror
  rw [if_neg (by rintro (h | ⟨last, h, -⟩) <;> cases h),
    if_neg (by rintro ⟨-, last, h, -⟩; cases h), if_neg hsize] at herror
  cases htry : ((Transfer.empty now).addPiece f now).tryComplete with
  | some packet => rw [htry] at herror; cases herror
  | none => rw [htry] at herror; cases herror

/-! ## What the reassembler rejects -/

namespace Reassembler

/-- The transfer that a rejected fragment went to was there before it. -/
theorem lookup_of_rejected {r : Reassembler} {streamId : UInt32} {fragment : Fragment} {now : ℤ}
    {t : Transfer} {e : FragmentException} (hlength : fragment.payload.length < 64)
    (hfor : r.transferFor streamId fragment now = some t)
    (herror : (t.accept fragment now).1 = .error e) :
    (r.expire now).2.transfers.lookup (key streamId fragment.transferId) = some t := by
  unfold transferFor at hfor
  rw [lookup_expire]
  cases hfound : (r.transfers.lookup (key streamId fragment.transferId)).filter
      (live r.timeout now) with
  | some found => rw [hfound] at hfor; exact hfor
  | none =>
    rw [hfound] at hfor
    split_ifs at hfor with hfirst
    obtain rfl := Option.some.inj hfor
    exact absurd herror (Transfer.empty_accept_ne_error hlength e)

/-- A call of `accept` that throws leaves the transfers as `expire` leaves them. Only a fragment
that makes the packet too large erases its transfer, and no other. -/
theorem accept_rejected (r : Reassembler) (streamId : UInt32) (frame : List UInt8) (now : ℤ)
    (exception : FragmentException)
    (herror : (r.accept streamId frame now).1 = .error exception) :
    (exception.code ≠ .reassembledPacketTooLarge ∧
      ∀ k, (r.accept streamId frame now).2.transfers.lookup k =
        (r.expire now).2.transfers.lookup k) ∨
    (exception.code = .reassembledPacketTooLarge ∧
      ∃ fragment transfer, decodeFragment frame r.mtu = .ok fragment ∧
        (r.expire now).2.transfers.lookup (key streamId fragment.transferId) = some transfer ∧
        transfer.Overflows fragment ∧
        ∀ k, (r.accept streamId frame now).2.transfers.lookup k =
          if k = key streamId fragment.transferId then none
          else (r.expire now).2.transfers.lookup k) := by
  cases hdecode : decodeFragment frame r.mtu with
  | error e =>
    rw [accept_malformed hdecode] at herror ⊢
    obtain rfl := Except.error.inj herror
    exact .inl ⟨decodeFragment_error_code hdecode, fun _ => rfl⟩
  | ok fragment =>
    cases hfor : r.transferFor streamId fragment now with
    | none =>
      rw [accept_unknown hdecode hfor] at herror ⊢
      obtain rfl := Except.error.inj herror
      exact .inl ⟨nofun, fun _ => rfl⟩
    | some t =>
      rw [accept_spec hdecode hfor] at herror ⊢
      dsimp only at herror ⊢
      have hfound :=
        lookup_of_rejected (length_payload_decodeFragment hdecode) hfor herror
      rcases Transfer.accept_error herror with ⟨hcode, hkept⟩ | ⟨hcode, herased, hsize⟩
      · refine .inl ⟨hcode, fun k => ?_⟩
        rw [hkept, lookup_store]
        split_ifs with hk
        · rw [hk, hfound]
        · rfl
      · refine .inr ⟨hcode, fragment, t, rfl, hfound, hsize, fun k => ?_⟩
        rw [herased, lookup_store]

/-- A conflicting duplicate of the first fragment of a transfer under way. -/
theorem accept_rejected_conflicting :
    (((reassembly.run (create 8 100000000 (by decide) (by decide))
        [⟨1, [2, 0, 0, 0, 0x0D, 7, 8, 9], 0⟩]).accept 1 [2, 0, 0, 0, 0x0D, 7, 8, 8]
          50).2.transfers.lookup (key 1 2)) =
      ((reassembly.run (create 8 100000000 (by decide) (by decide))
        [⟨1, [2, 0, 0, 0, 0x0D, 7, 8, 9], 0⟩]).expire 50).2.transfers.lookup (key 1 2) :=
  (accept_rejected (reassembly.run (create 8 100000000 (by decide) (by decide))
    [⟨1, [2, 0, 0, 0, 0x0D, 7, 8, 9], 0⟩]) 1 [2, 0, 0, 0, 0x0D, 7, 8, 8] 50
    ⟨.conflictingDuplicate, "duplicate sequence has different content"⟩
    (by decide +kernel)).elim (fun h => h.2 _) (fun h => nomatch h.1)

end Reassembler
end RemoteBSP
