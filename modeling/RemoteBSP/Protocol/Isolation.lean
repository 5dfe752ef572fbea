import RemoteBSP.Protocol.Reassembler

/-!
# Transfers do not affect each other

All transfers share one map, every call of `accept` expires all of them, and some errors erase one.
Nevertheless the calls of one pair of a sender and a transfer ID get the outcomes that they would
get alone (`reassembly_isolated`).

The proof compares the reassembler of the whole run with one that sees only the pair's calls. The
two agree on what is live under the pair's key at any time from now on (`Agree`). A call of another
pair can only remove a transfer that is dead by then, so it keeps the agreement (`agree_other`), and
a call of the pair depends on nothing else (`agree_mine`).
-/

namespace RemoteBSP

/-- Whether a call belongs to a pair. A frame that does not decode belongs to no pair by itself;
`malformed` decides for those. -/
def AcceptCall.belongsTo (mtu : ℕ) (streamId : UInt32) (transferId : UInt16)
    (malformed : AcceptCall → Bool) (call : AcceptCall) : Bool :=
  match decodeFragment call.frame mtu with
  | .ok fragment => call.streamId == streamId && fragment.transferId == transferId
  | .error _ => malformed call

namespace Reassembler

/-- Two reassemblers of the same configuration have the same live transfer under a key, at any time
from `time` on. -/
structure Agree (mtu : ℕ) (k : UInt64) (time : ℤ) (r s : Reassembler) : Prop where
  /-- The length of a frame of the first. -/
  mtu_left : r.mtu = mtu
  /-- The length of a frame of the second. -/
  mtu_right : s.mtu = mtu
  /-- The timeouts. -/
  timeout : r.timeout = s.timeout
  /-- The live transfers. -/
  live : ∀ now, time ≤ now → (r.transfers.lookup k).filter (Reassembler.live r.timeout now) =
    (s.transfers.lookup k).filter (Reassembler.live s.timeout now)

/-- A transfer that is live at some time was live before. -/
theorem live_mono {timeout : ℤ} {before now : ℤ} (h : before ≤ now) {t : Transfer}
    (ht : live timeout now t = true) : live timeout before t = true := by
  simp only [live, Bool.not_eq_true', decide_eq_false_iff_not, not_le] at ht ⊢
  omega

/-- What is live at some time is not affected by an earlier expiry. -/
theorem filter_live_filter {timeout : ℤ} {before now : ℤ} (h : before ≤ now)
    (t : Option Transfer) :
    (t.filter (live timeout before)).filter (live timeout now) = t.filter (live timeout now) := by
  rw [Option.filter_filter]
  congr 1
  funext x
  cases hx : live timeout now x with
  | false => simp
  | true => simp [live_mono h hx]

/-- After a call for another key, the same is live under the key. -/
theorem live_after_other {r : Reassembler} {k : UInt64} {streamId : UInt32} {frame : List UInt8}
    {before now : ℤ} (h : before ≤ now)
    (hother : ∀ fragment, decodeFragment frame r.mtu = .ok fragment →
      k ≠ key streamId fragment.transferId) :
    ((r.accept streamId frame before).2.transfers.lookup k).filter (live r.timeout now) =
      (r.transfers.lookup k).filter (live r.timeout now) := by
  rw [← filter_live_filter h (r.transfers.lookup k), ← lookup_expire]
  cases hdecode : decodeFragment frame r.mtu with
  | error e => rw [accept_malformed hdecode]
  | ok fragment =>
    cases hfor : r.transferFor streamId fragment before with
    | none => rw [accept_unknown hdecode hfor]
    | some t =>
      rw [accept_spec hdecode hfor]
      dsimp only
      rw [lookup_store, if_neg (hother fragment hdecode)]

/-- A call of another pair keeps the agreement. -/
theorem agree_other {mtu : ℕ} {k : UInt64} {time : ℤ} {r s : Reassembler}
    (h : Agree mtu k time r s) {streamId : UInt32} {frame : List UInt8} {now : ℤ}
    (htime : time ≤ now)
    (hother : ∀ fragment, decodeFragment frame mtu = .ok fragment →
      k ≠ key streamId fragment.transferId) :
    Agree mtu k now (r.accept streamId frame now).2 s := by
  obtain ⟨hmtu, htimeout⟩ := accept_config r streamId frame now
  refine ⟨hmtu.trans h.mtu_left, h.mtu_right, htimeout.trans h.timeout, fun later hlater => ?_⟩
  rw [← h.live later (htime.trans hlater), htimeout]
  exact live_after_other hlater fun fragment hdecode =>
    hother fragment (by rwa [h.mtu_left] at hdecode)

/-- A call of the pair gets the same outcome on both sides and keeps the agreement. -/
theorem agree_mine {mtu : ℕ} {k : UInt64} {time : ℤ} {r s : Reassembler}
    (h : Agree mtu k time r s) {streamId : UInt32} {frame : List UInt8} {now : ℤ}
    (htime : time ≤ now)
    (hmine : ∀ fragment, decodeFragment frame mtu = .ok fragment →
      k = key streamId fragment.transferId) :
    (r.accept streamId frame now).1 = (s.accept streamId frame now).1 ∧
      Agree mtu k now (r.accept streamId frame now).2 (s.accept streamId frame now).2 := by
  obtain ⟨hmtu, htimeout⟩ := accept_config r streamId frame now
  obtain ⟨hmtu', htimeout'⟩ := accept_config s streamId frame now
  have hlive := h.live now htime
  -- It is enough that the outcomes and the transfers under the key are the same.
  suffices hsame : (r.accept streamId frame now).1 = (s.accept streamId frame now).1 ∧
      (r.accept streamId frame now).2.transfers.lookup k =
        (s.accept streamId frame now).2.transfers.lookup k by
    refine ⟨hsame.1, hmtu.trans h.mtu_left, hmtu'.trans h.mtu_right,
      htimeout.trans (h.timeout.trans htimeout'.symm), fun later _ => ?_⟩
    rw [hsame.2, htimeout, htimeout', h.timeout]
  have hl := h.mtu_left
  have hr := h.mtu_right
  cases hdecode : decodeFragment frame mtu with
  | error e =>
    rw [accept_malformed (by rwa [hl]), accept_malformed (by rwa [hr])]
    refine ⟨rfl, ?_⟩
    rw [lookup_expire, lookup_expire, hlive]
  | ok fragment =>
    have hk := hmine fragment hdecode
    have hforEq : r.transferFor streamId fragment now = s.transferFor streamId fragment now := by
      unfold transferFor
      rw [← hk, hlive]
    cases hfor : s.transferFor streamId fragment now with
    | none =>
      rw [accept_unknown (by rwa [hl]) (hforEq.trans hfor), accept_unknown (by rwa [hr]) hfor]
      refine ⟨rfl, ?_⟩
      rw [lookup_expire, lookup_expire, hlive]
    | some t =>
      rw [accept_spec (by rwa [hl]) (hforEq.trans hfor), accept_spec (by rwa [hr]) hfor]
      refine ⟨rfl, ?_⟩
      dsimp only
      rw [lookup_store, lookup_store, if_pos hk, if_pos hk]

end Reassembler

/-- Isolation. The outcomes of the calls of one sender and transfer ID, among any others at
non-decreasing times, are the outcomes of these calls alone. -/
theorem reassembly_isolated (r : Reassembler) (streamId : UInt32) (transferId : UInt16)
    (malformed : AcceptCall → Bool) (calls : List AcceptCall)
    (hsorted : calls.Pairwise fun earlier later => earlier.now ≤ later.now) :
    reassembly.outcomesOf (AcceptCall.belongsTo r.mtu streamId transferId malformed) r calls =
      reassembly.outcomes r
        (calls.filter (AcceptCall.belongsTo r.mtu streamId transferId malformed)) := by
  cases calls with
  | nil => rfl
  | cons first rest =>
    have hle : ∀ call ∈ first :: rest, first.now ≤ call.now := by
      intro call hcall
      rcases List.mem_cons.1 hcall with rfl | hrest
      · exact le_refl _
      · exact (List.pairwise_cons.1 hsorted).1 call hrest
    refine Machine.outcomesOf_eq_filter reassembly AcceptCall.now _
      (Reassembler.Agree r.mtu (Reassembler.key streamId transferId)) ?_ ?_
      ⟨rfl, rfl, rfl, fun _ _ => rfl⟩ hle hsorted
    · intro time full solo call hagree htime hmine
      refine Reassembler.agree_mine hagree htime fun fragment hdecode => ?_
      simp only [AcceptCall.belongsTo, hdecode, Bool.and_eq_true, beq_iff_eq] at hmine
      rw [hmine.1, hmine.2]
    · intro time full solo call hagree htime hother
      refine Reassembler.agree_other hagree htime fun fragment hdecode hkey => ?_
      obtain ⟨hstream, htransfer⟩ := Reassembler.key_inj.1 hkey
      simp [AcceptCall.belongsTo, hdecode, hstream, htransfer] at hother

/-- Two senders that use the same transfer ID at the same time. -/
theorem reassembly_isolated_two_senders :
    reassembly.outcomesOf (AcceptCall.belongsTo 8 10 3 fun _ => false)
        (Reassembler.create 8 500000000 (by decide) (by decide))
        [⟨10, [3, 0, 0, 0, 5, 0xAA], 0⟩, ⟨11, [3, 0, 0, 0, 5, 0xBB], 1000⟩,
          ⟨10, [3, 0, 1, 0, 6, 0xCC], 2000⟩] =
      reassembly.outcomes (Reassembler.create 8 500000000 (by decide) (by decide))
        [⟨10, [3, 0, 0, 0, 5, 0xAA], 0⟩, ⟨10, [3, 0, 1, 0, 6, 0xCC], 2000⟩] :=
  reassembly_isolated (Reassembler.create 8 500000000 (by decide) (by decide)) 10 3
    (fun _ => false)
    [⟨10, [3, 0, 0, 0, 5, 0xAA], 0⟩, ⟨11, [3, 0, 0, 0, 5, 0xBB], 1000⟩,
      ⟨10, [3, 0, 1, 0, 6, 0xCC], 2000⟩] (by simp)

end RemoteBSP
