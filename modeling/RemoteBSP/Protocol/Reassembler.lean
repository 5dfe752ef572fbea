import RemoteBSP.Lib.Machine
import RemoteBSP.Lib.Map
import RemoteBSP.Protocol.Fragmentation

/-!
# The reassembler

`Reassembler` of `protocol/src/fragmentation.cpp`. It holds the transfers that are under way, or
completed, in one map, keyed by the sender and the transfer ID, and each call of `accept` first
drops those that have timed out. A time point of the steady clock is an integer, in nanoseconds.

What a fragment does to its transfer is `Transfer.accept`, which knows nothing of the map, and
`accept_spec` is `accept` in these terms: it looks the transfer up, lets it accept the fragment, and
puts it back or erases it. `tryComplete_eq_some_iff` says what the completion scan finds.
-/

namespace RemoteBSP

/-- `ReassemblyStatus`, what a fragment has made of its transfer. -/
inductive ReassemblyStatus
  | inProgress
  | complete
  | duplicate
deriving DecidableEq, Repr

/-- `ReassemblyResult`, the status with the packet if there is one. -/
structure ReassemblyResult where
  /-- What the fragment has made of its transfer. -/
  status : ReassemblyStatus
  /-- The packet, of a completed transfer. -/
  packet : Option (List UInt8)
deriving DecidableEq, Repr

/-- `Reassembler::Transfer`, a packet of which some fragments have arrived. -/
structure Transfer where
  /-- When a fragment was last accepted. -/
  lastUpdate : ℤ
  /-- The payloads that have arrived, by sequence. -/
  pieces : Map UInt16 (List UInt8)
  /-- The flags of their fragments, by sequence. -/
  pieceFlags : Map UInt16 UInt8
  /-- The sequence of the last fragment, once it has arrived. -/
  lastSequence : Option UInt16
  /-- The length of all payloads together. -/
  receivedSize : ℕ
  /-- Whether the packet has been returned. -/
  complete : Bool
  /-- The packet that has been returned. -/
  completedPacket : List UInt8

/-- `Reassembler`. Its constructor throws unless there is room for data and the timeout is
positive, so these are fields. -/
structure Reassembler where
  /-- The most bytes of data that a frame carries. -/
  mtu : ℕ
  /-- How long a transfer may go without a fragment, in nanoseconds. -/
  timeout : ℤ
  /-- The transfers that are under way, by `key`. -/
  transfers : Map UInt64 Transfer
  /-- `validate_mtu` has passed: a frame carries more than its header. -/
  room : kFragmentHeaderSize < mtu
  /-- A transfer may wait for some time. -/
  timeout_pos : 0 < timeout

/-- The reassembler that the constructor makes. -/
def Reassembler.create (mtu : ℕ) (timeout : ℤ) (room : kFragmentHeaderSize < mtu)
    (timeout_pos : 0 < timeout) : Reassembler :=
  ⟨mtu, timeout, ∅, room, timeout_pos⟩

/-- `Reassembler::key`, the sender above and the transfer ID below. -/
def Reassembler.key (streamId : UInt32) (transferId : UInt16) : UInt64 :=
  (streamId.toUInt64 <<< 16) ||| transferId.toUInt64

/-- The transfer that a first fragment opens. -/
def Transfer.empty (now : ℤ) : Transfer where
  lastUpdate := now
  pieces := ∅
  pieceFlags := ∅
  lastSequence := none
  receivedSize := 0
  complete := false
  completedPacket := []

/-- `Reassembler::try_complete`: the payloads from sequence zero to the last one, if all are
there. -/
def Transfer.tryComplete (transfer : Transfer) : Option (List UInt8) :=
  match transfer.lastSequence with
  | none => none
  | some last =>
    ((List.range (last.toNat + 1)).mapM fun sequence =>
      transfer.pieces.lookup (UInt16.ofNat sequence)).map List.flatten

/-- The transfer with one more fragment, before the completion scan. -/
def Transfer.addPiece (transfer : Transfer) (fragment : Fragment) (now : ℤ) : Transfer :=
  { transfer with
    lastUpdate := now
    receivedSize := transfer.receivedSize + fragment.payload.length
    pieces := transfer.pieces.insert fragment.sequence fragment.payload
    pieceFlags := transfer.pieceFlags.insert fragment.sequence fragment.flags
    lastSequence := if fragment.isLast then some fragment.sequence else transfer.lastSequence }

/-- The part of `Reassembler::accept` behind the lookup of the transfer. It returns the transfer as
it is afterwards, `none` if it is erased. -/
def Transfer.accept (transfer : Transfer) (fragment : Fragment) (now : ℤ) :
    Except FragmentException ReassemblyResult × Option Transfer :=
  match transfer.pieces.lookup fragment.sequence with
  | some payload =>
    if payload ≠ fragment.payload ∨
        transfer.pieceFlags.lookup fragment.sequence ≠ some fragment.flags then
      (.error ⟨.conflictingDuplicate, "duplicate sequence has different content"⟩, some transfer)
    else
      (.ok ⟨.duplicate, if transfer.complete then some transfer.completedPacket else none⟩,
        some { transfer with lastUpdate := now })
  | none =>
    if transfer.complete ∨ ∃ last ∈ transfer.lastSequence, last < fragment.sequence then
      (.error ⟨.dataAfterLast, "fragment sequence follows last fragment"⟩, some transfer)
    else if fragment.isLast ∧ ∃ last ∈ transfer.lastSequence, last ≠ fragment.sequence then
      (.error ⟨.invalidSequence, "transfer has multiple last fragments"⟩, some transfer)
    else if kMaximumPacketSize < transfer.receivedSize + fragment.payload.length then
      (.error ⟨.reassembledPacketTooLarge, "reassembled packet exceeds maximum size"⟩, none)
    else
      let transfer := transfer.addPiece fragment now
      match transfer.tryComplete with
      | some packet =>
        (.ok ⟨.complete, some packet⟩,
          some { transfer with complete := true, completedPacket := packet })
      | none => (.ok ⟨.inProgress, none⟩, some transfer)

namespace Reassembler

/-- A transfer that `expire` keeps has had a fragment lately. -/
def live (timeout : ℤ) (now : ℤ) (transfer : Transfer) : Bool :=
  !decide (timeout ≤ now - transfer.lastUpdate)

/-- `Reassembler::expire`: the number of the transfers removed, and the reassembler without
them. -/
def expire (reassembler : Reassembler) (now : ℤ) : ℕ × Reassembler :=
  let kept := reassembler.transfers.filterEntries fun _ => live reassembler.timeout now
  (reassembler.transfers.entries.length - kept.entries.length,
    { reassembler with transfers := kept })

/-- `Reassembler::pending`, the number of the transfers under way. -/
def pending (reassembler : Reassembler) : ℕ := reassembler.transfers.entries.length

/-- Puts a transfer under a key, or erases it. -/
def store (reassembler : Reassembler) (key : UInt64) (transfer : Option Transfer) : Reassembler :=
  match transfer with
  | some transfer =>
    { reassembler with transfers := reassembler.transfers.insert key transfer }
  | none => { reassembler with transfers := reassembler.transfers.erase key }

/-- `Reassembler::accept`. The exception, if one is thrown, leaves the reassembler in the state
returned beside it. -/
def accept (reassembler : Reassembler) (streamId : UInt32) (frame : List UInt8)
    (now : ℤ) : Except FragmentException ReassemblyResult × Reassembler :=
  let reassembler := (reassembler.expire now).2
  match decodeFragment frame reassembler.mtu with
  | .error exception => (.error exception, reassembler)
  | .ok fragment =>
    let transferKey := key streamId fragment.transferId
    match reassembler.transfers.lookup transferKey with
    | some transfer =>
      let (result, transfer) := transfer.accept fragment now
      (result, reassembler.store transferKey transfer)
    | none =>
      if !fragment.isFirst then
        (.error ⟨.unknownTransfer, "transfer must begin with first fragment"⟩, reassembler)
      else
        let (result, transfer) := (Transfer.empty now).accept fragment now
        (result, reassembler.store transferKey transfer)

end Reassembler

/-- A call of `Reassembler::accept` with its operands. -/
structure AcceptCall where
  /-- The sender of the frame. -/
  streamId : UInt32
  /-- The data of the frame. -/
  frame : List UInt8
  /-- The time of the call. -/
  now : ℤ

/-- The reassembler, as a machine whose operations are the calls of `accept`. -/
def reassembly :
    Machine Reassembler AcceptCall (Except FragmentException ReassemblyResult) where
  step reassembler call :=
    let (result, reassembler) := reassembler.accept call.streamId call.frame call.now
    (reassembler, result)

/-! ## One transfer -/

/-- A lookup of several keys succeeds when each of them is there. -/
theorem mapM_eq_some_iff {α β : Type} {f : α → Option (List β)} {xs : List α}
    {yss : List (List β)} :
    xs.mapM f = some yss ↔
      (∀ x ∈ xs, (f x).isSome) ∧ yss = xs.map fun x => (f x).getD [] := by
  induction xs generalizing yss with
  | nil => simp only [List.mapM_nil, Option.pure_def, Option.some.injEq, List.not_mem_nil,
      IsEmpty.forall_iff, implies_true, true_and, List.map_nil]; exact eq_comm
  | cons x xs ih =>
    rw [List.mapM_cons]
    cases hx : f x with
    | none => simp [hx]
    | some ys =>
      simp only [Option.pure_def, Option.bind_eq_bind, Option.bind_some, Option.bind_eq_some_iff,
        Option.some.injEq, ih, List.mem_cons, forall_eq_or_imp, hx, Option.isSome_some, true_and,
        List.map_cons, Option.getD_some]
      constructor
      · rintro ⟨yss', ⟨hall, rfl⟩, rfl⟩
        exact ⟨hall, rfl⟩
      · rintro ⟨hall, rfl⟩
        exact ⟨_, ⟨hall, rfl⟩, rfl⟩

/-- Every index up to a sequence is a sequence. -/
theorem forall_mem_range_sequence {p : UInt16 → Prop} {last : UInt16} :
    (∀ i ∈ List.range (last.toNat + 1), p (UInt16.ofNat i)) ↔ ∀ s ≤ last, p s := by
  constructor
  · intro h s hs
    have := h s.toNat (List.mem_range.2 (Nat.lt_succ_of_le (UInt16.le_iff_toNat_le.1 hs)))
    rwa [UInt16.ofNat_toNat] at this
  · intro h i hi
    have hlt : i < 2^16 := by
      have := last.toNat_lt
      have := List.mem_range.1 hi
      omega
    refine h _ (UInt16.le_iff_toNat_le.2 ?_)
    rw [UInt16.toNat_ofNat_of_lt' hlt]
    exact Nat.le_of_lt_succ (List.mem_range.1 hi)

/-- The payloads up to a sequence, one after the other. -/
def Transfer.payloads (transfer : Transfer) (last : UInt16) : List UInt8 :=
  (List.range (last.toNat + 1)).flatMap fun i =>
    (transfer.pieces.lookup (UInt16.ofNat i)).getD []

/-- The completion scan succeeds when the last sequence is known and every piece up to it is
there. -/
theorem Transfer.tryComplete_eq_some_iff {transfer : Transfer} {packet : List UInt8} :
    transfer.tryComplete = some packet ↔
      ∃ last, transfer.lastSequence = some last ∧
        (∀ s ≤ last, (transfer.pieces.lookup s).isSome) ∧ packet = transfer.payloads last := by
  unfold Transfer.tryComplete
  cases hlast : transfer.lastSequence with
  | none => simp
  | some last =>
    simp only [Option.map_eq_some_iff, mapM_eq_some_iff, Option.some.injEq, exists_eq_left']
    rw [← forall_mem_range_sequence (p := fun s => (transfer.pieces.lookup s).isSome)]
    constructor
    · rintro ⟨yss, ⟨hall, rfl⟩, rfl⟩
      exact ⟨hall, rfl⟩
    · rintro ⟨hall, rfl⟩
      exact ⟨_, ⟨hall, rfl⟩, rfl⟩

/-- `Transfer.accept` throws and keeps the transfer or not, takes a duplicate, or adds the piece,
which may complete the packet. -/
theorem Transfer.accept_cases (t : Transfer) (f : Fragment) (now : ℤ) :
    (∃ e, t.accept f now = (.error e, some t)) ∨
    (∃ e, t.accept f now = (.error e, none)) ∨
    ((t.pieces.lookup f.sequence).isSome ∧
      ∃ p, t.accept f now = (.ok ⟨.duplicate, p⟩, some { t with lastUpdate := now })) ∨
    (t.pieces.lookup f.sequence = none ∧ t.complete = false ∧
      (∀ last ∈ t.lastSequence, f.sequence ≤ last) ∧
      (f.isLast = true → ∀ last ∈ t.lastSequence, last = f.sequence) ∧
      t.receivedSize + f.payload.length ≤ kMaximumPacketSize ∧
      ((∃ packet, (t.addPiece f now).tryComplete = some packet ∧
          t.accept f now = (.ok ⟨.complete, some packet⟩,
            some { t.addPiece f now with complete := true, completedPacket := packet })) ∨
        ((t.addPiece f now).tryComplete = none ∧
          t.accept f now = (.ok ⟨.inProgress, none⟩, some (t.addPiece f now))))) := by
  unfold Transfer.accept
  -- The piece is there already, and is compared.
  cases hpiece : t.pieces.lookup f.sequence with
  | some payload =>
    dsimp only
    split_ifs with hconflict
    · exact .inl ⟨_, rfl⟩
    · exact .inr (.inr (.inl ⟨rfl, _, rfl⟩))
    · exact .inr (.inr (.inl ⟨rfl, _, rfl⟩))
  -- The piece is new, and is checked before it is added.
  | none =>
    dsimp only
    split_ifs with hafter hlast hsize
    · exact .inl ⟨_, rfl⟩
    · exact .inl ⟨_, rfl⟩
    · exact .inr (.inl ⟨_, rfl⟩)
    · refine .inr (.inr (.inr ⟨rfl, ?_, ?_, ?_, not_lt.1 hsize, ?_⟩))
      · simpa using fun h => hafter (.inl h)
      · exact fun last hmem => UInt16.not_lt.1 fun hlt => hafter (.inr ⟨last, hmem, hlt⟩)
      · exact fun his last hmem => by_contra fun hne => hlast ⟨his, last, hmem, hne⟩
      · cases htry : (t.addPiece f now).tryComplete with
        | some packet => exact .inl ⟨packet, rfl, rfl⟩
        | none => exact .inr ⟨rfl, rfl⟩

/-! ## The map of transfers -/

namespace Reassembler

/-- The number that a key stands for: the sender above the 16 bits of the transfer ID. -/
theorem toNat_key (streamId : UInt32) (transferId : UInt16) :
    (key streamId transferId).toNat = 2^16 * streamId.toNat + transferId.toNat := by
  have hs := streamId.toNat_lt
  have ht := transferId.toNat_lt
  have hlt : streamId.toNat * 2^16 < 2^64 := by omega
  simp only [key, UInt64.toNat_or, UInt64.toNat_shiftLeft, UInt32.toNat_toUInt64,
    UInt16.toNat_toUInt64, UInt64.reduceToNat, Nat.reduceMod, Nat.shiftLeft_eq]
  rw [Nat.mod_eq_of_lt hlt, mul_comm, Nat.two_pow_add_eq_or_of_lt ht]

/-- No two pairs of a sender and a transfer ID share a key. -/
theorem key_inj {s s' : UInt32} {t t' : UInt16} : key s t = key s' t' ↔ s = s' ∧ t = t' := by
  refine ⟨fun h => ?_, fun ⟨hs, ht⟩ => by rw [hs, ht]⟩
  have hkey := congrArg UInt64.toNat h
  rw [toNat_key, toNat_key] at hkey
  have ht := t.toNat_lt
  have ht' := t'.toNat_lt
  exact ⟨UInt32.toNat_inj.1 (by omega), UInt16.toNat_inj.1 (by omega)⟩

/-- What is found after an expiry. -/
@[simp]
theorem lookup_expire (r : Reassembler) (now : ℤ) (k : UInt64) :
    (r.expire now).2.transfers.lookup k =
      (r.transfers.lookup k).filter (live r.timeout now) :=
  Map.lookup_filterEntries _ _ _

/-- What is found after a transfer has been put back or erased. -/
theorem lookup_store (r : Reassembler) (k k' : UInt64) (transfer : Option Transfer) :
    (r.store k transfer).transfers.lookup k' =
      if k' = k then transfer else r.transfers.lookup k' := by
  cases transfer with
  | some transfer => exact Map.lookup_insert_ite _ _ _ _
  | none => exact Map.lookup_erase_ite _ _ _

/-- An expiry keeps the MTU and the timeout. -/
@[simp]
theorem expire_config (r : Reassembler) (now : ℤ) :
    (r.expire now).2.mtu = r.mtu ∧ (r.expire now).2.timeout = r.timeout := ⟨rfl, rfl⟩

/-- A store of a transfer keeps the MTU and the timeout. -/
@[simp]
theorem store_config (r : Reassembler) (k : UInt64) (transfer : Option Transfer) :
    (r.store k transfer).mtu = r.mtu ∧ (r.store k transfer).timeout = r.timeout := by
  cases transfer <;> exact ⟨rfl, rfl⟩

/-- The transfer that a fragment goes to: the one under its key that is still live, or a new one if
the fragment is first. -/
def transferFor (r : Reassembler) (streamId : UInt32) (fragment : Fragment) (now : ℤ) :
    Option Transfer :=
  match (r.transfers.lookup (key streamId fragment.transferId)).filter (live r.timeout now) with
  | some transfer => some transfer
  | none => if fragment.isFirst then some (Transfer.empty now) else none

/-- `accept` of a frame that does not decode. -/
theorem accept_malformed {r : Reassembler} {streamId : UInt32} {frame : List UInt8}
    {now : ℤ} {e : FragmentException} (hdecode : decodeFragment frame r.mtu = .error e) :
    r.accept streamId frame now = (.error e, (r.expire now).2) := by
  simp only [accept, expire_config, hdecode]

/-- `accept` of a fragment of no transfer. -/
theorem accept_unknown {r : Reassembler} {streamId : UInt32} {frame : List UInt8}
    {now : ℤ} {fragment : Fragment} (hdecode : decodeFragment frame r.mtu = .ok fragment)
    (hfor : r.transferFor streamId fragment now = none) :
    r.accept streamId frame now =
      (.error ⟨.unknownTransfer, "transfer must begin with first fragment"⟩,
        (r.expire now).2) := by
  unfold transferFor at hfor
  simp only [accept, expire_config, hdecode, lookup_expire]
  cases hlookup : (r.transfers.lookup (key streamId fragment.transferId)).filter
      (live r.timeout now) with
  | some t => simp only [hlookup, reduceCtorEq] at hfor
  | none =>
    rw [hlookup] at hfor
    split_ifs at hfor with hfirst
    simp [hfirst]

/-- `accept` of a fragment of a transfer: the transfer accepts it and is put back or erased. -/
theorem accept_spec {r : Reassembler} {streamId : UInt32} {frame : List UInt8} {now : ℤ}
    {fragment : Fragment} {t : Transfer} (hdecode : decodeFragment frame r.mtu = .ok fragment)
    (hfor : r.transferFor streamId fragment now = some t) :
    r.accept streamId frame now = ((t.accept fragment now).1,
      (r.expire now).2.store (key streamId fragment.transferId) (t.accept fragment now).2) := by
  unfold transferFor at hfor
  simp only [accept, expire_config, hdecode, lookup_expire]
  cases hlookup : (r.transfers.lookup (key streamId fragment.transferId)).filter
      (live r.timeout now) with
  | some found =>
    rw [hlookup] at hfor
    obtain rfl := Option.some.inj hfor
    rfl
  | none =>
    rw [hlookup] at hfor
    split_ifs at hfor with hfirst
    obtain rfl := Option.some.inj hfor
    simp [hfirst]

/-- `accept` keeps the MTU and the timeout. -/
theorem accept_config (r : Reassembler) (streamId : UInt32) (frame : List UInt8)
    (now : ℤ) :
    (r.accept streamId frame now).2.mtu = r.mtu ∧
      (r.accept streamId frame now).2.timeout = r.timeout := by
  cases hdecode : decodeFragment frame r.mtu with
  | error e => rw [accept_malformed hdecode]; exact expire_config r now
  | ok fragment =>
    cases hfor : r.transferFor streamId fragment now with
    | none => rw [accept_unknown hdecode hfor]; exact expire_config r now
    | some t => rw [accept_spec hdecode hfor]; exact store_config _ _ _

end Reassembler
end RemoteBSP
