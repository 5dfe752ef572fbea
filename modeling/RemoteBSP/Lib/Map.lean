import Mathlib.Data.List.AList
import Mathlib.Algebra.BigOperators.Group.List.Basic
import Mathlib.Algebra.GroupWithZero.Nat
import RemoteBSP.Lib.Loop

/-!
# Finite maps

A hash map is modelled by Mathlib's `AList`: a list of entries, at most one for each key. Only the
order of the entries differs from a hash map's, and it is as arbitrary here as there. Mathlib has
lookup, insertion and erasure; this module adds what a program does by walking over all entries
(`filterEntries`, `mapValues`, `sweep`, `anyValue`, `total`), and restates the lookups after an
insertion or an erasure as one conditional, so that a proof splits on the key once.
-/

/-- A finite map from `K` to `V`. -/
abbrev Map (K V : Type) : Type := AList fun _ : K => V

namespace Map

variable {K V : Type} [DecidableEq K]

/-- The value after an insertion, at any key. -/
theorem lookup_insert_ite (m : Map K V) (k k' : K) (v : V) :
    (m.insert k v).lookup k' = if k' = k then some v else m.lookup k' := by
  split_ifs with h
  · rw [h, AList.lookup_insert]
  · rw [AList.lookup_insert_ne h]

/-- The value after an erasure, at any key. -/
theorem lookup_erase_ite (m : Map K V) (k k' : K) :
    (m.erase k).lookup k' = if k' = k then none else m.lookup k' := by
  split_ifs with h
  · rw [h, AList.lookup_erase]
  · rw [AList.lookup_erase_ne h]

/-- An entry of the map is what the lookup of its key finds. -/
theorem mem_entries_iff (m : Map K V) (k : K) (v : V) :
    (⟨k, v⟩ : Sigma fun _ : K => V) ∈ m.entries ↔ m.lookup k = some v := by
  rw [← Option.mem_def, AList.mem_lookup_iff]

/-- The entries that satisfy `p`; the others are dropped. -/
def filterEntries (m : Map K V) (p : K → V → Bool) : Map K V :=
  ⟨m.entries.filter fun e => p e.1 e.2, m.nodupKeys.sublist List.filter_sublist⟩

omit [DecidableEq K] in
/-- The entries of a filtered map. -/
@[simp]
theorem entries_filterEntries (m : Map K V) (p : K → V → Bool) :
    (m.filterEntries p).entries = m.entries.filter fun e => p e.1 e.2 := rfl

/-- A filtered map finds what the map finds, if it satisfies `p`. -/
@[simp]
theorem lookup_filterEntries (m : Map K V) (p : K → V → Bool) (k : K) :
    (m.filterEntries p).lookup k = (m.lookup k).filter (p k) := by
  ext v
  rw [← mem_entries_iff, entries_filterEntries, List.mem_filter, mem_entries_iff,
    Option.filter_eq_some_iff]

/-- The map with `f` applied to every value. -/
def mapValues (m : Map K V) (f : V → V) : Map K V :=
  ⟨m.entries.map fun e => ⟨e.1, f e.2⟩, by
    rw [List.NodupKeys, List.keys, List.map_map]
    exact m.nodupKeys⟩

/-- The values of a map under `f`. -/
@[simp]
theorem lookup_mapValues (m : Map K V) (f : V → V) (k : K) :
    (m.mapValues f).lookup k = (m.lookup k).map f := by
  ext v
  rw [← mem_entries_iff, mapValues, List.mem_map, Option.map_eq_some_iff]
  constructor
  · rintro ⟨e, hmem, heq⟩
    obtain ⟨rfl, rfl⟩ : e.1 = k ∧ f e.2 = v := by simpa using heq
    exact ⟨e.2, (mem_entries_iff m e.1 e.2).1 hmem, rfl⟩
  · rintro ⟨u, hlookup, rfl⟩
    exact ⟨⟨k, u⟩, (mem_entries_iff m k u).2 hlookup, rfl⟩

/-- The map with one more entry, unless the key has one. -/
def emplace (m : Map K V) (k : K) (v : V) : Map K V :=
  if (m.lookup k).isSome then m else m.insert k v

/-- What is found after an entry has been added was there, or is that entry. -/
theorem lookup_emplace_cases {m : Map K V} {k k' : K} {v v' : V}
    (h : (m.emplace k v).lookup k' = some v') : m.lookup k' = some v' ∨ k' = k ∧ v' = v := by
  unfold emplace at h
  split at h
  · exact .inl h
  · rw [lookup_insert_ite] at h
    split at h
    · next hk => exact .inr ⟨hk, (Option.some.inj h).symm⟩
    · exact .inl h

/-- What was there before an entry has been added is there. -/
theorem lookup_emplace_of_some {m : Map K V} {k k' : K} {v v' : V} (h : m.lookup k' = some v') :
    (m.emplace k v).lookup k' = some v' := by
  unfold emplace
  split
  · exact h
  · next hnone =>
    have hne : k' ≠ k := by
      rintro rfl
      exact hnone (Option.isSome_of_eq_some h)
    rw [AList.lookup_insert_ne hne, h]

/-- Erasing what is not there changes nothing. -/
theorem erase_of_lookup_eq_none {m : Map K V} {k : K} (h : m.lookup k = none) : m.erase k = m := by
  rw [AList.lookup_eq_none] at h
  exact AList.ext (List.kerase_of_notMem_keys h)

/-- A walk over the entries that satisfy `p`, in which `act` changes a state outside the map. -/
def sweep {β : Type} (m : Map K V) (p : V → Bool) (act : β → V → β) (b : β) : β :=
  (m.filterEntries fun _ => p).entries.foldl (fun b e => act b e.2) b

/-- What each change of a walk keeps, the walk keeps. -/
theorem sweep_keeps {β : Type} {P : β → Prop} {m : Map K V} {p : V → Bool} {act : β → V → β}
    (hact : ∀ b k v, m.lookup k = some v → p v = true → P b → P (act b v)) {b : β} (hb : P b) :
    P (m.sweep p act b) := by
  refine List.foldlRecOn _ _ hb fun b hb e he => ?_
  obtain ⟨hmem, hp⟩ := List.mem_filter.1 he
  exact hact b e.1 e.2 ((mem_entries_iff m e.1 e.2).1 hmem) hp hb

/-- What the change for one entry brings about, and the others keep, holds behind the walk. -/
theorem sweep_reaches {β : Type} {P Q : β → Prop} {m : Map K V} {p : V → Bool}
    {act : β → V → β} (hP : ∀ b v, P b → P (act b v)) (hQ : ∀ b v, Q b → Q (act b v)) {k : K}
    {v : V} (hv : m.lookup k = some v) (hp : p v = true) (hreach : ∀ b, P b → Q (act b v)) {b : β}
    (hb : P b) : Q (m.sweep p act b) := by
  have hmem : (⟨k, v⟩ : Sigma fun _ : K => V) ∈ (m.filterEntries fun _ => p).entries :=
    List.mem_filter.2 ⟨(mem_entries_iff m k v).2 hv, hp⟩
  exact List.foldl_reaches (fun b e _ => hP b e.2) (fun b e _ => hQ b e.2) hmem hreach hb

/-- A walk over the entries that reports each key's own value under `f`: what it reports of one key,
told by `g`, is what `f` makes of the key's value. -/
theorem filter_filterMap_entries {β : Type} (m : Map K V) {f : K → V → Option β} {g : β → K}
    (hg : ∀ k v b, m.lookup k = some v → f k v = some b → g b = k) (k : K) :
    ((m.entries.filterMap fun e => f e.1 e.2).filter fun b => g b = k) =
      ((m.lookup k).bind (f k)).toList := by
  obtain ⟨entries, hnodup⟩ := m
  show ((entries.filterMap fun e => f e.1 e.2).filter fun b => g b = k) =
    ((entries.dlookup k).bind (f k)).toList
  replace hg : ∀ k v b, (⟨k, v⟩ : Sigma fun _ : K => V) ∈ entries → f k v = some b → g b = k :=
    fun k v b hmem => hg k v b ((mem_entries_iff ⟨entries, hnodup⟩ k v).1 hmem)
  induction entries with
  | nil => rfl
  | cons e entries ih =>
    obtain ⟨k', v⟩ := e
    rw [List.nodupKeys_cons] at hnodup
    have hrest := ih hnodup.2 fun k v b hmem => hg k v b (List.mem_cons_of_mem _ hmem)
    rw [List.filterMap_cons]
    by_cases hk : k' = k
    · -- The other entries have other keys.
      subst hk
      have hnone : (entries.dlookup k') = none := List.dlookup_eq_none.2 hnodup.1
      rw [List.dlookup_cons_eq, Option.bind_some]
      rw [hnone] at hrest
      cases hf : f k' v with
      | none => exact hrest
      | some b =>
        have hb : g b = k' := hg k' v b List.mem_cons_self hf
        dsimp only
        rw [List.filter_cons_of_pos (by rw [decide_eq_true_iff]; exact hb), hrest]
        rfl
    -- An entry under another key reports nothing of this one.
    · rw [List.dlookup_cons_ne _ _ (Ne.symm hk)]
      cases hf : f k' v with
      | none => exact hrest
      | some b =>
        have hb : g b = k' := hg k' v b List.mem_cons_self hf
        dsimp only
        rw [List.filter_cons_of_neg (by rw [hb, decide_eq_true_iff]; exact hk), hrest]

/-- Whether some value of the map satisfies `p`. -/
def anyValue (m : Map K V) (p : V → Bool) : Bool := m.entries.any fun e => p e.2

/-- Some value satisfies `p` exactly when some key's value does. -/
theorem anyValue_iff (m : Map K V) (p : V → Bool) :
    m.anyValue p = true ↔ ∃ k v, m.lookup k = some v ∧ p v = true := by
  simp only [anyValue, List.any_eq_true]
  constructor
  · rintro ⟨⟨k, v⟩, hmem, hp⟩
    exact ⟨k, v, (mem_entries_iff m k v).1 hmem, hp⟩
  · rintro ⟨k, v, hl, hp⟩
    exact ⟨⟨k, v⟩, (mem_entries_iff m k v).2 hl, hp⟩

/-- No value satisfies `p` exactly when no key's value does. -/
theorem anyValue_eq_false_iff (m : Map K V) (p : V → Bool) :
    m.anyValue p = false ↔ ∀ k v, m.lookup k = some v → p v = false := by
  rw [← Bool.not_eq_true, anyValue_iff]
  push Not
  simp

/-- The sum of `f` over the values. -/
def total (m : Map K V) (f : V → ℕ) : ℕ := (m.entries.map fun e => f e.2).sum

/-- A new key adds its value to the sum. -/
theorem total_insert {m : Map K V} {k : K} (hk : m.lookup k = none) (v : V) (f : V → ℕ) :
    total (m.insert k v) f = f v + total m f := by
  rw [AList.lookup_eq_none] at hk
  simp only [total, AList.entries_insert_of_notMem hk, List.map_cons, List.sum_cons]

/-- The sum, over a list of the keys. -/
theorem total_eq_sum (m : Map K V) (f : V → ℕ) {ks : List K} (hnodup : ks.Nodup)
    (hks : ∀ k, k ∈ ks ↔ (m.lookup k).isSome) :
    total m f = (ks.map fun k => ((m.lookup k).map f).getD 0).sum := by
  have hperm : m.keys.Perm ks := by
    refine (List.perm_ext_iff_of_nodup m.keys_nodup hnodup).2 fun k => ?_
    rw [hks, AList.lookup_isSome, AList.mem_keys]
  rw [← (hperm.map _).sum_eq, AList.keys, List.keys, List.map_map, total]
  refine congrArg List.sum (List.map_congr_left fun e he => ?_)
  have hlookup := (mem_entries_iff m e.1 e.2).1 he
  simp only [Function.comp_apply, hlookup, Option.map_some, Option.getD_some]

/-- Maps with the same keys have as many entries. -/
theorem length_entries_congr {m m' : Map K V}
    (h : ∀ k, (m'.lookup k).isSome = (m.lookup k).isSome) :
    m'.entries.length = m.entries.length := by
  have hperm : m'.keys.Perm m.keys := by
    refine (List.perm_ext_iff_of_nodup m'.keys_nodup m.keys_nodup).2 fun k => ?_
    rw [← AList.mem_keys, ← AList.mem_keys, ← AList.lookup_isSome, ← AList.lookup_isSome, h]
  have hlength := hperm.length_eq
  simpa only [AList.keys, List.keys, List.length_map] using hlength

/-- A map with one more key has one more entry. -/
theorem length_entries_of_new {m m' : Map K V} {k : K} (hnew : m.lookup k = none)
    (h : ∀ k', (m'.lookup k').isSome ↔ k' = k ∨ (m.lookup k').isSome) :
    m'.entries.length = m.entries.length + 1 := by
  have hnodup : (k :: m.keys).Nodup := by
    rw [List.nodup_cons, ← AList.mem_keys]
    exact ⟨AList.lookup_eq_none.1 hnew, m.keys_nodup⟩
  have hperm : m'.keys.Perm (k :: m.keys) := by
    refine (List.perm_ext_iff_of_nodup m'.keys_nodup hnodup).2 fun k' => ?_
    rw [List.mem_cons, ← AList.mem_keys, ← AList.mem_keys, ← AList.lookup_isSome,
      ← AList.lookup_isSome, h]
  have hlength := hperm.length_eq
  simpa only [AList.keys, List.keys, List.length_map, List.length_cons] using hlength

end Map
