import Mathlib.Data.List.FinRange
import Mathlib.Logic.Function.Basic
import Mathlib.Tactic

/-!
# Caches that are filled in turn

A cache of `n` places into which the elements are put in turn, so that an insertion evicts the
oldest element once the cache is full. `Represents` relates it to the log of all insertions: the
last `n` elements of the log are in the cache, each at its index modulo `n`. An element can thus be
found as long as fewer than `n` others have been inserted since (`Represents.find_isSome`).
-/

/-- A cache of `n` places, and the place to fill next. -/
structure RingCache (α : Type) (n : ℕ) where
  /-- The places. -/
  entries : Fin n → Option α
  /-- The place to fill next. -/
  cursor : Fin n

namespace RingCache

variable {α : Type} {n : ℕ} [NeZero n]

/-- A cache without elements. -/
def empty : RingCache α n := ⟨fun _ => none, 0⟩

/-- One more element, in the place of the oldest one. -/
def insert (c : RingCache α n) (a : α) : RingCache α n :=
  ⟨Function.update c.entries c.cursor (some a), c.cursor + 1⟩

omit [NeZero n] in
/-- The first element, in the order of the places, that satisfies `p`. -/
def find? (c : RingCache α n) (p : α → Bool) : Option α :=
  (List.finRange n).findSome? fun i => (c.entries i).filter p

omit [NeZero n] in
/-- What is found is in the cache and satisfies `p`. -/
theorem find?_spec {c : RingCache α n} {p : α → Bool} {a : α} (h : c.find? p = some a) :
    p a = true ∧ ∃ i, c.entries i = some a := by
  obtain ⟨i, -, hi⟩ := List.exists_of_findSome?_eq_some h
  obtain ⟨hentry, hp⟩ := Option.filter_eq_some_iff.1 hi
  exact ⟨hp, i, hentry⟩

omit [NeZero n] in
/-- An element that satisfies `p` lets the search succeed. -/
theorem find?_isSome {c : RingCache α n} {p : α → Bool} {i : Fin n} {a : α}
    (hentry : c.entries i = some a) (hp : p a = true) : (c.find? p).isSome = true := by
  rw [find?, List.findSome?_isSome_iff]
  refine ⟨i, List.mem_finRange i, ?_⟩
  rw [hentry, Option.filter_some_pos hp]
  rfl

/-- An insertion adds nothing but its element. -/
theorem entries_insert {c : RingCache α n} {a b : α} {i : Fin n}
    (h : (c.insert a).entries i = some b) : b = a ∨ c.entries i = some b := by
  unfold insert at h
  dsimp only at h
  by_cases hi : i = c.cursor
  · subst hi
    rw [Function.update_self] at h
    exact .inl (Option.some.inj h).symm
  · rw [Function.update_of_ne hi] at h
    exact .inr h

/-- The cache holds the last `n` elements of the log, each at its index modulo `n`. -/
structure Represents (c : RingCache α n) (log : List α) : Prop where
  /-- The next element gets the next place. -/
  cursor : c.cursor = Fin.ofNat n log.length
  /-- The recent elements are there. -/
  recent : ∀ k a, log[k]? = some a → log.length ≤ k + n → c.entries (Fin.ofNat n k) = some a

/-- An empty cache has an empty log. -/
theorem represents_empty : (empty : RingCache α n).Represents [] :=
  ⟨rfl, fun _ _ h => absurd h (by rw [List.getElem?_nil]; exact nofun)⟩

/-- An insertion is logged. -/
theorem Represents.insert {c : RingCache α n} {log : List α} (h : c.Represents log) (a : α) :
    (c.insert a).Represents (log ++ [a]) := by
  have hn : 0 < n := Nat.pos_of_ne_zero (NeZero.ne n)
  constructor
  · rw [RingCache.insert, h.cursor, List.length_append, List.length_singleton]
    apply Fin.ext
    rw [Fin.val_add, Fin.val_ofNat, Fin.val_ofNat, Fin.val_one', Nat.add_mod_mod,
      Nat.mod_add_mod]
  · intro k b hk hrecent
    rw [List.length_append, List.length_singleton] at hrecent
    rw [RingCache.insert, h.cursor]
    dsimp only
    by_cases hlast : k = log.length
    · -- The element just inserted.
      subst hlast
      rw [List.getElem?_concat_length] at hk
      rw [Function.update_self, hk]
    · -- An older one is in another place, since it is less than `n` insertions old.
      have hlt : k < log.length := by
        have hlen := (List.getElem?_eq_some_iff.1 hk).1
        rw [List.length_append, List.length_singleton] at hlen
        omega
      rw [List.getElem?_append_left hlt] at hk
      have hne : Fin.ofNat n k ≠ Fin.ofNat n log.length := by
        intro heq
        have hmod : k % n = log.length % n := congrArg Fin.val heq
        have hdvd : n ∣ log.length - k := (Nat.modEq_iff_dvd' hlt.le).1 hmod
        have hle := Nat.le_of_dvd (by omega) hdvd
        omega
      rw [Function.update_of_ne hne]
      exact h.recent k b hk (by omega)

/-- An element can be found as long as fewer than `n` others have been inserted since. -/
theorem Represents.find_isSome {c : RingCache α n} {log : List α} (h : c.Represents log) {k : ℕ}
    {a : α} {p : α → Bool} (hk : log[k]? = some a) (hrecent : log.length ≤ k + n)
    (hp : p a = true) : (c.find? p).isSome = true :=
  find?_isSome (h.recent k a hk hrecent) hp

end RingCache
