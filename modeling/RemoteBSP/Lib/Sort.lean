import Mathlib.Data.List.Sort

/-!
# Sorted lists

A `Sorter` is any sort that gives back the elements it is given, in order. It need not be stable:
where the order does not tell two elements apart, they may come in either order. Without such ties
nothing depends on which sort it is. The order in which the elements arrive does not matter then
(`Sorter.run_eq_of_perm`), and lists can be sorted one by one if the elements of one come before
those of the next (`Sorter.run_append`). With ties, what two sorts return still agrees in all that
the order looks at (`Sorter.map_eq_of_sorted`).

A loop over a sorted list that goes on from where it stopped before finds the elements between the
two bounds (`takeWhile_drop_countP`).
-/

/-- Elements that take the same place are the same. -/
def NoTies {α : Type} (r : α → α → Prop) (l : List α) : Prop :=
  ∀ a ∈ l, ∀ b ∈ l, r a b → r b a → a = b

/-- Fewer elements have no more ties. -/
theorem NoTies.subset {α : Type} {r : α → α → Prop} {l m : List α} (h : NoTies r m) (hsub : l ⊆ m) :
    NoTies r l := fun a ha b hb => h a (hsub ha) b (hsub hb)

/-- Two groups of elements have no ties if neither of them has, and none lies across them. -/
theorem NoTies.append {α : Type} {r : α → α → Prop} {l m : List α} (hl : NoTies r l)
    (hm : NoTies r m) (hacross : ∀ a ∈ l, ∀ b ∈ m, r b a → ¬r a b) : NoTies r (l ++ m) := by
  intro a ha b hb hab hba
  rcases List.mem_append.1 ha with ha | ha
  · rcases List.mem_append.1 hb with hb | hb
    · exact hl a ha b hb hab hba
    · exact absurd hab (hacross a ha b hb hba)
  · rcases List.mem_append.1 hb with hb | hb
    · exact absurd hba (hacross b hb a ha hab)
    · exact hm a ha b hb hab hba

/-- The same elements in the same order, except that elements with the same key may have changed
places. -/
structure UpToTies {α β : Type} (key : α → β) (l m : List α) : Prop where
  /-- The elements are the same. -/
  perm : l.Perm m
  /-- Each place is taken by an element with the same key. -/
  keys : l.map key = m.map key

namespace UpToTies

variable {α β : Type} {key : α → β} {l l' m m' n : List α}

/-- A list is itself. -/
theorem refl (l : List α) : UpToTies key l l := ⟨.refl l, rfl⟩

/-- Ties may be swapped twice. -/
theorem trans (h : UpToTies key l m) (h' : UpToTies key m n) : UpToTies key l n :=
  ⟨h.perm.trans h'.perm, h.keys.trans h'.keys⟩

/-- Lists one after another. -/
theorem append (h : UpToTies key l l') (h' : UpToTies key m m') :
    UpToTies key (l ++ m) (l' ++ m') := by
  refine ⟨h.perm.append h'.perm, ?_⟩
  rw [List.map_append, List.map_append, h.keys, h'.keys]

end UpToTies

/-- A sort: the elements that it is given, in order. Where two of them take the same place, it may
return them in either order. -/
structure Sorter {α : Type} (r : α → α → Prop) where
  /-- What the sort makes of a list. -/
  run : List α → List α
  /-- It neither loses an element nor makes one up. -/
  perm : ∀ l, (run l).Perm l
  /-- It leaves no element behind one that comes after it. -/
  sorted : ∀ l, (run l).Pairwise r

namespace Sorter

variable {α : Type} {r : α → α → Prop} {sort sort' : Sorter r} {l m : List α}

/-- The sorted elements are the elements. -/
@[simp]
theorem mem_run {a : α} : a ∈ sort.run l ↔ a ∈ l := (sort.perm l).mem_iff

/-- Without ties neither the order of arrival matters nor which sort it is. -/
theorem run_eq_of_perm (hperm : l.Perm m) (hties : NoTies r l) : sort.run l = sort'.run m := by
  have hsame : (sort.run l).Perm (sort'.run m) :=
    (sort.perm l).trans (hperm.trans (sort'.perm m).symm)
  refine hsame.eq_of_pairwise (fun a b ha hb => ?_) (sort.sorted l) (sort'.sorted m)
  exact hties a (mem_run.1 ha) b (hperm.mem_iff.2 (mem_run.1 hb))

/-- Two lists are sorted one after the other if all of the first comes before all of the second. -/
theorem run_append (h : ∀ a ∈ l, ∀ b ∈ m, r a b) (hties : NoTies r (l ++ m)) :
    sort.run (l ++ m) = sort.run l ++ sort.run m := by
  have hperm : (sort.run (l ++ m)).Perm (sort.run l ++ sort.run m) :=
    (sort.perm _).trans ((sort.perm l).append (sort.perm m)).symm
  have hsorted : (sort.run l ++ sort.run m).Pairwise r :=
    List.pairwise_append.2 ⟨sort.sorted l, sort.sorted m, fun a ha b hb =>
      h a (mem_run.1 ha) b (mem_run.1 hb)⟩
  refine hperm.eq_of_pairwise (fun a b ha hb => ?_) (sort.sorted _) hsorted
  exact hties a (mem_run.1 ha) b (mem_run.1 (hperm.mem_iff.2 hb))

/-- With ties, two sorted lists of the same elements agree in the key that the order looks at. -/
theorem map_eq_of_sorted {β : Type} [LinearOrder β] {key : α → β}
    (hkey : ∀ a b, r a b → key a ≤ key b) (hperm : l.Perm m) (hl : l.Pairwise r)
    (hm : m.Pairwise r) : l.map key = m.map key := by
  have hsorted : ∀ l : List α, l.Pairwise r → (l.map key).Pairwise (· ≤ ·) := fun l hl =>
    List.pairwise_map.2 (hl.imp fun {a b} => hkey a b)
  exact (hperm.map key).eq_of_pairwise (fun a b _ _ => le_antisymm) (hsorted l hl) (hsorted m hm)

/-- Sorted lists of the same elements are the same up to ties. -/
theorem upToTies_of_sorted {β : Type} [LinearOrder β] {key : α → β}
    (hkey : ∀ a b, r a b → key a ≤ key b) (hperm : l.Perm m) (hl : l.Pairwise r)
    (hm : m.Pairwise r) : UpToTies key l m := ⟨hperm, map_eq_of_sorted hkey hperm hl hm⟩

/-- Insertion, which is a stable sort, is one of them. -/
def insertion (r : α → α → Prop) [DecidableRel r] [Std.Total r] [IsTrans α r] : Sorter r where
  run := List.insertionSort r
  perm := List.perm_insertionSort r
  sorted := List.pairwise_insertionSort r

end Sorter

namespace List

section

variable {α β : Type} [LinearOrder β] {f : α → β} {l : List α}

/-- Between two bounds a sorted list has what a loop finds that starts behind the first bound and
stops at the second one. -/
theorem takeWhile_drop_countP (h : l.Pairwise fun a b => f a ≤ f b) (s t : β) :
    (l.drop (l.countP fun a => f a ≤ s)).takeWhile (fun a => f a ≤ t) =
      l.filter fun a => s < f a ∧ f a ≤ t := by
  induction l with
  | nil => rfl
  | cons a l ih =>
    obtain ⟨hfirst, hrest⟩ := pairwise_cons.1 h
    rcases le_or_gt (f a) s with hle | hgt
    -- The first element lies before the first bound, and is dropped.
    · rw [countP_cons_of_pos (p := fun a => decide (f a ≤ s)) (decide_eq_true hle),
        drop_succ_cons, ih hrest, filter_cons_of_neg]
      exact fun hkeep => not_lt.2 hle (of_decide_eq_true hkeep).1
    · -- All elements lie behind the first bound.
      have hnone : (a :: l).countP (fun a => f a ≤ s) = 0 := by
        rw [countP_eq_zero]
        intro b hb
        rw [decide_eq_true_eq, not_le]
        rcases mem_cons.1 hb with rfl | hb
        · exact hgt
        · exact hgt.trans_le (hfirst b hb)
      rw [hnone, drop_zero]
      rcases le_or_gt (f a) t with hle | hlt
      -- The list is kept up to the first element behind the second bound.
      · have hskip : l.countP (fun a => f a ≤ s) = 0 := by
          rw [countP_cons] at hnone
          omega
        have htail := ih hrest
        rw [hskip, drop_zero] at htail
        rw [takeWhile_cons_of_pos (p := fun a => decide (f a ≤ t)) (decide_eq_true hle), htail,
          filter_cons_of_pos (p := fun a => decide (s < f a ∧ f a ≤ t))
            (decide_eq_true ⟨hgt, hle⟩)]
      · rw [takeWhile_cons_of_neg (p := fun a => decide (f a ≤ t))
          (by rwa [decide_eq_true_eq, not_le]), eq_comm, filter_eq_nil_iff]
        intro b hb hkeep
        have hle := (of_decide_eq_true hkeep).2
        rcases mem_cons.1 hb with rfl | hb
        · exact not_lt.2 hle hlt
        · exact not_lt.2 ((hfirst b hb).trans hle) hlt

/-- Counting up to a bound that is moved. -/
theorem countP_add_length_filter {s t : β} (hst : s ≤ t) (l : List α) :
    (l.countP fun a => f a ≤ s) + (l.filter fun a => s < f a ∧ f a ≤ t).length =
      l.countP fun a => f a ≤ t := by
  induction l with
  | nil => rfl
  | cons a l ih =>
    rw [countP_cons, countP_cons, filter_cons, ← ih]
    rcases le_or_gt (f a) s with hle | hgt
    · have hkeep : ¬(s < f a ∧ f a ≤ t) := fun h => not_lt.2 hle h.1
      rw [if_pos (decide_eq_true hle), if_pos (decide_eq_true (hle.trans hst)),
        if_neg (by rwa [decide_eq_true_eq])]
      omega
    · rw [if_neg (by rwa [decide_eq_true_eq, not_le])]
      by_cases hle : f a ≤ t
      · rw [if_pos (decide_eq_true ⟨hgt, hle⟩), if_pos (decide_eq_true hle), length_cons]
        omega
      · rw [if_neg (by rw [decide_eq_true_eq]; exact fun h => hle h.2),
          if_neg (by rwa [decide_eq_true_eq])]
        rfl

/-- The elements between two bounds, with a third bound between them. -/
theorem filter_between_perm {s t u : β} (hst : s ≤ t) (htu : t ≤ u) (l : List α) :
    (l.filter fun a => s < f a ∧ f a ≤ u).Perm
      ((l.filter fun a => s < f a ∧ f a ≤ t) ++ l.filter fun a => t < f a ∧ f a ≤ u) := by
  induction l with
  | nil => exact .refl _
  | cons a l ih =>
    rw [filter_cons, filter_cons, filter_cons]
    simp only [decide_eq_true_eq]
    by_cases hs : s < f a ∧ f a ≤ u
    · rw [if_pos hs]
      rcases le_or_gt (f a) t with hle | hgt
      · rw [if_pos ⟨hs.1, hle⟩, if_neg fun h => not_lt.2 hle h.1, cons_append]
        exact ih.cons a
      · rw [if_neg fun h => not_lt.2 h.2 hgt, if_pos ⟨hgt, hs.2⟩]
        exact (ih.cons a).trans perm_middle.symm
    · rw [if_neg hs, if_neg fun h => hs ⟨h.1, h.2.trans htu⟩,
        if_neg fun h => hs ⟨hst.trans_lt h.1, h.2⟩]
      exact ih

end

end List
