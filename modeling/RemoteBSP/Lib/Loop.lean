import Mathlib.Data.List.Range

/-!
# Loops that may stop early

A loop `for (i = 0; i < n; ++i)` with early exits is a fold over `List.range n` in `Except`, where
an error is what an exit returns. `range_foldlM_ok` is the invariant rule for such a loop
(`foldlM_ok` for one over a list), and `range_foldlM_error` says in which state it stops. Both at
once are a judgement about how a computation ends (`Except.Ends`), with a rule for sequences
(`Ends.bind`) and one for loops (`range_foldlM_ends`); `Except.Alike` compares two computations in
the same way. A check that throws is taken off the front of a computation that returns by
`Except.guard_ok`, and any other part by `Except.bind_eq_ok_iff`.

A loop that checks the elements of a list and takes each to another one returns the image of the
list, if all of them pass (`mapM_ite_ok_iff`, `mapM_ok_iff` for any body, and `forM_ok_iff` for a
body that only checks).

A loop over the elements of a list that changes the first one that meets a condition is
`modifyFirst`. A loop over all of them is a fold, and `foldl_reaches` is the rule for what one of
the iterations brings about and the later ones keep.
-/

namespace Except

variable {ε ε' α α' β β' : Type} {P : α → Prop} {Q : ε → Prop} {R : β → Prop}

/-- A computation ends with a value that meets `P`, or with an exit that meets `Q`. -/
def Ends (P : α → Prop) (Q : ε → Prop) : Except ε α → Prop
  | .ok a => P a
  | .error e => Q e

/-- The rule for sequences. -/
theorem Ends.bind {x : Except ε α} {f : α → Except ε β} (h : x.Ends P Q)
    (hf : ∀ a, P a → (f a).Ends R Q) : (x >>= f).Ends R Q := by
  cases x with
  | ok a => exact hf a h
  | error e => exact h

/-- The rule of consequence. -/
theorem Ends.mono {P' : α → Prop} {Q' : ε → Prop} {x : Except ε α} (h : x.Ends P Q)
    (hP : ∀ a, P a → P' a) (hQ : ∀ e, Q e → Q' e) : x.Ends P' Q' := by
  cases x with
  | ok a => exact hP a h
  | error e => exact hQ e h

/-- A sequence returns if its parts do. -/
theorem bind_eq_ok_iff {x : Except ε α} {f : α → Except ε β} {b : β} :
    x >>= f = .ok b ↔ ∃ a, x = .ok a ∧ f a = .ok b := by
  cases x with
  | ok a => exact ⟨fun h => ⟨a, rfl, h⟩, fun ⟨_, ha, h⟩ => Except.ok.inj ha ▸ h⟩
  | error e => exact ⟨fun h => (by cases h), fun ⟨_, ha, _⟩ => (by cases ha)⟩

/-- A check that throws has been passed, if the computation behind it returns. -/
theorem guard_ok {p : Prop} [Decidable p] {e : ε} {f : Unit → Except ε β} {b : β}
    (h : (if p then (throw e : Except ε Unit) >>= f else f ()) = .ok b) : ¬p ∧ f () = .ok b := by
  split at h
  · cases h
  · next hp => exact ⟨hp, h⟩

/-- Two computations end alike: both with values that `r` relates, or both with exits that `s`
relates. -/
def Alike (r : α → α' → Prop) (s : ε → ε' → Prop) : Except ε α → Except ε' α' → Prop
  | .ok a, .ok a' => r a a'
  | .error e, .error e' => s e e'
  | .ok _, .error _ => False
  | .error _, .ok _ => False

/-- The rule for sequences. -/
theorem Alike.bind {r : α → α' → Prop} {r' : β → β' → Prop} {s : ε → ε' → Prop}
    {x : Except ε α} {x' : Except ε' α'} {f : α → Except ε β} {f' : α' → Except ε' β'}
    (h : x.Alike r s x') (hf : ∀ a a', r a a' → (f a).Alike r' s (f' a')) :
    (x >>= f).Alike r' s (x' >>= f') := by
  rcases x with e | a <;> rcases x' with e' | a'
  · exact h
  · exact h.elim
  · exact h.elim
  · exact hf a a' h

end Except

namespace List

variable {σ ε : Type} {f : σ → ℕ → Except ε σ}

/-- The loop with one more iteration. -/
theorem range_succ_foldlM (f : σ → ℕ → Except ε σ) (n : ℕ) (s : σ) :
    (List.range (n + 1)).foldlM f s = (List.range n).foldlM f s >>= fun s' => f s' n := by
  rw [List.range_succ, List.foldlM_append]
  simp only [List.foldlM_cons, List.foldlM_nil, bind_pure]

/-- The invariant rule: `P k` holds after `k` iterations. -/
theorem range_foldlM_ok {P : ℕ → σ → Prop} {n : ℕ}
    (hstep : ∀ k s s', k < n → P k s → f s k = .ok s' → P (k + 1) s') {s s' : σ} (hs : P 0 s)
    (h : (List.range n).foldlM f s = .ok s') : P n s' := by
  induction n generalizing s' with
  | zero => exact Except.ok.inj h ▸ hs
  | succ n ih =>
    rw [range_succ_foldlM] at h
    cases hn : (List.range n).foldlM f s with
    | error e => rw [hn] at h; cases h
    | ok t =>
      rw [hn] at h
      exact hstep n t s' (Nat.lt_succ_self n)
        (ih (fun k s s' hk => hstep k s s' (hk.trans (Nat.lt_succ_self n))) hn) h

/-- A loop that stops early does so at some iteration, up to which the invariant holds. -/
theorem range_foldlM_error {P : ℕ → σ → Prop} {n : ℕ}
    (hstep : ∀ k s s', k < n → P k s → f s k = .ok s' → P (k + 1) s') {s : σ} {e : ε} (hs : P 0 s)
    (h : (List.range n).foldlM f s = .error e) : ∃ k < n, ∃ t, P k t ∧ f t k = .error e := by
  induction n with
  | zero => cases h
  | succ n ih =>
    have hstep' : ∀ k s s', k < n → P k s → f s k = .ok s' → P (k + 1) s' :=
      fun k s s' hk => hstep k s s' (hk.trans (Nat.lt_succ_self n))
    rw [range_succ_foldlM] at h
    cases hn : (List.range n).foldlM f s with
    | error e' =>
      rw [hn] at h
      obtain rfl : e' = e := Except.error.inj h
      obtain ⟨k, hk, t, ht, hexit⟩ := ih hstep' hn
      exact ⟨k, hk.trans (Nat.lt_succ_self n), t, ht, hexit⟩
    | ok t =>
      rw [hn] at h
      exact ⟨n, Nat.lt_succ_self n, t, range_foldlM_ok hstep' hs hn, h⟩

/-- The rule for loops: `P k` holds after `k` iterations, and `Q` at an exit. -/
theorem range_foldlM_ends {P : ℕ → σ → Prop} {Q : ε → Prop} {n : ℕ}
    (hstep : ∀ k s, k < n → P k s → (f s k).Ends (P (k + 1)) Q) {s : σ} (hs : P 0 s) :
    ((List.range n).foldlM f s).Ends (P n) Q := by
  induction n with
  | zero => exact hs
  | succ n ih =>
    rw [range_succ_foldlM]
    exact (ih fun k s hk => hstep k s (hk.trans (Nat.lt_succ_self n))).bind
      fun t ht => hstep n t (Nat.lt_succ_self n) ht

/-- The invariant rule for a loop over a list. -/
theorem foldlM_ok {α : Type} {g : σ → α → Except ε σ} {P : σ → Prop} {l : List α}
    (hstep : ∀ a ∈ l, ∀ s s', P s → g s a = .ok s' → P s') {s s' : σ} (hs : P s)
    (h : l.foldlM g s = .ok s') : P s' := by
  induction l generalizing s with
  | nil => exact Except.ok.inj h ▸ hs
  | cons a l ih =>
    rw [List.foldlM_cons, Except.bind_eq_ok_iff] at h
    obtain ⟨t, hfirst, hrest⟩ := h
    exact ih (fun a' hmem => hstep a' (List.mem_cons_of_mem _ hmem))
      (hstep a List.mem_cons_self s t hs hfirst) hrest

/-- Two loops whose iterations end alike. -/
theorem foldlM_alike {α τ ε' : Type} {g : σ → α → Except ε σ} {g' : τ → α → Except ε' τ}
    {r : σ → τ → Prop} {e : ε → ε' → Prop}
    (hstep : ∀ a s t, r s t → (g s a).Alike r e (g' t a)) (l : List α) {s : σ} {t : τ}
    (h : r s t) : (l.foldlM g s).Alike r e (l.foldlM g' t) := by
  induction l generalizing s t with
  | nil => exact h
  | cons a l ih => exact (hstep a s t h).bind fun _ _ h' => ih h'

/-- A loop that only checks the elements returns if all of them pass. -/
theorem forM_ok_iff {α : Type} {f : α → Except ε Unit} {l : List α} :
    l.forM f = .ok () ↔ ∀ a ∈ l, f a = .ok () := by
  induction l with
  | nil => exact ⟨fun _ => forall_mem_nil _, fun _ => rfl⟩
  | cons a l ih =>
    rw [forall_mem_cons, ← ih, show (a :: l).forM f = (f a >>= fun _ => l.forM f) from rfl,
      Except.bind_eq_ok_iff]
    exact ⟨fun ⟨(), hfirst, hrest⟩ => ⟨hfirst, hrest⟩, fun ⟨hfirst, hrest⟩ => ⟨(), hfirst, hrest⟩⟩

/-- A loop that takes each element to another one returns if all of its iterations do. -/
theorem mapM_ok_iff {α β : Type} {g : α → Except ε β} {l : List α} {l' : List β} :
    l.mapM g = .ok l' ↔ Forall₂ (fun a b => g a = .ok b) l l' := by
  induction l generalizing l' with
  | nil =>
    rw [forall₂_nil_left_iff]
    exact ⟨fun h => (Except.ok.inj h).symm, fun h => congrArg Except.ok h.symm⟩
  | cons a l ih =>
    rw [mapM_cons, forall₂_cons_left_iff]
    constructor
    · intro h
      cases hfirst : g a with
      | error e =>
        rw [hfirst] at h
        cases h
      | ok b =>
        rw [hfirst] at h
        cases hrest : l.mapM g with
        | error e =>
          rw [hrest] at h
          cases h
        | ok rest =>
          rw [hrest] at h
          exact ⟨b, rest, rfl, ih.1 hrest, (Except.ok.inj h).symm⟩
    · rintro ⟨b, rest, hfirst, hrest, rfl⟩
      rw [hfirst, ih.2 hrest]
      rfl

/-- A loop that checks each element and throws if it is a bad one. -/
theorem mapM_ite_ok_iff {α β : Type} {bad : α → Prop} [DecidablePred bad] {e : ε} {g : α → β}
    {l : List α} {l' : List β} :
    l.mapM (fun a => if bad a then (.error e : Except ε β) else .ok (g a)) = .ok l' ↔
      (∀ a ∈ l, ¬bad a) ∧ l.map g = l' := by
  induction l generalizing l' with
  | nil => exact ⟨fun h => ⟨nofun, Except.ok.inj h⟩, fun h => congrArg Except.ok h.2⟩
  | cons a l ih =>
    rw [mapM_cons, forall_mem_cons, map_cons]
    by_cases hbad : bad a
    · rw [if_pos hbad]
      exact ⟨nofun, fun h => absurd hbad h.1.1⟩
    rw [if_neg hbad]
    cases hrest : l.mapM (fun a => if bad a then (.error e : Except ε β) else .ok (g a)) with
    | error e' =>
      refine ⟨nofun, fun h => ?_⟩
      have hok := ih.2 ⟨h.1.2, rfl⟩
      rw [hrest] at hok
      cases hok
    | ok rest =>
      obtain ⟨hgood, rfl⟩ := ih.1 hrest
      exact ⟨fun h => ⟨⟨hbad, hgood⟩, Except.ok.inj h⟩, fun h => congrArg Except.ok h.2⟩

/-- The list with `f` applied to the first element that satisfies `p`. -/
def modifyFirst {α : Type} (p : α → Bool) (f : α → α) : List α → List α
  | [] => []
  | a :: l => if p a then f a :: l else a :: modifyFirst p f l

/-- What `f` keeps, all elements keep. -/
theorem map_modifyFirst {α β : Type} {p : α → Bool} {f : α → α} {g : α → β}
    (hg : ∀ a, g (f a) = g a) (l : List α) : (l.modifyFirst p f).map g = l.map g := by
  induction l with
  | nil => rfl
  | cons a l ih =>
    unfold modifyFirst
    split
    · rw [map_cons, map_cons, hg]
    · rw [map_cons, map_cons, ih]

/-- An element behind the change was there before, or is the changed one. -/
theorem mem_modifyFirst {α : Type} {p : α → Bool} {f : α → α} {l : List α} {b : α}
    (h : b ∈ l.modifyFirst p f) : b ∈ l ∨ ∃ a ∈ l, p a = true ∧ b = f a := by
  induction l with
  | nil => exact .inl h
  | cons a l ih =>
    unfold modifyFirst at h
    split at h
    · next hp =>
      rcases mem_cons.1 h with rfl | hmem
      · exact .inr ⟨a, mem_cons_self, hp, rfl⟩
      · exact .inl (mem_cons_of_mem _ hmem)
    · rcases mem_cons.1 h with rfl | hmem
      · exact .inl mem_cons_self
      · rcases ih hmem with hmem | ⟨a', hmem, hp, heq⟩
        · exact .inl (mem_cons_of_mem _ hmem)
        · exact .inr ⟨a', mem_cons_of_mem _ hmem, hp, heq⟩

/-- If `P` and `Q` are kept by all iterations, and one of them takes `P` to `Q`, then `Q` holds
behind the loop. -/
theorem foldl_reaches {α β : Type} {f : β → α → β} {P Q : β → Prop} {l : List α}
    (hP : ∀ b, ∀ a ∈ l, P b → P (f b a)) (hQ : ∀ b, ∀ a ∈ l, Q b → Q (f b a)) {a : α}
    (ha : a ∈ l) (hreach : ∀ b, P b → Q (f b a)) {b : β} (hb : P b) : Q (l.foldl f b) := by
  induction l generalizing b with
  | nil => exact absurd ha not_mem_nil
  | cons a' l ih =>
    rw [foldl_cons]
    have hP' : ∀ b, ∀ a ∈ l, P b → P (f b a) := fun b a h => hP b a (mem_cons_of_mem _ h)
    have hQ' : ∀ b, ∀ a ∈ l, Q b → Q (f b a) := fun b a h => hQ b a (mem_cons_of_mem _ h)
    rcases mem_cons.1 ha with rfl | hmem
    · exact foldlRecOn l f (hreach b hb) fun b hb a h => hQ' b a h hb
    · exact ih hP' hQ' hmem (hP b a' mem_cons_self hb)

end List
