import Mathlib.Order.Basic
import Mathlib.Data.List.Basic

/-!
# Deterministic machines and their runs

A `Machine` takes a state and an operation to the next state and an outcome. This module has the
rules that the runs of any such machine obey: an invariant that each operation keeps holds after
every run (`run_induction`), also when only operations that meet a condition occur
(`run_induction_of`), and a machine on which the operations of one party cannot be told apart by
whether the other parties' operations took place isolates that party (`outcomesOf_eq_filter`).
-/

/-- A deterministic machine with states `σ`, operations `ι` and outcomes `ο`. -/
structure Machine (σ ι ο : Type) where
  /-- One operation: the next state and the outcome. -/
  step : σ → ι → σ × ο

namespace Machine

variable {σ ι ο : Type} (M : Machine σ ι ο)

/-- The state after the operations of a list. -/
def run (s : σ) : List ι → σ
  | [] => s
  | i :: is => run (M.step s i).1 is

/-- The outcomes of the operations of a list, in order. -/
def outcomes (s : σ) : List ι → List ο
  | [] => []
  | i :: is => (M.step s i).2 :: outcomes (M.step s i).1 is

/-- The outcomes of those operations that satisfy `mine`; the others are executed all the same. -/
def outcomesOf (mine : ι → Bool) (s : σ) : List ι → List ο
  | [] => []
  | i :: is =>
    if mine i then (M.step s i).2 :: outcomesOf mine (M.step s i).1 is
    else outcomesOf mine (M.step s i).1 is

/-- A run in two parts. -/
theorem run_append (s : σ) (is js : List ι) : M.run s (is ++ js) = M.run (M.run s is) js := by
  induction is generalizing s with
  | nil => rfl
  | cons i is ih => exact ih _

/-- The outcomes of a run in two parts. -/
theorem outcomes_append (s : σ) (is js : List ι) :
    M.outcomes s (is ++ js) = M.outcomes s is ++ M.outcomes (M.run s is) js := by
  induction is generalizing s with
  | nil => rfl
  | cons i is ih => simp only [List.cons_append, outcomes, run, ih]

/-- A run that ends with one more operation. -/
theorem run_concat (s : σ) (is : List ι) (i : ι) :
    M.run s (is ++ [i]) = (M.step (M.run s is) i).1 := by
  rw [run_append]; rfl

/-- Each operation of a list meets the condition `C` in the state in which it takes place. -/
def Along (C : σ → ι → Prop) (s : σ) : List ι → Prop
  | [] => True
  | i :: is => C s i ∧ Along C (M.step s i).1 is

/-- A decidable condition can be checked along a list of operations. -/
instance decidableAlong (C : σ → ι → Prop) [∀ s i, Decidable (C s i)] (s : σ) :
    (is : List ι) → Decidable (M.Along C s is)
  | [] => inferInstanceAs (Decidable True)
  | i :: is =>
    have := decidableAlong C (M.step s i).1 is
    inferInstanceAs (Decidable (C s i ∧ M.Along C (M.step s i).1 is))

/-- A condition along a run in two parts. -/
theorem along_append {C : σ → ι → Prop} {s : σ} {is js : List ι} :
    M.Along C s (is ++ js) ↔ M.Along C s is ∧ M.Along C (M.run s is) js := by
  induction is generalizing s with
  | nil => simp only [List.nil_append, Along, run, true_and]
  | cons i is ih => simp only [List.cons_append, Along, run, ih, and_assoc]

/-- A condition along a run holds along its beginning. -/
theorem Along.of_prefix {C : σ → ι → Prop} {s : σ} {is js : List ι} (h : M.Along C s js)
    (hle : is <+: js) : M.Along C s is := by
  obtain ⟨rest, rfl⟩ := hle
  exact (M.along_append.1 h).1

/-- What each operation that meets the condition `C` keeps, a run of such operations keeps. -/
theorem run_induction_of {C : σ → ι → Prop} {P : σ → Prop}
    (hstep : ∀ s i, P s → C s i → P (M.step s i).1) {s : σ} (hs : P s) {is : List ι}
    (hC : M.Along C s is) : P (M.run s is) := by
  induction is generalizing s with
  | nil => exact hs
  | cons i is ih => exact ih (hstep s i hs hC.1) hC.2

/-- Every operation meets a condition that always holds. -/
theorem along_of_forall {C : σ → ι → Prop} (h : ∀ s i, C s i) (s : σ) (is : List ι) :
    M.Along C s is := by
  induction is generalizing s with
  | nil => trivial
  | cons i is ih => exact ⟨h s i, ih _⟩

/-- Conditions that are the same in all states that an invariant admits are the same along a run. -/
theorem along_congr {C D : σ → ι → Prop} {P : σ → Prop} (hstep : ∀ s i, P s → P (M.step s i).1)
    (hCD : ∀ s i, P s → (C s i ↔ D s i)) {s : σ} (hs : P s) (is : List ι) :
    M.Along C s is ↔ M.Along D s is := by
  induction is generalizing s with
  | nil => exact Iff.rfl
  | cons i is ih => exact and_congr (hCD s i hs) (ih (hstep s i hs))

/-- Conditions that are the same in all states that an invariant admits are the same along a run, if
the operations that meet them keep the invariant. -/
theorem along_congr_of {C D : σ → ι → Prop} {P : σ → Prop}
    (hstep : ∀ s i, P s → D s i → P (M.step s i).1) (hCD : ∀ s i, P s → (C s i ↔ D s i)) {s : σ}
    (hs : P s) (is : List ι) : M.Along C s is ↔ M.Along D s is := by
  induction is generalizing s with
  | nil => exact Iff.rfl
  | cons i is ih =>
    unfold Along
    rw [hCD s i hs]
    exact and_congr_right fun hD => ih (hstep s i hs hD)

/-- What each operation keeps, every run keeps. -/
theorem run_induction {P : σ → Prop} (hstep : ∀ s i, P s → P (M.step s i).1) {s : σ} (hs : P s)
    (is : List ι) : P (M.run s is) :=
  M.run_induction_of (C := fun _ _ => True) (fun s i h _ => hstep s i h) hs
    (M.along_of_forall (fun _ _ => trivial) s is)

/-- What each operation that meets the condition `C` answers, such a run answers throughout. -/
theorem outcomes_induction_of {C : σ → ι → Prop} {P : σ → Prop} {Q : ο → Prop}
    (hstep : ∀ s i, P s → C s i → P (M.step s i).1 ∧ Q (M.step s i).2) {s : σ} (hs : P s)
    {is : List ι} (hC : M.Along C s is) : ∀ o ∈ M.outcomes s is, Q o := by
  induction is generalizing s with
  | nil => exact fun o ho => absurd ho List.not_mem_nil
  | cons i is ih =>
    obtain ⟨hnext, hout⟩ := hstep s i hs hC.1
    intro o ho
    rcases List.mem_cons.1 ho with rfl | hrest
    · exact hout
    · exact ih hnext hC.2 o hrest

/-- Two machines whose states stay related, and that answer the same in related states, cannot be
told apart. -/
theorem outcomes_eq_of_related {τ : Type} {N : Machine τ ι ο} {R : σ → τ → Prop}
    (hstep : ∀ s t i, R s t → R (M.step s i).1 (N.step t i).1 ∧ (M.step s i).2 = (N.step t i).2)
    {s : σ} {t : τ} (h : R s t) (is : List ι) :
    R (M.run s is) (N.run t is) ∧ M.outcomes s is = N.outcomes t is := by
  induction is generalizing s t with
  | nil => exact ⟨h, rfl⟩
  | cons i is ih =>
    obtain ⟨hnext, hresult⟩ := hstep s t i h
    obtain ⟨hrun, hresults⟩ := ih hnext
    exact ⟨hrun, by rw [outcomes, outcomes, hresult, hresults]⟩

/-- What relates the outcomes so far to the state, if each operation that meets the condition `C`
keeps it. -/
theorem history_induction_of {C : σ → ι → Prop} {P : List ο → σ → Prop}
    (hstep : ∀ os s i, P os s → C s i → P (os ++ [(M.step s i).2]) (M.step s i).1) {os : List ο}
    {s : σ} (hs : P os s) {is : List ι} (hC : M.Along C s is) :
    P (os ++ M.outcomes s is) (M.run s is) := by
  induction is generalizing os s with
  | nil =>
    rw [outcomes, List.append_nil]
    exact hs
  | cons i is ih =>
    have h := ih (hstep os s i hs hC.1) hC.2
    rw [List.append_assoc] at h
    exact h

/-- Isolation. `R τ` relates the state of the whole run to the state of the run of `mine` alone, as
long as no operation is earlier than `τ`. If it answers `mine` alike on both sides and the other
operations keep it, `mine` gets the outcomes that it gets alone. -/
theorem outcomesOf_eq_filter {τ : Type} [Preorder τ] (clock : ι → τ) (mine : ι → Bool)
    (R : τ → σ → σ → Prop)
    (hmine : ∀ a s t i, R a s t → a ≤ clock i → mine i = true →
      (M.step s i).2 = (M.step t i).2 ∧ R (clock i) (M.step s i).1 (M.step t i).1)
    (hother : ∀ a s t i, R a s t → a ≤ clock i → mine i = false → R (clock i) (M.step s i).1 t)
    {a : τ} {s t : σ} (hR : R a s t) {is : List ι} (hfirst : ∀ i ∈ is, a ≤ clock i)
    (hsorted : is.Pairwise fun i j => clock i ≤ clock j) :
    M.outcomesOf mine s is = M.outcomes t (is.filter mine) := by
  induction is generalizing a s t with
  | nil => rfl
  | cons i is ih =>
    have hle : a ≤ clock i := hfirst i List.mem_cons_self
    rw [List.pairwise_cons] at hsorted
    cases hm : mine i with
    | true =>
      obtain ⟨hout, hnext⟩ := hmine a s t i hR hle hm
      rw [List.filter_cons_of_pos hm]
      simp only [outcomesOf, outcomes, hm, if_true]
      rw [hout, ih hnext hsorted.1 hsorted.2]
    | false =>
      have hnext := hother a s t i hR hle hm
      rw [List.filter_cons_of_neg (by simp [hm])]
      simp only [outcomesOf, hm, Bool.false_eq_true, if_false]
      exact ih hnext hsorted.1 hsorted.2

end Machine
