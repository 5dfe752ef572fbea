import RemoteBSP.Lib.Machine

/-!
# Latches

A part of a machine's state is latched if, once it has a value of a certain kind, the operations
leave it as it is until one of them releases it. This is a statement about runs; it holds of a run
exactly if each of its operations keeps the latch (`latched_iff_along`).
-/

namespace Machine

variable {σ ι ο ρ : Type} (M : Machine σ ι ο) (report : σ → ρ) (held : ρ → Prop)
  (releases : σ → ι → Prop)

/-- In a run what is held is reported unchanged, as long as no operation releases it. -/
def Latched (s : σ) (is : List ι) : Prop :=
  ∀ before after : List ι, before ++ after <+: is → held (report (M.run s before)) →
    M.Along (fun s i => ¬releases s i) (M.run s before) after →
      report (M.run s (before ++ after)) = report (M.run s before)

/-- One operation leaves what is held, unless it releases it. -/
def KeepsLatch (s : σ) (i : ι) : Prop :=
  held (report s) → ¬releases s i → report (M.step s i).1 = report s

/-- A condition holds along a run if it holds of each of its operations. -/
theorem along_iff_forall_prefix {C : σ → ι → Prop} {s : σ} {is : List ι} :
    M.Along C s is ↔ ∀ before i, before ++ [i] <+: is → C (M.run s before) i := by
  constructor
  · intro h before i hle
    have hprefix := M.along_append.1 (Along.of_prefix M h hle)
    exact hprefix.2.1
  · induction is generalizing s with
    | nil => exact fun _ => trivial
    | cons i is ih =>
      intro h
      have hfirst : C s i := h [] i (List.prefix_iff_eq_append.2 rfl)
      refine ⟨hfirst, ih fun before j hle => ?_⟩
      exact h (i :: before) j ((List.cons_prefix_cons).2 ⟨rfl, hle⟩)

variable {M report held releases}

/-- What every operation of a run leaves alone, the run leaves alone. -/
theorem report_run_of_keepsLatch {s : σ} {is : List ι} (hheld : held (report s))
    (hkeeps : M.Along (M.KeepsLatch report held releases) s is)
    (hclosed : M.Along (fun s i => ¬releases s i) s is) : report (M.run s is) = report s := by
  induction is generalizing s with
  | nil => rfl
  | cons i is ih =>
    have hstep : report (M.step s i).1 = report s := hkeeps.1 hheld hclosed.1
    have hrest := ih (s := (M.step s i).1) (hstep ▸ hheld) hkeeps.2 hclosed.2
    exact hrest.trans hstep

/-- A run is latched exactly if each of its operations keeps the latch. -/
theorem latched_iff_along {s : σ} {is : List ι} :
    M.Latched report held releases s is ↔ M.Along (M.KeepsLatch report held releases) s is := by
  constructor
  · intro h
    refine (M.along_iff_forall_prefix).2 fun before i hle hheld hopen => ?_
    have hone := h before [i] hle hheld ⟨hopen, trivial⟩
    rwa [run_concat] at hone
  · intro h before after hle hheld hclosed
    have hkeeps := (M.along_append.1 (Along.of_prefix M h hle)).2
    rw [run_append]
    exact report_run_of_keepsLatch hheld hkeeps hclosed

end Machine
