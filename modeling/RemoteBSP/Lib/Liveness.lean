import RemoteBSP.Lib.Machine

/-!
# Infinite runs

The states of a machine that never stops, one after each operation of a sequence. An invariant holds
in all of them (`stateAt_induction`). Something happens in the end if it is led to (`LeadsTo`): by
an operation that helps and that comes again and again (`LeadsTo.of_helpful`), or by making a rank
smaller (`LeadsTo.of_rank`).
-/

namespace Machine

variable {σ ι ο : Type} (M : Machine σ ι ο)

/-- The state before the `n`-th operation of a sequence. -/
def stateAt (s : σ) (ops : ℕ → ι) : ℕ → σ
  | 0 => s
  | n + 1 => (M.step (stateAt s ops n) (ops n)).1

/-- What each operation that meets the condition `C` keeps, holds in every state of a sequence of
such operations. -/
theorem stateAt_induction {C : σ → ι → Prop} {P : σ → Prop}
    (hstep : ∀ s i, P s → C s i → P (M.step s i).1) {s : σ} (hs : P s) {ops : ℕ → ι}
    (hC : ∀ n, C (M.stateAt s ops n) (ops n)) (n : ℕ) : P (M.stateAt s ops n) := by
  induction n with
  | zero => exact hs
  | succ n ih => exact hstep _ _ ih (hC n)

end Machine

variable {σ : Type}

/-- Whenever `P` holds, `Q` holds then or later. -/
def LeadsTo (states : ℕ → σ) (P Q : σ → Prop) : Prop :=
  ∀ n, P (states n) → ∃ m ≥ n, Q (states m)

namespace LeadsTo

variable {states : ℕ → σ} {P Q R : σ → Prop}

/-- One thing leads to another. -/
theorem trans (h : LeadsTo states P Q) (h' : LeadsTo states Q R) : LeadsTo states P R := by
  intro n hP
  obtain ⟨m, hnm, hQ⟩ := h n hP
  obtain ⟨k, hmk, hR⟩ := h' m hQ
  exact ⟨k, Nat.le_trans hnm hmk, hR⟩

/-- What holds already is led to. -/
theorem of_imp (h : ∀ s, P s → Q s) : LeadsTo states P Q := fun n hP => ⟨n, Nat.le_refl n, h _ hP⟩

/-- What two things lead to. -/
theorem or (h : LeadsTo states P R) (h' : LeadsTo states Q R) :
    LeadsTo states (fun s => P s ∨ Q s) R :=
  fun n hPQ => hPQ.elim (h n) (h' n)

/-- `P` stays until `Q` holds, and an operation after which `Q` holds comes again and again. -/
theorem of_helpful (hstays : ∀ n, P (states n) → P (states (n + 1)) ∨ Q (states (n + 1)))
    {helpful : ℕ → Prop} (hfair : ∀ n, ∃ m ≥ n, helpful m)
    (heffect : ∀ m, helpful m → P (states m) → Q (states (m + 1))) : LeadsTo states P Q := by
  intro n hP
  obtain ⟨m, hnm, hhelpful⟩ := hfair n
  obtain ⟨d, rfl⟩ := Nat.exists_eq_add_of_le hnm
  -- Either `Q` holds on the way, or `P` still holds when the operation comes.
  have hway : (∃ k ≥ n, Q (states k)) ∨ P (states (n + d)) := by
    clear hhelpful hnm
    induction d with
    | zero => exact .inr hP
    | succ d ih =>
      rcases ih with hQ | hP
      · exact .inl hQ
      · rcases hstays (n + d) hP with hP | hQ
        · exact .inr hP
        · exact .inl ⟨n + d + 1, by omega, hQ⟩
  rcases hway with hQ | hP
  · exact hQ
  · exact ⟨n + d + 1, by omega, heffect (n + d) hhelpful hP⟩

/-- `P` leads to `Q`, or to `P` with a smaller rank. -/
theorem of_rank (rank : σ → ℕ)
    (h : ∀ k, LeadsTo states (fun s => P s ∧ rank s = k) fun s => Q s ∨ P s ∧ rank s < k) :
    LeadsTo states P Q := by
  intro n hP
  generalize hk : rank (states n) = k
  induction k using Nat.strongRecOn generalizing n with
  | _ k ih =>
    obtain ⟨m, hnm, hQ | ⟨hP, hlt⟩⟩ := h k n ⟨hP, hk⟩
    · exact ⟨m, hnm, hQ⟩
    · obtain ⟨l, hml, hQ⟩ := ih _ hlt m hP rfl
      exact ⟨l, Nat.le_trans hnm hml, hQ⟩

end LeadsTo
