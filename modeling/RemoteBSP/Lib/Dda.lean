import Mathlib.Data.Nat.Init
import Mathlib.Tactic

/-!
# Digital differential analyzers

A DDA spreads `target` pulses evenly over a `duration` without dividing: each tick adds `target`
times the time passed to a phase, and when the phase has reached the duration, the tick takes the
duration off it again and makes a pulse. At most one pulse is made in a tick.

The phase and the pulses account for the time (`Account`), which the ticks keep whatever their
distance is (`Account.tick`). If no tick is so late that it adds more than half of the duration, the
phase stays below the duration (`Account.phase_lt`), so that the number of the pulses is that of
the division (`Account.emitted_eq`), and no pulse follows another one immediately
(`not_high_tick`).
-/

namespace Dda

/-- The state of a DDA. -/
structure State where
  /-- The phase. -/
  phase : ℕ
  /-- The pulses made. -/
  emitted : ℕ
  /-- The last tick has made a pulse. -/
  high : Bool
deriving DecidableEq, Repr

/-- A tick, `delta` after the last one. -/
def tick (target duration delta : ℕ) (s : State) : State :=
  if s.emitted < target ∧ duration ≤ s.phase + target * delta then
    ⟨s.phase + target * delta - duration, s.emitted + 1, true⟩
  else ⟨s.phase + target * delta, s.emitted, false⟩

/-- The phase and the pulses made account for the time that has passed. -/
structure Account (target duration elapsed : ℕ) (s : State) : Prop where
  /-- No more pulses than are wanted. -/
  emitted_le : s.emitted ≤ target
  /-- The account. -/
  balance : s.phase + s.emitted * duration = target * elapsed

variable {target duration elapsed delta : ℕ} {s : State}

/-- In the beginning there is nothing to account for. -/
theorem account_zero (target duration : ℕ) (high : Bool) :
    Account target duration 0 ⟨0, 0, high⟩ := by
  refine ⟨Nat.zero_le _, ?_⟩
  simp

/-- The level says nothing about the account. -/
theorem Account.congr {s' : State} (h : Account target duration elapsed s)
    (hphase : s'.phase = s.phase) (hemitted : s'.emitted = s.emitted) :
    Account target duration elapsed s' := by
  obtain ⟨hle, hbalance⟩ := h
  rw [← hemitted] at hle
  rw [← hemitted, ← hphase] at hbalance
  exact ⟨hle, hbalance⟩

/-- A tick accounts for the time since the last one. -/
theorem Account.tick (h : Account target duration elapsed s) (delta : ℕ) :
    Account target duration (elapsed + delta) (tick target duration delta s) := by
  obtain ⟨hle, hbalance⟩ := h
  unfold Dda.tick
  split
  · next hdue =>
    obtain ⟨hmore, hreached⟩ := hdue
    refine ⟨hmore, ?_⟩
    calc s.phase + target * delta - duration + (s.emitted + 1) * duration
        = s.phase + target * delta - duration + duration + s.emitted * duration := by ring
      _ = s.phase + target * delta + s.emitted * duration := by rw [Nat.sub_add_cancel hreached]
      _ = s.phase + s.emitted * duration + target * delta := by ring
      _ = target * (elapsed + delta) := by rw [hbalance]; ring
  · refine ⟨hle, ?_⟩
    calc s.phase + target * delta + s.emitted * duration
        = s.phase + s.emitted * duration + target * delta := by ring
      _ = target * (elapsed + delta) := by rw [hbalance]; ring

/-- The phase is bounded by what it has been advanced in all. -/
theorem Account.phase_le (h : Account target duration elapsed s) : s.phase ≤ target * elapsed := by
  rw [← h.balance]
  exact Nat.le_add_right _ _

/-- The phase with the time of the next tick is bounded by what all the time amounts to. -/
theorem Account.phase_add_le (h : Account target duration elapsed s)
    (hwithin : elapsed + delta ≤ duration) : s.phase + target * delta ≤ target * duration := by
  have hphase := h.phase_le
  have hmul : target * (elapsed + delta) ≤ target * duration := Nat.mul_le_mul_left _ hwithin
  rw [Nat.mul_add] at hmul
  omega

/-- All pulses have been made when the time is over, unless the phase has reached the duration. -/
theorem Account.complete (h : Account target duration duration s) (hlt : s.phase < duration) :
    s.emitted = target := by
  obtain ⟨hle, hbalance⟩ := h
  have hmul : target * duration < (s.emitted + 1) * duration := by
    rw [← hbalance, Nat.add_mul, Nat.one_mul]
    omega
  have hlt' : target < s.emitted + 1 := Nat.lt_of_mul_lt_mul_right hmul
  omega

/-- With a phase below the duration the pulses made are those of the division. -/
theorem Account.emitted_eq (h : Account target duration elapsed s) (hlt : s.phase < duration) :
    s.emitted = target * elapsed / duration := by
  have hpos : 0 < duration := Nat.zero_lt_of_lt hlt
  rw [← h.balance, Nat.add_mul_div_right _ _ hpos, Nat.div_eq_of_lt hlt, Nat.zero_add]

/-- A tick that comes in time leaves the phase below the duration. -/
theorem Account.phase_lt (h : Account target duration elapsed s) (hlt : s.phase < duration)
    (hwithin : elapsed + delta ≤ duration) (htimely : 2 * (target * delta) ≤ duration) :
    (Dda.tick target duration delta s).phase < duration := by
  unfold Dda.tick
  split
  · next hdue =>
    have hreached := hdue.2
    show s.phase + target * delta - duration < duration
    omega
  · next hnot =>
    show s.phase + target * delta < duration
    by_contra hreached
    rw [not_lt] at hreached
    -- All pulses have been made, and the account does not leave room for one more.
    have hall : target ≤ s.emitted := not_lt.1 fun hmore => hnot ⟨hmore, hreached⟩
    have hbalance := (h.tick delta).balance
    unfold Dda.tick at hbalance
    rw [if_neg hnot] at hbalance
    have hmul : target * (elapsed + delta) ≤ target * duration := Nat.mul_le_mul_left _ hwithin
    have hemitted : target * duration ≤ s.emitted * duration := Nat.mul_le_mul_right _ hall
    dsimp only at hbalance
    omega

/-- A pulse leaves less in the phase than the tick has added. -/
theorem phase_lt_of_high (hlt : s.phase < duration)
    (hhigh : (tick target duration delta s).high = true) :
    (tick target duration delta s).phase < target * delta := by
  unfold tick at hhigh ⊢
  split at hhigh
  · next hdue =>
    rw [if_pos hdue]
    show s.phase + target * delta - duration < target * delta
    have hreached := hdue.2
    omega
  · cases hhigh

/-- A pulse is counted. -/
theorem emitted_of_high (hhigh : (tick target duration delta s).high = true) :
    (tick target duration delta s).emitted = s.emitted + 1 := by
  unfold tick at hhigh ⊢
  split at hhigh
  · next hdue => rw [if_pos hdue]
  · cases hhigh

/-- A tick that comes in time makes no pulse, if the phase is below half of the duration, as it is
behind a tick in time that has made one. -/
theorem not_high_tick (hrests : 2 * s.phase < duration)
    (htimely : 2 * (target * delta) ≤ duration) : (tick target duration delta s).high = false := by
  unfold tick
  rw [if_neg]
  rintro ⟨-, hreached⟩
  omega

end Dda
