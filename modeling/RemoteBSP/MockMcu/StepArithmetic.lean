import RemoteBSP.MockMcu.Waveform

/-!
# The arithmetic of the mock executor on step counts

`rate_allows` and `interpolate_offset` of `mock_mcu/src/motion_executor.cpp` take a product of two
words and divide it. Both of them divide first and put the quotient and the remainder together
again, so that no product and no sum of theirs leaves 64 bits: `RateExact` and `InterpolationExact`
list these products and sums. What they compute is the quotient of the numbers
(`step_arithmetic_exact`).
-/

namespace RemoteBSP.MockMcu

/-! ## Rates -/

/-- The products and the sum of `rate_allows`, which it computes unless the duration is so long that
the answer is clear. -/
def RateExact (stepCount durationNs : UInt64) (maximumStepRateHz : UInt32) : Prop :=
  ¬durationNs / 1000000000 > stepCount / maximumStepRateHz.toUInt64 →
    durationNs.toNat / 1000000000 * maximumStepRateHz.toNat < 2^64 ∧
      durationNs.toNat % 1000000000 * maximumStepRateHz.toNat < 2^64 ∧
      durationNs.toNat / 1000000000 * maximumStepRateHz.toNat +
        durationNs.toNat % 1000000000 * maximumStepRateHz.toNat / 1000000000 < 2^64

variable {stepCount durationNs : UInt64} {maximumStepRateHz : UInt32}

/-- The comparison by which `rate_allows` leaves early. -/
theorem wholeSeconds_gt_iff : durationNs / 1000000000 > stepCount / maximumStepRateHz.toUInt64 ↔
    stepCount.toNat / maximumStepRateHz.toNat < durationNs.toNat / 1000000000 := by
  rw [gt_iff_lt, UInt64.lt_iff_toNat_lt, UInt64.toNat_div, UInt64.toNat_div,
    UInt32.toNat_toUInt64]
  rfl

/-- The computations of `rate_allows` do not overflow. -/
theorem rateExact (hcount : stepCount.toNat ≤ 2^31) :
    RateExact stepCount durationNs maximumStepRateHz := by
  intro hshort
  rw [wholeSeconds_gt_iff, not_lt] at hshort
  have hrate := maximumStepRateHz.toNat_lt
  generalize maximumStepRateHz.toNat = rate at *
  -- The whole seconds allow no more steps than there are.
  have hwhole : durationNs.toNat / 1000000000 * rate ≤ 2^31 := by
    calc durationNs.toNat / 1000000000 * rate ≤ stepCount.toNat / rate * rate :=
          Nat.mul_le_mul_right rate hshort
      _ ≤ stepCount.toNat := Nat.div_mul_le_self _ _
      _ ≤ 2^31 := hcount
  have hpart : durationNs.toNat % 1000000000 * rate ≤ 1000000000 * 2^32 :=
    Nat.mul_le_mul (Nat.mod_lt _ (by norm_num)).le hrate.le
  refine ⟨?_, ?_, ?_⟩ <;> omega

/-- What is allowed in whole seconds and in the rest. -/
theorem duration_mul_div (duration rate : ℕ) : duration * rate / 1000000000 =
    duration / 1000000000 * rate + duration % 1000000000 * rate / 1000000000 := by
  have hsplit : duration * rate =
      duration % 1000000000 * rate + duration / 1000000000 * rate * 1000000000 := by
    calc duration * rate
        = (1000000000 * (duration / 1000000000) + duration % 1000000000) * rate := by
          rw [Nat.div_add_mod]
      _ = duration % 1000000000 * rate + duration / 1000000000 * rate * 1000000000 := by ring
  rw [hsplit, Nat.add_mul_div_right _ _ (by norm_num), Nat.add_comm]

/-- `rate_allows` compares the step rate with its maximum. -/
theorem rateAllows_iff (hcount : stepCount.toNat ≤ 2^31) (hrate : 1 ≤ maximumStepRateHz.toNat) :
    rateAllows stepCount durationNs maximumStepRateHz = true ↔
      stepCount.toNat * 10^9 ≤ durationNs.toNat * maximumStepRateHz.toNat := by
  have hexact : RateExact stepCount durationNs maximumStepRateHz := rateExact hcount
  have hdivides : stepCount.toNat * 10^9 ≤ durationNs.toNat * maximumStepRateHz.toNat ↔
      stepCount.toNat ≤ durationNs.toNat * maximumStepRateHz.toNat / 1000000000 :=
    (Nat.le_div_iff_mul_le (by norm_num)).symm
  unfold rateAllows
  dsimp only
  split_ifs with hlong
  · -- The whole seconds alone allow more steps.
    rw [wholeSeconds_gt_iff, Nat.div_lt_iff_lt_mul hrate] at hlong
    refine iff_of_true rfl ?_
    rw [hdivides, duration_mul_div]
    omega
  · obtain ⟨hwhole, hpart, hsum⟩ := hexact hlong
    rw [hdivides, duration_mul_div, decide_eq_true_iff, UInt64.le_iff_toNat_le, UInt64.toNat_add,
      UInt64.toNat_mul, UInt64.toNat_div, UInt64.toNat_div, UInt64.toNat_mul, UInt64.toNat_mod,
      UInt32.toNat_toUInt64]
    simp only [UInt64.reduceToNat]
    rw [Nat.mod_eq_of_lt hwhole, Nat.mod_eq_of_lt hpart, Nat.mod_eq_of_lt hsum]

/-! ## Interpolation -/

/-- The products and the sum of `interpolate_offset`. -/
def InterpolationExact (span index denominator : UInt64) : Prop :=
  span.toNat / denominator.toNat * index.toNat < 2^64 ∧
    span.toNat % denominator.toNat * index.toNat < 2^64 ∧
    span.toNat / denominator.toNat * index.toNat +
      span.toNat % denominator.toNat * index.toNat / denominator.toNat < 2^64

variable {span index index' denominator : UInt64}

/-- The computations of `interpolate_offset` do not overflow. -/
theorem interpolationExact (hpos : 1 ≤ denominator.toNat) (hsmall : denominator.toNat ≤ 2^31)
    (hindex : index.toNat ≤ denominator.toNat) : InterpolationExact span index denominator := by
  have hspan := span.toNat_lt
  unfold InterpolationExact
  generalize span.toNat = s at *
  generalize index.toNat = i at *
  generalize denominator.toNat = d at *
  have hmod : s % d < d := Nat.mod_lt s hpos
  have hpart : s % d * i ≤ s % d * d := Nat.mul_le_mul_left _ hindex
  have hrest : s % d * i / d ≤ s % d := Nat.div_le_of_le_mul (hpart.trans_eq (Nat.mul_comm _ _))
  have hwhole : s / d * i ≤ s / d * d := Nat.mul_le_mul_left _ hindex
  have hproduct : s % d * i ≤ 2^31 * 2^31 :=
    Nat.mul_le_mul (hmod.le.trans hsmall) (hindex.trans hsmall)
  have hsum : s / d * d + s % d = s := Nat.div_add_mod' s d
  refine ⟨?_, ?_, ?_⟩ <;> omega

/-- What is interpolated does not exceed the span. -/
theorem interpolateOffset_le (hsmall : denominator.toNat ≤ 2^31)
    (hindex : index.toNat ≤ denominator.toNat) :
    (interpolateOffset span index denominator).toNat ≤ span.toNat := by
  rw [toNat_interpolateOffset hindex hsmall]
  exact Nat.div_le_of_le_mul
    ((Nat.mul_le_mul_left _ hindex).trans_eq (Nat.mul_comm _ _))

/-- What is interpolated grows with the index. -/
theorem interpolateOffset_mono (hsmall : denominator.toNat ≤ 2^31)
    (hindex : index.toNat ≤ denominator.toNat) (hle : index'.toNat ≤ index.toNat) :
    (interpolateOffset span index' denominator).toNat ≤
      (interpolateOffset span index denominator).toNat := by
  rw [toNat_interpolateOffset hindex hsmall, toNat_interpolateOffset (hle.trans hindex) hsmall]
  exact Nat.div_le_div_right (Nat.mul_le_mul_left _ hle)

/-- The rates and the interpolation are exact: `rate_allows` and `interpolate_offset` compute what
they would compute on unbounded numbers, for all step counts that `absolute_steps` returns, and
nothing on the way leaves 64 bits. -/
theorem step_arithmetic_exact :
    (∀ steps : ℤ, -2^31 ≤ steps → steps < 2^31 →
      (absoluteSteps steps).toNat = steps.natAbs ∧ (absoluteSteps steps).toNat ≤ 2^31) ∧
    (∀ (stepCount durationNs : UInt64) (maximumStepRateHz : UInt32), stepCount.toNat ≤ 2^31 →
      1 ≤ maximumStepRateHz.toNat →
      (rateAllows stepCount durationNs maximumStepRateHz = true ↔
          stepCount.toNat * 10^9 ≤ durationNs.toNat * maximumStepRateHz.toNat) ∧
        RateExact stepCount durationNs maximumStepRateHz) ∧
    ∀ span index denominator : UInt64, 1 ≤ denominator.toNat → denominator.toNat ≤ 2^31 →
      index.toNat ≤ denominator.toNat →
      (interpolateOffset span index denominator).toNat =
          span.toNat * index.toNat / denominator.toNat ∧
        (interpolateOffset span index denominator).toNat ≤ span.toNat ∧
        (∀ index', index'.toNat ≤ index.toNat →
          (interpolateOffset span index' denominator).toNat ≤
            (interpolateOffset span index denominator).toNat) ∧
        InterpolationExact span index denominator := by
  refine ⟨fun steps hlow hhigh => ?_, ?_, ?_⟩
  · have hlt : steps.natAbs < 2^64 := by omega
    rw [absoluteSteps, UInt64.toNat_ofNat_of_lt' hlt]
    exact ⟨rfl, by omega⟩
  · intro stepCount durationNs maximumStepRateHz hcount hrate
    exact ⟨rateAllows_iff hcount hrate, rateExact hcount⟩
  · intro span index denominator hpos hsmall hindex
    exact ⟨toNat_interpolateOffset hindex hsmall, interpolateOffset_le hsmall hindex,
      fun _ => interpolateOffset_mono hsmall hindex, interpolationExact hpos hsmall hindex⟩

/-- The most steps in one direction, at the lowest rate that allows them within `2^32 - 1`
nanoseconds, and the middle of the longest span. -/
theorem step_arithmetic_exact_at_extremes :
    (absoluteSteps (-2^31)).toNat = 2^31 ∧
      (rateAllows 0x80000000 0xFFFFFFFF 500000001 = true ↔ 2^31 * 10^9 ≤ 0xFFFFFFFF * 500000001) ∧
      (interpolateOffset 0xFFFFFFFFFFFFFFFF 0x40000000 0x80000000).toNat =
        0xFFFFFFFFFFFFFFFF * 0x40000000 / 0x80000000 :=
  ⟨(step_arithmetic_exact.1 (-2^31) (by norm_num) (by norm_num)).1,
    (step_arithmetic_exact.2.1 0x80000000 0xFFFFFFFF 500000001 (by decide) (by decide)).1,
    (step_arithmetic_exact.2.2 0xFFFFFFFFFFFFFFFF 0x40000000 0x80000000 (by decide) (by decide)
      (by decide)).1⟩

end RemoteBSP.MockMcu
