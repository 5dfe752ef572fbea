import RemoteBSP.Firmware.MotionDda

/-!
# The 64-bit arithmetic of the motion queue

Which of the computations of `firmware/src/motion.c` on 64-bit words wrap around. The checks of
`rbsp_motion_enqueue` bound the times and the steps of a segment (`MotionSegment.Admitted`), and
over ticks whose times do not decrease the phase of an axis is an account of the time that has
passed (`Accounted`), so that neither the phase nor what a tick adds to it wraps.

The one computation that can wrap is the bound from which on a segment is overdue,
`duration_ns + 10^9 / CONFIG_MOTION_TIMER_HZ`. The time that a segment has to be announced in
advance leaves room for the period of the timer if it is at least as long as the period, and no
other configuration does (`arithmetic_exact_iff`).
-/

namespace RemoteBSP.Firmware

variable {config : MotionConfig}

/-! ## Words -/

/-- The number of steps that `maximum_steps_for_duration` allows, in whole seconds and the rest. -/
def stepsWithin (config : MotionConfig) (durationNs : ℕ) : ℕ :=
  durationNs / 1000000000 * (config.timerHz.toNat / 2) +
    durationNs % 1000000000 * config.timerHz.toNat / 2000000000

/-- The period of the timer in nanoseconds, rounded down. -/
def timerPeriod (config : MotionConfig) : ℕ := 1000000000 / config.timerHz.toNat

/-- The time that a segment has to be announced in advance. -/
def leadNs (config : MotionConfig) : ℕ := config.minLeadTimeUs.toNat * 1000

/-- The rates of the timer, as numbers. -/
theorem timerHz_bounds (config : MotionConfig) :
    1000 ≤ config.timerHz.toNat ∧ config.timerHz.toNat ≤ 500000 :=
  ⟨UInt64.le_iff_toNat_le.1 config.timerHz_range.1,
    UInt64.le_iff_toNat_le.1 config.timerHz_range.2⟩

/-- The time to announce a segment in is short. -/
theorem leadNs_le (config : MotionConfig) : leadNs config ≤ 1000000000 := by
  have hle : config.minLeadTimeUs.toNat ≤ 1000000 :=
    UInt64.le_iff_toNat_le.1 config.minLeadTimeUs_le
  unfold leadNs
  omega

/-- The period of the timer is short. -/
theorem timerPeriod_le (config : MotionConfig) : timerPeriod config ≤ 1000000 :=
  Nat.div_le_div_left (timerHz_bounds config).1 (by norm_num)

/-- The period of the timer, as the code computes it. -/
theorem toNat_timerPeriod (config : MotionConfig) :
    (1000000000 / config.timerHz).toNat = timerPeriod config := by
  rw [UInt64.toNat_div]
  rfl

/-- No computation of `maximum_steps_for_duration` wraps. -/
theorem toNat_maximumStepsForDuration (config : MotionConfig) (durationNs : UInt64) :
    (maximumStepsForDuration config durationNs).toNat = stepsWithin config durationNs.toNat := by
  obtain ⟨hlow, hhigh⟩ := timerHz_bounds config
  have hduration := durationNs.toNat_lt
  have hmax : (0xFFFFFFFFFFFFFFFF : UInt64).toNat = 2^64 - 1 := rfl
  have hseconds : (durationNs / 1000000000).toNat = durationNs.toNat / 1000000000 :=
    UInt64.toNat_div _ _
  have hrate : (config.timerHz / 2).toNat = config.timerHz.toNat / 2 := UInt64.toNat_div _ _
  have hrest : (durationNs % 1000000000).toNat = durationNs.toNat % 1000000000 :=
    UInt64.toNat_mod _ _
  -- The whole seconds.
  have hwhole : durationNs.toNat / 1000000000 * (config.timerHz.toNat / 2) ≤
      18446744074 * 250000 := Nat.mul_le_mul (by omega) (by omega)
  have hwhole' : (durationNs / 1000000000 * (config.timerHz / 2)).toNat =
      durationNs.toNat / 1000000000 * (config.timerHz.toNat / 2) := by
    rw [UInt64.toNat_mul, hseconds, hrate, Nat.mod_eq_of_lt (by omega)]
  -- The rest.
  have hproduct : durationNs.toNat % 1000000000 * config.timerHz.toNat ≤ 1000000000 * 500000 :=
    Nat.mul_le_mul (Nat.mod_lt _ (by norm_num)).le hhigh
  have hfraction : (durationNs % 1000000000 * config.timerHz / 2000000000).toNat =
      durationNs.toNat % 1000000000 * config.timerHz.toNat / 2000000000 := by
    rw [UInt64.toNat_div, UInt64.toNat_mul, hrest, Nat.mod_eq_of_lt (by omega)]
    rfl
  have hfraction_le : durationNs.toNat % 1000000000 * config.timerHz.toNat / 2000000000 ≤
      250000 := by omega
  -- Neither guard is taken.
  have hguard : ¬durationNs / 1000000000 > 0xFFFFFFFFFFFFFFFF / (config.timerHz / 2) := by
    rw [gt_iff_lt, UInt64.lt_iff_toNat_lt, UInt64.toNat_div _ (config.timerHz / 2), hseconds, hrate,
      hmax, not_lt, Nat.le_div_iff_mul_le (by omega)]
    omega
  have hguard' : ¬0xFFFFFFFFFFFFFFFF - durationNs / 1000000000 * (config.timerHz / 2) <
      durationNs % 1000000000 * config.timerHz / 2000000000 := by
    rw [UInt64.lt_iff_toNat_lt, UInt64.toNat_sub_of_le _ _ (by
      rw [UInt64.le_iff_toNat_le, hmax, hwhole']; omega), hmax, hwhole', hfraction]
    omega
  unfold maximumStepsForDuration stepsWithin
  dsimp only
  rw [if_neg hguard, if_neg hguard', UInt64.toNat_add, hwhole', hfraction,
    Nat.mod_eq_of_lt (by omega)]

/-- At most every other period of the timer there is a step. -/
theorem stepsWithin_rate (config : MotionConfig) (durationNs : ℕ) :
    2000000000 * stepsWithin config durationNs ≤ durationNs * config.timerHz.toNat := by
  unfold stepsWithin
  have hrest := Nat.div_mul_le_self (durationNs % 1000000000 * config.timerHz.toNat) 2000000000
  have hhalf : 2 * (config.timerHz.toNat / 2) ≤ config.timerHz.toNat := Nat.mul_div_le _ _
  calc 2000000000 * (durationNs / 1000000000 * (config.timerHz.toNat / 2) +
        durationNs % 1000000000 * config.timerHz.toNat / 2000000000)
      = 1000000000 * (durationNs / 1000000000) * (2 * (config.timerHz.toNat / 2)) +
        durationNs % 1000000000 * config.timerHz.toNat / 2000000000 * 2000000000 := by ring
    _ ≤ 1000000000 * (durationNs / 1000000000) * config.timerHz.toNat +
        durationNs % 1000000000 * config.timerHz.toNat :=
      Nat.add_le_add (Nat.mul_le_mul_left _ hhalf) hrest
    _ = (1000000000 * (durationNs / 1000000000) + durationNs % 1000000000) *
        config.timerHz.toNat := by ring
    _ = durationNs * config.timerHz.toNat := by rw [Nat.div_add_mod]

/-- The time to announce a segment in, as the code computes it. -/
theorem toNat_leadNs (config : MotionConfig) :
    (config.minLeadTimeUs * 1000).toNat = leadNs config := by
  have hle := leadNs_le config
  unfold leadNs at hle ⊢
  rw [UInt64.toNat_mul, Nat.mod_eq_of_lt]
  · rfl
  · show config.minLeadTimeUs.toNat * 1000 < 2^64
    omega

/-- No segment starts before it could be announced. -/
theorem le_minimumStartTime (config : MotionConfig) (nowNs : UInt64) :
    leadNs config ≤ (minimumStartTime config nowNs).toNat := by
  have hle := leadNs_le config
  unfold minimumStartTime
  dsimp only
  split
  · show leadNs config ≤ 2^64 - 1
    omega
  · next hroom =>
    have hsum := MotionQueue.add_lt_of_not_lt hroom
    rw [UInt64.toNat_add, Nat.mod_eq_of_lt hsum, toNat_leadNs]
    exact Nat.le_add_left _ _

/-! ## Segments -/

/-- What the checks of `rbsp_motion_enqueue` say about a segment that they admit. -/
structure MotionSegment.Admitted (config : MotionConfig) (n : ℕ) (segment : MotionSegment) :
    Prop where
  /-- The segment takes some time. -/
  duration_pos : 0 < segment.durationNs.toNat
  /-- The end of the segment is a time of the clock. -/
  end_lt : segment.startTimeNs.toNat + segment.durationNs.toNat < 2^64
  /-- The whole phase of an axis does not wrap. -/
  phase_lt : ∀ axis < n,
    (absoluteSteps (segment.steps axis)).toNat * segment.durationNs.toNat < 2^64
  /-- The steps are not too many for the timer. -/
  rate : ∀ axis < n, 2000000000 * (absoluteSteps (segment.steps axis)).toNat ≤
    segment.durationNs.toNat * config.timerHz.toNat
  /-- The start of the segment leaves the lead time from the beginning of the clock. -/
  lead : leadNs config ≤ segment.startTimeNs.toNat

/-- What the check of the steps of an axis says. -/
theorem stepsPossible_spec {requested : MotionSegment} {axis : ℕ}
    (h : MotionQueue.stepsPossible config requested axis = true) :
    (absoluteSteps (requested.steps axis)).toNat ≤ stepsWithin config requested.durationNs.toNat ∧
      (absoluteSteps (requested.steps axis)).toNat * requested.durationNs.toNat < 2^64 := by
  have hmax : (0xFFFFFFFFFFFFFFFF : UInt64).toNat = 2^64 - 1 := rfl
  unfold MotionQueue.stepsPossible at h
  dsimp only at h
  rw [Bool.not_eq_true', Bool.or_eq_false_iff, decide_eq_false_iff_not, gt_iff_lt, UInt64.not_lt,
    UInt64.le_iff_toNat_le, toNat_maximumStepsForDuration, Bool.and_eq_false_iff,
    decide_eq_false_iff_not, gt_iff_lt, UInt64.not_lt, UInt64.le_iff_toNat_le, UInt64.toNat_div,
    hmax] at h
  refine ⟨h.1, ?_⟩
  rcases h.2 with hzero | hle
  · rw [bne_eq_false_iff_eq] at hzero
    rw [hzero, UInt64.toNat_zero, Nat.zero_mul]
    norm_num
  · rcases Nat.eq_zero_or_pos (absoluteSteps (requested.steps axis)).toNat with hzero | hpos
    · rw [hzero, Nat.zero_mul]
      norm_num
    · rw [Nat.le_div_iff_mul_le hpos, Nat.mul_comm] at hle
      omega

/-- A segment that is accepted is admitted. -/
theorem MotionQueue.Accepted.admitted {q : MotionQueue} {requested : MotionSegment}
    {nowNs startTimeNs : UInt64} (h : q.Accepted config requested nowNs startTimeNs) :
    MotionSegment.Admitted config q.axisCount.toNat
      { requested with startTimeNs := startTimeNs } where
  duration_pos := Nat.pos_of_ne_zero fun hzero => h.durationNs (UInt64.toNat_inj.1 hzero)
  end_lt := h.end_lt
  phase_lt axis haxis := (stepsPossible_spec (h.steps axis haxis)).2
  rate axis haxis := by
    have hsteps := (stepsPossible_spec (h.steps axis haxis)).1
    have hrate := stepsWithin_rate config requested.durationNs.toNat
    exact (Nat.mul_le_mul_left _ hsteps).trans hrate
  lead := (le_minimumStartTime config nowNs).trans (UInt64.le_iff_toNat_le.1 h.lead)

namespace Executor

open MotionQueue

variable {segment : MotionSegment}

/-- The part of the duration of a segment that has passed, as a number. -/
def within (segment : MotionSegment) (time : ℕ) : ℕ :=
  min (time - segment.startTimeNs.toNat) segment.durationNs.toNat

/-- No more than the duration of a segment passes of it. -/
theorem within_le (segment : MotionSegment) (time : ℕ) :
    within segment time ≤ segment.durationNs.toNat := Nat.min_le_right _ _

/-- More passes as time goes by. -/
theorem within_mono (segment : MotionSegment) {time time' : ℕ} (h : time ≤ time') :
    within segment time ≤ within segment time' := by
  unfold within
  omega

/-- Nothing of a segment that starts has passed. -/
theorem within_start (segment : MotionSegment) :
    within segment segment.startTimeNs.toNat = 0 := by
  unfold within
  omega

/-- The time since the start of a segment does not wrap. -/
theorem toNat_elapsed (segment : MotionSegment) (nowNs : UInt64) :
    (elapsed segment nowNs).toNat = nowNs.toNat - segment.startTimeNs.toNat := by
  unfold elapsed
  split
  · next hearly =>
    rw [UInt64.le_iff_toNat_le] at hearly
    rw [UInt64.toNat_zero]
    omega
  · next hlate =>
    rw [UInt64.not_le] at hlate
    rw [UInt64.toNat_sub_of_le _ _ (UInt64.le_of_lt hlate)]

/-- The part of the duration that has passed does not wrap. -/
theorem toNat_boundedElapsed (segment : MotionSegment) (nowNs : UInt64) :
    (boundedElapsed segment nowNs).toNat = within segment nowNs.toNat := by
  have helapsed := toNat_elapsed segment nowNs
  unfold boundedElapsed within
  split
  · next hlt =>
    rw [UInt64.lt_iff_toNat_lt, helapsed] at hlt
    rw [helapsed, Nat.min_eq_left hlt.le]
  · next hge =>
    rw [UInt64.not_lt, UInt64.le_iff_toNat_le, helapsed] at hge
    rw [Nat.min_eq_right hge]

/-- The time up to which a tick advances the phases. -/
theorem toNat_tickTime
    (hend : segment.startTimeNs.toNat + segment.durationNs.toNat < 2^64) (nowNs : UInt64) :
    (segment.startTimeNs + boundedElapsed segment nowNs).toNat =
      segment.startTimeNs.toNat + within segment nowNs.toNat := by
  have hle := within_le segment nowNs.toNat
  rw [UInt64.toNat_add, toNat_boundedElapsed, Nat.mod_eq_of_lt (by omega)]

/-- The time by which a tick advances the phases. -/
theorem toNat_deltaNs
    (hend : segment.startTimeNs.toNat + segment.durationNs.toNat < 2^64)
    (lastTickNs nowNs : UInt64) :
    (deltaNs segment lastTickNs nowNs).toNat =
      segment.startTimeNs.toNat + within segment nowNs.toNat - lastTickNs.toNat := by
  have htime := toNat_tickTime hend nowNs
  unfold deltaNs
  dsimp only
  split
  · next hlater =>
    rw [UInt64.toNat_sub_of_le _ _ (UInt64.le_of_lt hlater), htime]
  · next hearly =>
    rw [gt_iff_lt, UInt64.not_lt, UInt64.le_iff_toNat_le, htime] at hearly
    rw [UInt64.toNat_zero]
    omega

/-! ## One tick -/

/-- The computations of the loop over the axes do not wrap, and no axis takes the branch for a phase
that overflows. -/
structure LoopExact (segment : MotionSegment) (q : MotionQueue) (nowNs : UInt64) : Prop where
  /-- The time up to which the phases are advanced. -/
  tickTime : segment.startTimeNs.toNat + (boundedElapsed segment nowNs).toNat < 2^64
  /-- What is added to the phase of an axis. -/
  increment : ∀ axis < q.axisCount.toNat, (absoluteSteps (segment.steps axis)).toNat *
    (deltaNs segment q.activeLastTickNs nowNs).toNat < 2^64
  /-- The phase of an axis, advanced, does not wrap. -/
  phase : ∀ axis < q.axisCount.toNat, (q.activePhase axis).toNat +
    (absoluteSteps (segment.steps axis)).toNat *
      (deltaNs segment q.activeLastTickNs nowNs).toNat < 2^64
  /-- No axis takes the branch for a phase that overflows. -/
  fits : ∀ axis < q.axisCount.toNat,
    ¬Overflows segment (deltaNs segment q.activeLastTickNs nowNs) q axis

/-- The phases of the first `n` axes account for what has passed of a segment. -/
structure Accounted (segment : MotionSegment) (n time : ℕ) (q : MotionQueue) : Prop where
  /-- The last tick was as long after the start as has passed of the segment. -/
  last : q.activeLastTickNs.toNat = segment.startTimeNs.toNat + within segment time
  /-- The phase and the steps of an axis account for what has passed of the segment. -/
  account : ∀ axis < n, Dda.Account (absoluteSteps (segment.steps axis)).toNat
    segment.durationNs.toNat (within segment time) (q.dda axis)

/-- The DDA is what the loop reads. -/
theorem dda_congr {q q' : MotionQueue} {axis : ℕ} (h : q'.readings axis = q.readings axis) :
    q'.dda axis = q.dda axis := by
  unfold readings at h
  simp only [Prod.mk.injEq] at h
  unfold dda
  rw [h.1, h.2.1, h.2.2]

/-- The account is about what the loop reads. -/
theorem Accounted.of_readsAs {W : Type} {q : MotionQueue} {e : Executor W} {n time : ℕ}
    (h : Accounted segment n time q) (hreads : ReadsAs q e) : Accounted segment n time e.queue := by
  refine ⟨?_, fun axis haxis => ?_⟩
  · rw [hreads.last]
    exact h.last
  · rw [dda_congr (hreads.readings axis)]
    exact h.account axis haxis

/-- A segment that starts is accounted for. -/
theorem accounted_opening {q : MotionQueue} (harmed : q.state = .armed) (n : ℕ) :
    Accounted segment n segment.startTimeNs.toNat (q.opening segment) := by
  unfold MotionQueue.opening
  rw [if_pos harmed]
  refine ⟨?_, fun axis _ => ?_⟩
  · rw [within_start]
    rfl
  · rw [within_start]
    exact (Dda.account_zero _ _ (q.stepHigh axis)).congr rfl rfl

variable {q : MotionQueue} {n time : ℕ} {nowNs : UInt64}

/-- What a tick adds to the phases is the time since the last one. -/
theorem Accounted.delta (h : Accounted segment n time q)
    (hend : segment.startTimeNs.toNat + segment.durationNs.toNat < 2^64)
    (htime : time ≤ nowNs.toNat) :
    within segment time + (deltaNs segment q.activeLastTickNs nowNs).toNat =
      within segment nowNs.toNat := by
  have hmono := within_mono segment htime
  rw [toNat_deltaNs hend, h.last]
  omega

/-- The loop over the axes does not wrap. -/
theorem Accounted.loopExact (h : Accounted segment n time q) (hn : q.axisCount.toNat = n)
    (hadmitted : segment.Admitted config n) (htime : time ≤ nowNs.toNat) :
    LoopExact segment q nowNs := by
  have hdelta := h.delta hadmitted.end_lt htime
  have hle := within_le segment nowNs.toNat
  have hphase : ∀ axis < q.axisCount.toNat, (q.activePhase axis).toNat +
      (absoluteSteps (segment.steps axis)).toNat *
        (deltaNs segment q.activeLastTickNs nowNs).toNat < 2^64 := by
    intro axis haxis
    rw [hn] at haxis
    exact ((h.account axis haxis).phase_add_le (hdelta.le.trans hle)).trans_lt
      (hadmitted.phase_lt axis haxis)
  have hincrement : ∀ axis < q.axisCount.toNat, (absoluteSteps (segment.steps axis)).toNat *
      (deltaNs segment q.activeLastTickNs nowNs).toNat < 2^64 := fun axis haxis =>
    (Nat.le_add_left _ _).trans_lt (hphase axis haxis)
  refine ⟨?_, hincrement, hphase, fun axis haxis hover => ?_⟩
  · rw [toNat_boundedElapsed]
    exact (Nat.add_le_add_left hle _).trans_lt hadmitted.end_lt
  · -- The guard compares with the room above the phase.
    have hmax : (0xFFFFFFFFFFFFFFFF : UInt64).toNat = 2^64 - 1 := rfl
    have hlt := hover.2.2
    have hroom := (q.activePhase axis).toNat_lt
    rw [UInt64.lt_iff_toNat_lt, UInt64.toNat_mul, Nat.mod_eq_of_lt (hincrement axis haxis),
      UInt64.toNat_sub_of_le _ _ (by rw [UInt64.le_iff_toNat_le, hmax]; omega), hmax] at hlt
    have hsum := hphase axis haxis
    omega

/-- The axes are DDAs, which the loop ticks. -/
theorem Accounted.dda_looped (h : Accounted segment n time q) (hn : q.axisCount.toNat = n)
    (hadmitted : segment.Admitted config n) (htime : time ≤ nowNs.toNat) {axis : ℕ}
    (haxis : axis < n) :
    (looped segment (deltaNs segment q.activeLastTickNs nowNs)
      (ticked segment nowNs q) n).dda axis =
      Dda.tick (absoluteSteps (segment.steps axis)).toNat segment.durationNs.toNat
        (deltaNs segment q.activeLastTickNs nowNs).toNat (q.dda axis) := by
  have hexact := h.loopExact hn hadmitted htime
  have haxis' : axis < q.axisCount.toNat := hn ▸ haxis
  have hreadings := readings_looped segment (deltaNs segment q.activeLastTickNs nowNs)
    (ticked segment nowNs q) n axis
  rw [if_pos haxis] at hreadings
  have hsame : (ticked segment nowNs q).readings axis = q.readings axis := rfl
  have hpulsed : (pulsed segment (deltaNs segment q.activeLastTickNs nowNs)
      (ticked segment nowNs q) axis).readings axis =
        (pulsed segment (deltaNs segment q.activeLastTickNs nowNs) q axis).readings axis := by
    rw [readings_pulsed, readings_pulsed, hsame]
    rfl
  rw [dda_congr (hreadings.trans hpulsed),
    dda_pulsed (hexact.fits axis haxis') (hexact.increment axis haxis')]

/-- The loop over the axes brings the account up to date. -/
theorem Accounted.looped (h : Accounted segment n time q) (hn : q.axisCount.toNat = n)
    (hadmitted : segment.Admitted config n) (htime : time ≤ nowNs.toNat) :
    Accounted segment n nowNs.toNat
      (looped segment (deltaNs segment q.activeLastTickNs nowNs) (ticked segment nowNs q) n) := by
  refine ⟨?_, fun axis haxis => ?_⟩
  · rw [looped_last]
    exact toNat_tickTime hadmitted.end_lt nowNs
  · rw [h.dda_looped hn hadmitted htime haxis, ← h.delta hadmitted.end_lt htime]
    exact (h.account axis haxis).tick _

variable {W : Type} {io : MotionIo W} {e opened : Executor W}

/-- A tick comes to the loop over the axes, for the segment at the front and with the executor
behind the start of the segment. -/
structure Reaches (io : MotionIo W) (e : Executor W) (nowNs : UInt64) (segment : MotionSegment)
    (opened : Executor W) : Prop where
  /-- No fault is latched. -/
  fault : e.queue.fault = .none
  /-- The limits let the tick pass, and the segment starts or is running. -/
  passed : ∃ checked,
    (List.range e.queue.axisCount.toNat).foldlM (checkLimit io) e = .ok checked ∧
      checked.queue.front = some segment ∧
      ¬(checked.queue.state = .armed ∧ nowNs < segment.startTimeNs) ∧
      openSegment io segment checked = .ok opened

/-- The front segment is accounted for while it is running. -/
def Active (n time : ℕ) (q : MotionQueue) : Prop :=
  q.fault = .none → 0 < q.size → q.state = .running → Accounted (q.segments q.head) n time q

/-- The segments in the buffer are admitted and meet `P`, and the one that is running is accounted
for up to the last tick. -/
structure Metered (config : MotionConfig) (P : MotionSegment → Prop) (n time : ℕ)
    (q : MotionQueue) : Prop where
  /-- The ring is in order. -/
  order : q.RingOrder config
  /-- The number of the axes, and the rest of what is safe. -/
  safe : q.Safe n
  /-- The segments in the ring have been admitted and meet the condition. -/
  admitted : ∀ segment ∈ q.queued config, segment.Admitted config n ∧ P segment
  /-- The segment that is running is accounted for. -/
  active : Active n time q

variable {P : MotionSegment → Prop}

/-- The segment at the front is in the buffer. -/
theorem Metered.front (h : Metered config P n time q) (hsize : 0 < q.size) :
    (q.segments q.head).Admitted config n ∧ P (q.segments q.head) := by
  refine h.admitted _ (List.mem_map.2 ⟨0, List.mem_range.2 hsize, ?_⟩)
  rw [Nat.add_zero, Nat.mod_eq_of_lt h.order.head_lt]

/-- What the loop over the axes finds. -/
structure Loops (config : MotionConfig) (P : MotionSegment → Prop) (n now : ℕ) (q : MotionQueue)
    (segment : MotionSegment) (opened : Executor W) : Prop where
  /-- The ring is not empty. -/
  size : 0 < q.size
  /-- The segment is the one at the front. -/
  front : q.segments q.head = segment
  /-- The segment at the front has been admitted. -/
  admitted : segment.Admitted config n
  /-- The segment at the front meets the condition. -/
  meets : P segment
  /-- The start of the segment has left the ring alone. -/
  ring : opened.queue.ring = q.ring
  /-- There are as many axes as before. -/
  axisCount : opened.queue.axisCount.toNat = n
  /-- The segment is accounted for up to some time that is not over. -/
  accounted : ∃ time ≤ now, Accounted segment n time opened.queue

/-- A tick that comes to the loop over the axes finds an account. -/
theorem Metered.reaches (h : Metered config P n time e.queue) (htime : time ≤ nowNs.toNat)
    (hreaches : Reaches io e nowNs segment opened) :
    Loops config P n nowNs.toNat e.queue segment opened := by
  obtain ⟨hfault, checked, hchecked, hfront, hdue, hopen⟩ := hreaches
  have hqueue : checked.queue = e.queue := checkLimits_queue hchecked
  rw [hqueue] at hfront hdue
  obtain ⟨hsize, rfl⟩ := MotionQueue.front_eq_some hfront
  obtain ⟨hadmitted, hP⟩ := h.front hsize
  have hring := openSegment_ring io (e.queue.segments e.queue.head) checked
  have hreads := openSegment_readsAs io (e.queue.segments e.queue.head) checked
  rw [hopen] at hring hreads
  change opened.queue.ring = checked.queue.ring at hring
  change ReadsAs (checked.queue.opening (e.queue.segments e.queue.head)) opened at hreads
  rw [hqueue] at hring hreads
  have haxes : (e.queue.opening (e.queue.segments e.queue.head)).axisCount.toNat = n := by
    unfold MotionQueue.opening
    split <;> exact h.safe.axisCount
  refine ⟨hsize, rfl, hadmitted, hP, hring, by rw [hreads.axisCount, haxes], ?_⟩
  rcases h.order.nonempty hsize with harmed | hrunning
  · -- The segment starts now.
    refine ⟨(e.queue.segments e.queue.head).startTimeNs.toNat, ?_,
      (accounted_opening harmed n).of_readsAs hreads⟩
    exact UInt64.le_iff_toNat_le.1 (UInt64.not_lt.1 fun hearly => hdue ⟨harmed, hearly⟩)
  · -- The segment has been running since an earlier tick.
    have hsame : e.queue.opening (e.queue.segments e.queue.head) = e.queue := by
      unfold MotionQueue.opening
      rw [if_neg (by rw [hrunning]; exact nofun)]
    rw [hsame] at hreads
    exact ⟨time, htime, (h.active hfault hsize hrunning).of_readsAs hreads⟩

/-- A queue whose front segment has been completed is not running. -/
theorem completeFront_state (hsize : 0 < q.size) (hfault : q.fault = .none) :
    (q.completeFront config).2.state ≠ .running := by
  have hopen : ¬(q.size = 0 ∨ q.fault ≠ .none) := by
    rintro (hzero | hne)
    · exact hsize.ne' hzero
    · exact hne hfault
  unfold MotionQueue.completeFront
  rw [if_neg hopen]
  dsimp only
  split
  · exact nofun
  · split
    · exact nofun
    · exact nofun

/-- The end of a tick keeps the account, if the segment goes on. -/
theorem finishTick_active {emitted : Executor W} (hsize : 0 < q.size) (hfault : q.fault = .none)
    (hring : emitted.queue.ring = q.ring)
    (haccounted : Accounted (q.segments q.head) n nowNs.toNat emitted.queue) (allEmitted : Bool) :
    Active n nowNs.toNat
      (finishTick config io (q.segments q.head) emitted allEmitted nowNs).2.queue := by
  have hsizes : emitted.queue.size = q.size := size_of_ring hring
  have hfaults : emitted.queue.fault = q.fault := fault_of_ring hring
  have hstate : (emitted.queue.completeFront config).2.state ≠ .running :=
    completeFront_state (hsizes ▸ hsize) (hfaults.trans hfault)
  unfold finishTick
  dsimp only
  split
  · -- The segment is completed.
    generalize emitted.queue.completeFront config = done at hstate
    obtain ⟨result, completed⟩ := done
    dsimp only at hstate
    have hidle : ∀ e' : Executor W, e'.queue.state = completed.state →
        Active n nowNs.toNat e'.queue :=
      fun e' hsame _ _ hrunning => absurd (hsame.symm.trans hrunning) hstate
    cases result with
    | false => exact hidle (emitted.withQueue completed) rfl
    | true =>
      dsimp only
      split
      · exact hidle _ (stopOutputs_agrees _).state
      · exact hidle (emitted.withQueue completed) rfl
  · split
    · -- The segment is overdue.
      intro hnone
      rw [(stopOutputs_agrees _).fault] at hnone
      cases hnone
    -- The segment goes on in the ring that it has been in.
    · intro _ _ _
      have hhead : emitted.queue.segments emitted.queue.head = q.segments q.head := by
        rw [show emitted.queue.segments = q.segments from
          (congrArg segments hring : emitted.queue.ring.segments = q.ring.segments),
          show emitted.queue.head = q.head from
          (congrArg head hring : emitted.queue.ring.head = q.ring.head)]
      rw [hhead]
      exact haccounted

/-- The part of a tick behind the check of the fault keeps the account, or it names a fault. -/
theorem runTick_active (h : Metered config P n time e.queue) (hfault : e.queue.fault = .none)
    (htime : time ≤ nowNs.toNat) :
    (runTick config io e nowNs).Ends (fun result => Active n nowNs.toNat result.2.queue)
      fun exit => exit.1.fault ≠ .none := by
  unfold runTick
  cases hcheck : (List.range e.queue.axisCount.toNat).foldlM (checkLimit io) e with
  | error exit =>
    have hframes : e.Frames ((List.range e.queue.axisCount.toNat).foldlM (checkLimit io) e) :=
      .loop checkLimit_frames e _
    rw [hcheck] at hframes
    exact hframes.2
  | ok checked =>
    have hqueue : checked.queue = e.queue := checkLimits_queue hcheck
    dsimp only [bind, Except.bind]
    cases hfront : checked.queue.front with
    | none =>
      -- Without segments nothing is running.
      intro _ hpos
      change 0 < (stopOutputs io checked).queue.size at hpos
      rw [(stopOutputs_agrees checked).size] at hpos
      unfold MotionQueue.front at hfront
      rw [if_neg hpos.ne'] at hfront
      cases hfront
    | some segment =>
      dsimp only
      by_cases hearly : checked.queue.state = .armed ∧ nowNs < segment.startTimeNs
      -- A segment that waits for its start is not running.
      · rw [if_pos hearly]
        intro _ _ hrunning
        rw [hearly.1] at hrunning
        cases hrunning
      · rw [if_neg hearly]
        cases hopen : openSegment io segment checked with
        | error exit =>
          have hexit := openSegment_readsAs io segment checked
          rw [hopen] at hexit
          show exit.1.fault ≠ .none
          rw [hexit.2]
          exact nofun
        | ok opened =>
          -- The loop over the axes keeps the account up to the time of the tick.
          have hloops := h.reaches htime ⟨hfault, checked, hcheck, hfront, hearly, hopen⟩
          obtain ⟨time', htime', haccounted⟩ := hloops.accounted
          have hemits := emitSteps_ends io segment opened nowNs rfl hloops.axisCount
          have hframes : (emitSteps io segment opened nowNs).Ends _ _ :=
            emitSteps_frames segment opened nowNs
          dsimp only
          cases hemit : emitSteps io segment opened nowNs with
          | error exit =>
            rw [hemit] at hframes
            exact hframes.2
          | ok r =>
            rw [hemit] at hemits hframes
            obtain rfl := hloops.front
            refine finishTick_active hloops.size hfault (hframes.1.trans hloops.ring) ?_ r.2
            rw [hemits.1]
            exact haccounted.looped hloops.axisCount hloops.admitted htime'

/-- A tick keeps the account of the segment that is running. -/
theorem tick_active (h : Metered config P n time e.queue) (htime : time ≤ nowNs.toNat) :
    Active n nowNs.toNat (tick config io e nowNs).2.queue := by
  unfold tick
  by_cases hfault : e.queue.fault = .none
  · rw [if_neg (not_not.2 hfault)]
    have hrun : (runTick config io e nowNs).Ends _ _ := runTick_active h hfault htime
    cases hresult : runTick config io e nowNs with
    | ok result =>
      rw [hresult] at hrun
      exact hrun
    | error exit =>
      rw [hresult] at hrun
      intro hnone
      rw [(stopOutputs_agrees _).fault] at hnone
      unfold withQueue MotionQueue.abort at hnone
      rw [if_neg hrun] at hnone
      exact absurd hnone hrun
  · rw [if_pos hfault]
    intro hnone
    rw [(stopOutputs_agrees e).fault] at hnone
    exact absurd hnone hfault

end Executor

/-! ## Runs -/

section

variable {W : Type}

/-- The times of the ticks of a run. -/
def tickTimes : List (MotionOp W) → List UInt64
  | [] => []
  | .tick nowNs :: ops => nowNs :: tickTimes ops
  | _ :: ops => tickTimes ops

/-- The computations of a call do not wrap, apart from the bound from which on a segment is
overdue. -/
def Exact (config : MotionConfig) (io : MotionIo W) (e : Executor W) : MotionOp W → Prop
  | .enqueue requested nowNs =>
    (maximumStepsForDuration config requested.durationNs).toNat =
        stepsWithin config requested.durationNs.toNat ∧
      ∀ segment ∈ e.accepted config (.enqueue requested nowNs),
        segment.startTimeNs.toNat + segment.durationNs.toNat < 2^64
  | .tick nowNs => ∀ segment opened, Executor.Reaches io e nowNs segment opened →
    Executor.LoopExact segment opened.queue nowNs
  | .abort _ | .clearFault _ | .completeFront | .environment _ => True

/-- The bound from which on a segment is overdue does not wrap, if a tick computes it. -/
def BoundExact (config : MotionConfig) (io : MotionIo W) (e : Executor W) : MotionOp W → Prop
  | .tick nowNs => ∀ segment opened, Executor.Reaches io e nowNs segment opened →
    ∀ r, Executor.emitSteps io segment opened nowNs = .ok r →
      ¬(Executor.elapsed segment nowNs ≥ segment.durationNs ∧ r.2) →
        segment.durationNs.toNat + timerPeriod config < 2^64
  | .enqueue _ _ | .abort _ | .clearFault _ | .completeFront | .environment _ => True

/-- There is room above the end of a segment for the period of the timer. -/
def Roomy (config : MotionConfig) (segment : MotionSegment) : Prop :=
  segment.durationNs.toNat + timerPeriod config < 2^64

/-- Whether a duration leaves room for a period of the timer is computed. -/
instance (config : MotionConfig) (segment : MotionSegment) : Decidable (Roomy config segment) :=
  inferInstanceAs (Decidable (_ < _))

variable {io : MotionIo W} {e : Executor W} {P : MotionSegment → Prop} {n time : ℕ}

/-- The time of the last tick behind a call. -/
def timeBehind (time : ℕ) : MotionOp W → ℕ
  | .tick nowNs => nowNs.toNat
  | .enqueue _ _ | .abort _ | .clearFault _ | .completeFront | .environment _ => time

/-- Behind `rbsp_motion_init` nothing is left to account for. -/
theorem metered_init {axisCount : UInt8} {queue : MotionQueue}
    (h : MotionQueue.init config axisCount = some queue) (P : MotionSegment → Prop) (time : ℕ) :
    Executor.Metered config P axisCount.toNat time queue := by
  have hempty : queue.size = 0 := by
    unfold MotionQueue.init at h
    split at h
    · cases h
    · obtain rfl := Option.some.inj h
      rfl
  refine ⟨MotionQueue.ringOrder_init h, MotionQueue.safe_init h, fun segment hmem => ?_,
    fun _ hpos => absurd hempty hpos.ne'⟩
  rw [MotionQueue.queued_of_size_eq_zero hempty] at hmem
  cases hmem

/-- A segment that a call accepts is admitted. -/
theorem admitted_of_accepted (hn : e.queue.axisCount.toNat = n) {op : MotionOp W}
    {segment : MotionSegment} (h : segment ∈ e.accepted config op) : segment.Admitted config n := by
  cases op with
  | enqueue requested nowNs =>
    unfold Executor.accepted MotionQueue.enqueue at h
    dsimp only at h
    cases hvalidate : e.queue.validate config requested nowNs with
    | error rejection =>
      rw [hvalidate] at h
      cases h
    | ok startTimeNs =>
      rw [hvalidate] at h
      obtain rfl := List.mem_singleton.1 h
      exact hn ▸ (MotionQueue.validate_spec hvalidate).admitted
  | tick | abort | clearFault | completeFront | environment => cases h

/-- A call that is no tick keeps the account. -/
theorem active_step (h : Executor.Metered config P n time e.queue) {op : MotionOp W}
    (hno : ∀ nowNs, op ≠ .tick nowNs) :
    Executor.Active n time ((motionOutputs config io).step e op).1.queue := by
  cases op with
  | enqueue requested nowNs =>
    show Executor.Active n time (e.queue.enqueue config requested nowNs).2.2
    cases hvalidate : e.queue.validate config requested nowNs with
    | error rejection =>
      obtain ⟨-, rejected, hsame⟩ := MotionQueue.enqueue_error hvalidate
      rw [hsame]
      intro hfault hsize hrunning
      obtain ⟨hlast, haccount⟩ := h.active hfault hsize hrunning
      exact ⟨hlast, haccount⟩
    | ok startTimeNs =>
      -- The queue is armed again.
      unfold MotionQueue.enqueue
      rw [hvalidate]
      exact fun _ _ hrunning => MotionState.noConfusion hrunning
  | tick nowNs => exact absurd rfl (hno nowNs)
  | abort fault =>
    show Executor.Active n time (e.queue.abort fault)
    unfold MotionQueue.abort
    split
    · exact h.active
    · next hnamed => exact fun hnone => absurd hnone hnamed
  | clearFault nowNs =>
    show Executor.Active n time (e.queue.clearFault nowNs).2
    unfold MotionQueue.clearFault
    split
    · exact h.active
    · next hempty => exact fun _ hpos => absurd (not_not.1 hempty) (Nat.ne_of_gt hpos)
  | completeFront =>
    show Executor.Active n time (e.queue.completeFront config).2
    by_cases hidle : e.queue.size = 0 ∨ e.queue.fault ≠ .none
    · unfold MotionQueue.completeFront
      rw [if_pos hidle]
      exact h.active
    · obtain ⟨hsize, hfault⟩ := not_or.1 hidle
      exact fun _ _ hrunning => absurd hrunning
        (Executor.completeFront_state (Nat.pos_of_ne_zero hsize) (not_not.1 hfault))
  | environment world => exact h.active

/-- A call keeps the account, if the segments that it accepts meet the condition. -/
theorem metered_step (h : Executor.Metered config P n time e.queue) {op : MotionOp W}
    (htime : time ≤ timeBehind time op) (haccepted : ∀ segment ∈ e.accepted config op, P segment) :
    Executor.Metered config P n (timeBehind time op)
      ((motionOutputs config io).step e op).1.queue := by
  have hlogged : Executor.RingLogged config e.queue (e.queue.queued config) [] :=
    ⟨h.order, List.Sublist.refl _⟩
  have hnext : Executor.RingLogged config ((motionLog config io).step e op).1.queue _ _ :=
    hlogged.step op
  refine ⟨hnext.order, motionOutputs_safe h.safe op, fun segment hmem => ?_, ?_⟩
  · -- A segment in the buffer was there before, or it has been accepted.
    have hmem' := hnext.sublist.subset (List.mem_append_right _ hmem)
    rcases List.mem_append.1 hmem' with hold | hnew
    · exact h.admitted segment hold
    · exact ⟨admitted_of_accepted h.safe.axisCount hnew, haccepted segment hnew⟩
  · by_cases htick : ∃ nowNs, op = .tick nowNs
    · obtain ⟨nowNs, rfl⟩ := htick
      exact Executor.tick_active h htime
    · have hsame : timeBehind time op = time := by
        cases op with
        | tick nowNs => exact absurd ⟨nowNs, rfl⟩ htick
        | enqueue | abort | clearFault | completeFront | environment => rfl
      rw [hsame]
      exact active_step h fun nowNs heq => htick ⟨nowNs, heq⟩

/-- No computation of a call wraps while the account is kept. -/
theorem exact_step (h : Executor.Metered config P n time e.queue) {op : MotionOp W}
    (htime : time ≤ timeBehind time op) : Exact config io e op := by
  cases op with
  | enqueue requested nowNs =>
    exact ⟨toNat_maximumStepsForDuration config requested.durationNs,
      fun segment hmem => (admitted_of_accepted h.safe.axisCount hmem).end_lt⟩
  | tick nowNs =>
    intro segment opened hreaches
    have hloops := h.reaches htime hreaches
    obtain ⟨time', htime', haccounted⟩ := hloops.accounted
    exact haccounted.loopExact hloops.axisCount hloops.admitted htime'
  | abort | clearFault | completeFront | environment => trivial

/-- The bound from which on a segment is overdue. -/
theorem boundExact_step (h : Executor.Metered config (Roomy config) n time e.queue)
    {op : MotionOp W} (htime : time ≤ timeBehind time op) : BoundExact config io e op := by
  cases op with
  | tick nowNs => exact fun segment opened hreaches _ _ _ => (h.reaches htime hreaches).meets
  | enqueue | abort | clearFault | completeFront | environment => trivial

/-- What holds of each call whose queue is metered holds along a run in which the times of the ticks
do not decrease. -/
theorem along_of_metered {C : Executor W → MotionOp W → Prop}
    (hstep : ∀ (e : Executor W) (op : MotionOp W) (time : ℕ),
      Executor.Metered config P n time e.queue → time ≤ timeBehind time op → C e op)
    (h : Executor.Metered config P n time e.queue) {ops : List (MotionOp W)}
    (hfirst : ∀ nowNs ∈ tickTimes ops, time ≤ nowNs.toNat)
    (hsorted : (tickTimes ops).Pairwise (· ≤ ·))
    (haccepted : (motionOutputs config io).Along
      (fun e op => ∀ segment ∈ e.accepted config op, P segment) e ops) :
    (motionOutputs config io).Along C e ops := by
  induction ops generalizing e time with
  | nil => trivial
  | cons op ops ih =>
    have htimes : time ≤ timeBehind time op ∧
        (∀ nowNs ∈ tickTimes ops, timeBehind time op ≤ nowNs.toNat) ∧
        (tickTimes ops).Pairwise (· ≤ ·) := by
      cases op with
      | tick nowNs =>
        obtain ⟨hlater, hsorted⟩ := List.pairwise_cons.1 hsorted
        exact ⟨hfirst nowNs List.mem_cons_self,
          fun later hmem => UInt64.le_iff_toNat_le.1 (hlater later hmem), hsorted⟩
      | enqueue | abort | clearFault | completeFront | environment =>
        exact ⟨le_rfl, hfirst, hsorted⟩
    exact ⟨hstep e op time h htimes.1,
      ih (metered_step h htimes.1 haccepted.1) htimes.2.1 htimes.2.2 haccepted.2⟩

end

/-- No computation wraps in any run of the motion queue in which the times of the ticks do not
decrease. -/
def ArithmeticExact (config : MotionConfig) : Prop :=
  ∀ (W : Type) (io : MotionIo W) (axisCount : UInt8) (queue : MotionQueue) (world : W)
    (ops : List (MotionOp W)), MotionQueue.init config axisCount = some queue →
    (tickTimes ops).Pairwise (· ≤ ·) → (motionOutputs config io).Along
      (fun e op => Exact config io e op ∧ BoundExact config io e op) ⟨queue, world⟩ ops

/-! ## The longest segment -/

/-- The queue for one axis behind `rbsp_motion_init`. -/
def singleAxis : MotionQueue := { MotionQueue.zero with axisCount := 1, state := .idle }

/-- The longest segment that can be announced, without steps. -/
def longestSegment (config : MotionConfig) : MotionSegment :=
  ⟨1, UInt64.ofNat (leadNs config), UInt64.ofNat (2^64 - 1 - leadNs config), 1, false, fun _ => 0⟩

/-- The longest segment starts as early as can be announced. -/
theorem toNat_start_longest (config : MotionConfig) :
    (longestSegment config).startTimeNs.toNat = leadNs config := by
  have hle := leadNs_le config
  exact UInt64.toNat_ofNat_of_lt' (by show leadNs config < 2^64; omega)

/-- The longest segment ends with the clock. -/
theorem toNat_duration_longest (config : MotionConfig) :
    (longestSegment config).durationNs.toNat = 2^64 - 1 - leadNs config :=
  UInt64.toNat_ofNat_of_lt' (by show 2^64 - 1 - leadNs config < 2^64; omega)

/-- The longest segment is accepted. -/
theorem validate_longest (config : MotionConfig) :
    singleAxis.validate config (longestSegment config) 0 =
      .ok (longestSegment config).startTimeNs := by
  have hle := leadNs_le config
  have hstart := toNat_start_longest config
  have hduration := toNat_duration_longest config
  have hmax : (0xFFFFFFFFFFFFFFFF : UInt64).toNat = 2^64 - 1 := rfl
  -- The segment just fits before the clock wraps around.
  have hfits : ¬0xFFFFFFFFFFFFFFFF - (longestSegment config).startTimeNs <
      (longestSegment config).durationNs := by
    rw [UInt64.lt_iff_toNat_lt, UInt64.toNat_sub_of_le _ _
      (by rw [UInt64.le_iff_toNat_le, hmax, hstart]; omega), hmax, hstart, hduration]
    omega
  have hpositive : (longestSegment config).durationNs ≠ 0 := by
    intro hzero
    rw [hzero, UInt64.toNat_zero] at hduration
    omega
  -- It asks for no steps, so that no axis is too fast.
  have hsteps : (List.range singleAxis.axisCount.toNat).all
      (MotionQueue.stepsPossible config (longestSegment config)) = true := by
    rw [List.all_eq_true]
    intro axis _
    have hzero : absoluteSteps ((longestSegment config).steps axis) = 0 := rfl
    unfold MotionQueue.stepsPossible
    rw [hzero]
    simp
  -- Its start is the earliest one that the queue would choose.
  have hearliest : minimumStartTime config 0 = (longestSegment config).startTimeNs := by
    refine UInt64.toNat_inj.1 ?_
    have hlead := toNat_leadNs config
    have hroom : ¬(0xFFFFFFFFFFFFFFFF : UInt64) - 0 < config.minLeadTimeUs * 1000 := by
      rw [UInt64.sub_zero, UInt64.lt_iff_toNat_lt, hmax, hlead]
      omega
    unfold minimumStartTime
    dsimp only
    rw [if_neg hroom, UInt64.zero_add, hlead, hstart]
  have hdepth := config.two_le_queueDepth
  -- The start is the same whether it is asked for or left to the queue.
  have hchosen : (if (longestSegment config).startTimeNs = 0 then
      if singleAxis.nextAvailableTimeNs > minimumStartTime config 0 then
        singleAxis.nextAvailableTimeNs
      else minimumStartTime config 0
    else (longestSegment config).startTimeNs) = (longestSegment config).startTimeNs := by
    rw [hearliest]
    split
    · next hzero =>
      rw [hzero]
      rfl
    · rfl
  have hsize : singleAxis.size = 0 := rfl
  -- No check of its fields applies.
  have hfields : ¬((longestSegment config).sequence = 0 ∨ (longestSegment config).durationNs = 0 ∨
      (longestSegment config).axisCount ≠ singleAxis.axisCount ∨
        0xFFFFFFFFFFFFFFFF - (longestSegment config).startTimeNs <
          (longestSegment config).durationNs) := by
    rintro (hzero | hzero | haxes | hover)
    · exact absurd hzero (by decide : (1 : UInt32) ≠ 0)
    · exact hpositive hzero
    · exact haxes rfl
    · exact hfits hover
  unfold MotionQueue.validate
  rw [if_neg hfields, if_neg (by rw [hsteps]; exact nofun), if_neg (by exact fun h => h rfl),
    if_neg (by rw [hsize]; omega), if_neg (by exact fun h => h rfl),
    if_neg (by rw [hsize]; exact fun h => absurd h.1 (lt_irrefl 0)),
    if_neg (by rw [hearliest]; exact fun h => UInt64.lt_irrefl _ h.2),
    if_neg (by rw [hsize]; exact fun h => absurd h.1 (lt_irrefl 0)), hchosen, if_neg hfits]
  rfl

/-- The queue that holds the longest segment. -/
def longestQueue (config : MotionConfig) : MotionQueue :=
  (singleAxis.enqueue config (longestSegment config) 0).2.2

/-- The longest segment is at the front, and waits for its start. -/
theorem longestQueue_front (config : MotionConfig) :
    (longestQueue config).front = some (longestSegment config) ∧
      (longestQueue config).fault = .none ∧ (longestQueue config).axisCount = 1 := by
  unfold longestQueue MotionQueue.enqueue
  rw [validate_longest]
  refine ⟨?_, rfl, rfl⟩
  have hplace : singleAxis.tailIndex config = singleAxis.head := Nat.zero_mod config.queueDepth
  show some (Function.update singleAxis.segments (singleAxis.tailIndex config)
    (longestSegment config) singleAxis.head) = _
  rw [hplace, Function.update_self]

/-- The tick at the start of the longest segment computes the bound from which on it is overdue. -/
theorem boundExact_longest
    (h : BoundExact config steadyIo ⟨longestQueue config, ()⟩
      (.tick (longestSegment config).startTimeNs)) : Roomy config (longestSegment config) := by
  obtain ⟨hfront, hfault, haxes⟩ := longestQueue_front config
  generalize longestQueue config = q at h hfront hfault haxes
  have hcheck : (List.range q.axisCount.toNat).foldlM (Executor.checkLimit steadyIo)
      ⟨q, ()⟩ = .ok ⟨q, ()⟩ := by
    rw [haxes]
    rfl
  have hdue : ¬(q.state = .armed ∧ (longestSegment config).startTimeNs <
      (longestSegment config).startTimeNs) := fun hearly => UInt64.lt_irrefl _ hearly.2
  -- The callbacks succeed, and there are no steps whose phase could overflow.
  have hreads := Executor.openSegment_readsAs steadyIo (longestSegment config) ⟨q, ()⟩
  cases hopen : Executor.openSegment steadyIo (longestSegment config) ⟨q, ()⟩ with
  | error exit =>
    rw [hopen] at hreads
    exact absurd steadyIo_succeeds hreads.1
  | ok opened =>
    have hemits := Executor.emitSteps_ends steadyIo (longestSegment config) opened
      (longestSegment config).startTimeNs rfl rfl
    cases hemit : Executor.emitSteps steadyIo (longestSegment config) opened
        (longestSegment config).startTimeNs with
    | error exit =>
      rw [hemit] at hemits
      rcases hemits with ⟨k, -, hsteps, -⟩ | ⟨hfails, -⟩
      · exact absurd rfl hsteps
      · exact absurd steadyIo_succeeds hfails
    | ok r =>
      refine h _ opened ⟨hfault, _, hcheck, hfront, hdue, hopen⟩ r hemit ?_
      rintro ⟨hover, -⟩
      rw [ge_iff_le, UInt64.le_iff_toNat_le, Executor.toNat_elapsed, Nat.sub_self,
        toNat_duration_longest] at hover
      have hle := leadNs_le config
      omega

/-- The period of the timer has to fit in the time that a segment is announced in advance. -/
theorem period_le_of_exact (h : ArithmeticExact config) : timerPeriod config ≤ leadNs config := by
  have hsingle : MotionQueue.init config 1 = some singleAxis := by
    have hpos : ¬((1 : UInt8) = 0 ∨ (1 : UInt8).toNat > config.maxAxes) := by
      rintro (hzero | hmore)
      · exact absurd hzero (by decide)
      · exact absurd config.maxAxes_pos (not_le.2 hmore)
    unfold MotionQueue.init
    rw [if_neg hpos]
    rfl
  have halong := h Unit steadyIo 1 singleAxis ()
    [.enqueue (longestSegment config) 0, .tick (longestSegment config).startTimeNs] hsingle
    (List.pairwise_singleton _ _)
  have hroomy := boundExact_longest halong.2.1.2
  unfold Roomy at hroomy
  rw [toNat_duration_longest] at hroomy
  have hle := leadNs_le config
  omega

/-- An accepted segment leaves room for the period of the timer, if it has to be announced by a
period in advance. -/
theorem roomy_of_period_le {segment : MotionSegment} {n : ℕ} (hadmitted : segment.Admitted config n)
    (hle : timerPeriod config ≤ leadNs config) : Roomy config segment := by
  have hend := hadmitted.end_lt
  have hlead := hadmitted.lead
  unfold Roomy
  omega

/-- The 64-bit arithmetic of the motion queue does not wrap in any run in which the times of the
ticks do not decrease, if and only if a segment has to be announced by a period of the timer in
advance. In any configuration the bound from which on a segment is overdue is the only computation
that can wrap, and it does not if there is room for a period above the duration of each accepted
segment. -/
theorem arithmetic_exact_iff (config : MotionConfig) :
    (ArithmeticExact config ↔ timerPeriod config ≤ leadNs config) ∧
      ∀ (W : Type) (io : MotionIo W) (axisCount : UInt8) (queue : MotionQueue) (world : W)
        (ops : List (MotionOp W)), MotionQueue.init config axisCount = some queue →
        (tickTimes ops).Pairwise (· ≤ ·) →
          (motionOutputs config io).Along (Exact config io) ⟨queue, world⟩ ops ∧
            ((motionOutputs config io).Along
              (fun e op => ∀ segment ∈ e.accepted config op, Roomy config segment)
                ⟨queue, world⟩ ops →
              (motionOutputs config io).Along (BoundExact config io) ⟨queue, world⟩ ops) := by
  -- What each call does in a queue that is metered.
  have hruns : ∀ (P : MotionSegment → Prop) (W : Type) (io : MotionIo W)
      (C : Executor W → MotionOp W → Prop) (axisCount : UInt8) (queue : MotionQueue) (world : W)
      (ops : List (MotionOp W)),
      (∀ (e : Executor W) (op : MotionOp W) (time : ℕ),
        Executor.Metered config P axisCount.toNat time e.queue → time ≤ timeBehind time op →
          C e op) →
      MotionQueue.init config axisCount = some queue → (tickTimes ops).Pairwise (· ≤ ·) →
      (motionOutputs config io).Along (fun e op => ∀ segment ∈ e.accepted config op, P segment)
        ⟨queue, world⟩ ops →
      (motionOutputs config io).Along C ⟨queue, world⟩ ops := by
    intro P W io C axisCount queue world ops hstep hinit hsorted haccepted
    have hstart : Executor.Metered config P axisCount.toNat 0 queue := metered_init hinit P 0
    exact along_of_metered (e := ⟨queue, world⟩) hstep hstart (fun _ _ => Nat.zero_le _) hsorted
      haccepted
  have hanything : ∀ (W : Type) (io : MotionIo W) (e : Executor W) (ops : List (MotionOp W)),
      (motionOutputs config io).Along (fun e op => ∀ segment ∈ e.accepted config op, True) e ops :=
    fun W io e ops => (motionOutputs config io).along_of_forall (fun _ _ _ _ => trivial) e ops
  refine ⟨⟨period_le_of_exact, fun hle W io axisCount queue world ops hinit hsorted => ?_⟩,
    fun W io axisCount queue world ops hinit hsorted => ⟨?_, fun hroomy => ?_⟩⟩
  · have hroomy : (motionOutputs config io).Along
        (fun e op => ∀ segment ∈ e.accepted config op, Roomy config segment) ⟨queue, world⟩ ops :=
      hruns _ W io _ axisCount queue world ops
        (fun _ _ _ h _ _ hmem =>
          roomy_of_period_le (admitted_of_accepted h.safe.axisCount hmem) hle)
        hinit hsorted (hanything W io _ ops)
    exact hruns _ W io _ axisCount queue world ops
      (fun _ _ _ h htime => ⟨exact_step h htime, boundExact_step h htime⟩) hinit hsorted hroomy
  · exact hruns _ W io _ axisCount queue world ops (fun _ _ _ h htime => exact_step h htime) hinit
      hsorted (hanything W io _ ops)
  · exact hruns _ W io _ axisCount queue world ops (fun _ _ _ h htime => boundExact_step h htime)
      hinit hsorted hroomy

/-- In the configuration of a test a segment is announced by many periods in advance. -/
theorem arithmetic_exact_iff_two_steps :
    ArithmeticExact testMotionConfig ∧
      (motionOutputs testMotionConfig steadyIo).Along (BoundExact testMotionConfig steadyIo)
        ⟨singleAxis, ()⟩ [.enqueue (twoSteps 1 1000000 true) 0, .tick 1000000, .tick 1050000] :=
  ⟨(arithmetic_exact_iff testMotionConfig).1.2 (by decide),
    ((arithmetic_exact_iff testMotionConfig).2 Unit steadyIo 1 singleAxis () _ rfl
      (by decide)).2 (by decide +kernel)⟩

/-- A slow timer, and segments that are announced at short notice. -/
def slowMotionConfig : MotionConfig :=
  ⟨1, 2, 100, 1000, by decide, by decide, by decide, by decide, by decide, by decide⟩

/-- With a slow timer the bound wraps: the longest segment, without steps, is overdue before one
period of the timer has passed, and the motion is aborted. -/
theorem bound_wraps_when_slow :
    ¬ArithmeticExact slowMotionConfig ∧
      ((motionOutputs slowMotionConfig steadyIo).run ⟨singleAxis, ()⟩
        [.enqueue (longestSegment slowMotionConfig) 0, .tick 100000, .tick 1000000]).queue.fault =
          .underrun :=
  ⟨fun h => absurd (period_le_of_exact h) (by decide), by decide +kernel⟩

end RemoteBSP.Firmware
