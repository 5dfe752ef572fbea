import RemoteBSP.Firmware.MotionArithmetic

/-!
# A segment under ticks that come in time

What becomes of a segment that an idle queue accepts, if the ticks are at most one period of the
timer apart, the callbacks succeed and no limit switch is active. The checks of
`rbsp_motion_enqueue` allow at most one step in two periods (`MotionSegment.Admitted.rate`), so that
the phase of an axis stays below the duration: the steps emitted are those of the division, no step
follows another one immediately, and at most one more tick is needed behind the end of the segment.

A segment goes through three stages (`Stage`). It waits for its start, it is running, and it is
completed; `stage_step` says that a tick in time keeps the stages. The segment is never taken for
overdue, unless the bound for that wraps around. `spread_iff` says that this is the only exception:
all runs in time spread the steps evenly if and only if there is room for a period above the
duration.
-/

namespace RemoteBSP.Firmware

open MotionQueue

variable {W : Type} {config : MotionConfig} {io : MotionIo W} {segment : MotionSegment}
  {n time : ℕ} {nowNs : UInt64}

/-- No limit switch is active, whatever the state of the world. -/
def MotionIo.Clear (io : MotionIo W) : Prop :=
  ∀ read ∈ io.limitActive, ∀ world axis, (read world axis).1.2 = false

/-! ## The parts of a tick -/

namespace Executor

variable {e : Executor W} {q : MotionQueue}

/-- The limit switches let every tick pass. -/
theorem checkLimits_clear (hsucceeds : io.Succeeds) (hclear : io.Clear) (e : Executor W) (n : ℕ) :
    ∃ checked, (List.range n).foldlM (checkLimit io) e = .ok checked ∧ checked.queue = e.queue := by
  have hpasses : ((List.range n).foldlM (checkLimit io) e).Ends (fun _ => True) fun _ => False := by
    refine List.range_foldlM_ends (P := fun _ _ => True) (fun axis e _ _ => ?_) trivial
    unfold checkLimit
    cases hlimit : io.limitActive with
    | none => trivial
    | some limitActive =>
      have hread := hsucceeds.limitActive limitActive hlimit e.world axis
      have hoff := hclear limitActive hlimit e.world axis
      dsimp only
      generalize limitActive e.world axis = reading at hread hoff
      obtain ⟨⟨done, active⟩, world⟩ := reading
      dsimp only at hread hoff
      subst hread hoff
      trivial
  cases hresult : (List.range n).foldlM (checkLimit io) e with
  | ok checked => exact ⟨checked, rfl, checkLimits_queue hresult⟩
  | error exit =>
    rw [hresult] at hpasses
    exact hpasses.elim

/-- A segment that waits for its start is left alone. -/
theorem tick_waiting (hsucceeds : io.Succeeds) (hclear : io.Clear) (hfault : e.queue.fault = .none)
    (hfront : e.queue.front = some segment) (harmed : e.queue.state = .armed)
    (hearly : nowNs < segment.startTimeNs) :
    (tick config io e nowNs).2.queue = e.queue := by
  obtain ⟨checked, hcheck, hqueue⟩ := checkLimits_clear hsucceeds hclear e e.queue.axisCount.toNat
  have hfront' : checked.queue.front = some segment := hqueue ▸ hfront
  have hearly' : checked.queue.state = .armed ∧ nowNs < segment.startTimeNs :=
    ⟨hqueue ▸ harmed, hearly⟩
  have hrun : runTick config io e nowNs = .ok (true, checked) := by
    unfold runTick
    rw [hcheck]
    dsimp only [bind, Except.bind]
    rw [hfront']
    dsimp only
    rw [if_pos hearly']
    rfl
  unfold tick
  rw [if_neg (not_not.2 hfault), hrun]
  exact hqueue

/-- A tick with an empty queue stops the outputs. -/
theorem tick_empty (hsucceeds : io.Succeeds) (hclear : io.Clear) (hsize : e.queue.size = 0) :
    ∃ e' : Executor W, e'.queue = e.queue ∧
      (tick config io e nowNs).2 = stopOutputs io e' := by
  unfold tick
  by_cases hfault : e.queue.fault = .none
  · obtain ⟨checked, hcheck, hqueue⟩ :=
      checkLimits_clear hsucceeds hclear e e.queue.axisCount.toNat
    have hfront : checked.queue.front = none := by
      unfold MotionQueue.front
      rw [hqueue, if_pos hsize]
    have hrun : runTick config io e nowNs = .ok (true, stopOutputs io checked) := by
      unfold runTick
      rw [hcheck]
      dsimp only [bind, Except.bind]
      rw [hfront]
      rfl
    rw [if_neg (not_not.2 hfault), hrun]
    exact ⟨checked, hqueue, rfl⟩
  · rw [if_pos hfault]
    exact ⟨e, rfl, rfl⟩

/-- Stopping the outputs ends all pulses. -/
theorem stopOutputs_low (e : Executor W) {axis : ℕ}
    (h : axis < e.queue.axisCount.toNat ∨ e.queue.stepHigh axis = false) :
    (stopOutputs io e).queue.stepHigh axis = false := by
  have hkeeps : ∀ (e' : Executor W) (a : ℕ), e'.queue.stepHigh axis = false →
      (stopAxis io e' a).queue.stepHigh axis = false := by
    intro e' a hlow
    rw [(stopAxis_outputs io e' a).1]
    by_cases ha : axis = a
    · rw [ha, Function.update_self]
    · rw [Function.update_of_ne ha, hlow]
  unfold stopOutputs
  rcases h with hwithin | hlow
  · refine List.foldl_reaches (P := fun _ => True)
      (Q := fun e' : Executor W => e'.queue.stepHigh axis = false) (fun _ _ _ _ => trivial)
      (fun e' a _ hlow => hkeeps e' a hlow) (List.mem_range.2 hwithin) (fun e' _ => ?_) trivial
    rw [(stopAxis_outputs io e' axis).1, Function.update_self]
  · exact List.foldlRecOn (motive := fun e' : Executor W => e'.queue.stepHigh axis = false) _ _ hlow
      fun e' hlow a _ => hkeeps e' a hlow

/-! ## The loop, in time -/

/-- The phase of an axis is below the duration, and below half of it while a pulse is on. -/
structure Steady (segment : MotionSegment) (q : MotionQueue) (axis : ℕ) : Prop where
  /-- No step is overdue: less than one has accumulated in the phase. -/
  phase_lt : (q.dda axis).phase < segment.durationNs.toNat
  /-- The next step is not due for more than a period. -/
  rests : (q.dda axis).high = true → 2 * (q.dda axis).phase < segment.durationNs.toNat

/-- A segment that the queue `q₀` has waiting at its front, alone. -/
structure Waiting (config : MotionConfig) (segment : MotionSegment) (n : ℕ) (q₀ : MotionQueue) :
    Prop where
  /-- No fault is latched. -/
  fault : q₀.fault = .none
  /-- There is one segment in the ring. -/
  size : q₀.size = 1
  /-- The segment is at the front. -/
  front : q₀.segments q₀.head = segment
  /-- The segment has not started. -/
  armed : q₀.state = .armed
  /-- As many axes are in use as there are. -/
  axisCount : q₀.axisCount.toNat = n
  /-- The segment has passed the checks. -/
  admitted : segment.Admitted config n

/-- The segment that waited in `q₀` is running, up to a time. -/
structure Moving (segment : MotionSegment) (n : ℕ) (q₀ : MotionQueue) (time : ℕ)
    (q : MotionQueue) : Prop where
  /-- The buffer is as it was. -/
  ring : q.ring = q₀.ring
  /-- The segment is under way. -/
  running : q.state = .running
  /-- The phases account for the time. -/
  accounted : Accounted segment n time q
  /-- Each axis makes its steps when they are due. -/
  steady : ∀ axis < n, Steady segment q axis
  /-- The axes have moved by the steps emitted. -/
  progress : ∀ axis < n, Progress segment q₀ q axis

/-- Within a period of the timer an axis advances by at most half a step. -/
theorem timely_of_admitted (h : segment.Admitted config n) {axis delta : ℕ} (haxis : axis < n)
    (hdelta : delta ≤ timerPeriod config) :
    2 * ((absoluteSteps (segment.steps axis)).toNat * delta) ≤ segment.durationNs.toNat := by
  have hrate := h.rate axis haxis
  have hpos : 0 < config.timerHz.toNat := (timerHz_bounds config).1.trans_lt' (by norm_num)
  have hperiod : delta * config.timerHz.toNat ≤ 1000000000 :=
    (Nat.mul_le_mul_right _ hdelta).trans (Nat.div_mul_le_self _ _)
  refine Nat.le_of_mul_le_mul_right ?_ hpos
  calc 2 * ((absoluteSteps (segment.steps axis)).toNat * delta) * config.timerHz.toNat
      = 2 * (absoluteSteps (segment.steps axis)).toNat * (delta * config.timerHz.toNat) := by ring
    _ ≤ 2 * (absoluteSteps (segment.steps axis)).toNat * 1000000000 :=
      Nat.mul_le_mul_left _ hperiod
    _ = 2000000000 * (absoluteSteps (segment.steps axis)).toNat := by ring
    _ ≤ segment.durationNs.toNat * config.timerHz.toNat := hrate

/-- A tick in time keeps an axis steady, and makes no pulse behind a pulse. -/
theorem Steady.tick {q' : MotionQueue} {axis delta elapsed : ℕ} (h : Steady segment q axis)
    (hadmitted : segment.Admitted config n) (haxis : axis < n)
    (haccount : Dda.Account (absoluteSteps (segment.steps axis)).toNat segment.durationNs.toNat
      elapsed (q.dda axis))
    (hwithin : elapsed + delta ≤ segment.durationNs.toNat) (hdelta : delta ≤ timerPeriod config)
    (hdda : q'.dda axis = Dda.tick (absoluteSteps (segment.steps axis)).toNat
      segment.durationNs.toNat delta (q.dda axis)) :
    Steady segment q' axis ∧ (q.stepHigh axis = true → q'.stepHigh axis = false) := by
  have htimely := timely_of_admitted hadmitted haxis hdelta
  refine ⟨⟨?_, fun hhigh => ?_⟩, fun hhigh => ?_⟩
  · rw [hdda]
    exact haccount.phase_lt h.phase_lt hwithin htimely
  · rw [hdda] at hhigh ⊢
    have hphase := Dda.phase_lt_of_high h.phase_lt hhigh
    omega
  · have hlow := Dda.not_high_tick (h.rests hhigh) htimely
    rw [← hdda] at hlow
    exact hlow

/-- The fault of a queue whose segment is running. -/
theorem Moving.fault {q₀ : MotionQueue} (h : Moving segment n q₀ time q)
    (hq₀ : Waiting config segment n q₀) : q.fault = .none := (fault_of_ring h.ring).trans hq₀.fault

/-- The front of a queue whose buffer is as it was. -/
theorem Waiting.front_of_ring {q₀ : MotionQueue} (hq₀ : Waiting config segment n q₀)
    (hring : q.ring = q₀.ring) : q.front = some segment ∧ q.axisCount.toNat = n := by
  have hsize : q.size = q₀.size := size_of_ring hring
  have hsegments : q.segments = q₀.segments :=
    (congrArg segments hring : q.ring.segments = q₀.ring.segments)
  have hhead : q.head = q₀.head := (congrArg head hring : q.ring.head = q₀.ring.head)
  have haxes : q.axisCount = q₀.axisCount :=
    (congrArg MotionQueue.axisCount hring : q.ring.axisCount = q₀.ring.axisCount)
  refine ⟨?_, by rw [haxes, hq₀.axisCount]⟩
  unfold MotionQueue.front
  rw [hsize, hq₀.size, if_neg Nat.one_ne_zero, hsegments, hhead, hq₀.front]

/-- The start of the segment that waits. -/
theorem Waiting.opened {q₀ : MotionQueue} (hq₀ : Waiting config segment n q₀)
    (hsucceeds : io.Succeeds) (hqueue : e.queue = q₀) :
    ∃ opened, openSegment io segment e = .ok opened ∧
      Moving segment n q₀ segment.startTimeNs.toNat opened.queue ∧
      ∀ axis, opened.queue.stepHigh axis = q₀.stepHigh axis := by
  have hreads := openSegment_readsAs io segment e
  have harmed : e.queue.state = .armed := hqueue ▸ hq₀.armed
  cases hopen : openSegment io segment e with
  | error exit =>
    rw [hopen] at hreads
    exact absurd hsucceeds hreads.1
  | ok opened =>
    rw [hopen] at hreads
    change ReadsAs (e.queue.opening segment) opened at hreads
    unfold openSegment at hopen
    rw [if_pos harmed] at hopen
    have hframes : (startSegment io segment e).Ends _ _ := startSegment_frames segment e
    rw [hopen] at hframes
    obtain ⟨hring, hrunning⟩ : opened.queue.ring = e.queue.ring ∧ opened.queue.state = .running :=
      hframes
    have hspec : e.queue.SameSegments opened.queue ∧ opened.queue.state = .running ∧
        ∀ axis < e.queue.axisCount.toNat, Progress segment q₀ opened.queue axis := by
      refine startSegment_spec hopen fun axis _ => ?_
      rw [hqueue]
      exact ⟨rfl, rfl⟩
    rw [hqueue] at hring hreads hspec
    have haccounted := (accounted_opening hq₀.armed n).of_readsAs hreads
    have hpos := hq₀.admitted.duration_pos
    -- The phases are zero.
    have hdda : ∀ axis, opened.queue.dda axis = ⟨0, 0, q₀.stepHigh axis⟩ := by
      intro axis
      rw [dda_congr (hreads.readings axis)]
      unfold MotionQueue.opening
      rw [if_pos hq₀.armed]
      rfl
    refine ⟨opened, rfl, ⟨hring, hrunning, haccounted, fun axis _ => ⟨?_, fun _ => ?_⟩,
      fun axis haxis => hspec.2.2 axis (hq₀.axisCount.symm ▸ haxis)⟩, fun axis => ?_⟩
    · rw [hdda]
      exact hpos
    · rw [hdda]
      exact hpos
    · exact congrArg Dda.State.high (hdda axis)

/-- Behind the end of the segment all steps have been emitted. -/
theorem Moving.emitted_all {q₀ : MotionQueue} (h : Moving segment n q₀ time q)
    (hend : segment.startTimeNs.toNat + segment.durationNs.toNat ≤ time) {axis : ℕ}
    (haxis : axis < n) : q.activeEmitted axis = absoluteSteps (segment.steps axis) := by
  have haccount := h.accounted.account axis haxis
  have hall : within segment time = segment.durationNs.toNat := by
    unfold within
    omega
  rw [hall] at haccount
  exact UInt64.toNat_inj.1 (haccount.complete (h.steady axis haxis).phase_lt)

/-- The steps emitted are those of the division. -/
theorem Moving.emitted_eq {q₀ : MotionQueue} (h : Moving segment n q₀ time q) {axis : ℕ}
    (haxis : axis < n) : (q.activeEmitted axis).toNat =
      (absoluteSteps (segment.steps axis)).toNat * within segment time /
        segment.durationNs.toNat :=
  (h.accounted.account axis haxis).emitted_eq (h.steady axis haxis).phase_lt

/-- The loop over the axes of a segment that is running. -/
theorem Moving.loop {q₀ : MotionQueue} {opened : Executor W}
    (h : Moving segment n q₀ time opened.queue) (hq₀ : Waiting config segment n q₀)
    (hsucceeds : io.Succeeds) (htime : time ≤ nowNs.toNat)
    (hperiod : nowNs.toNat ≤ time + timerPeriod config) :
    ∃ r, emitSteps io segment opened nowNs = .ok r ∧ Moving segment n q₀ nowNs.toNat r.1.queue ∧
      (∀ axis < n, opened.queue.stepHigh axis = true → r.1.queue.stepHigh axis = false) ∧
      (∀ axis < n, r.1.queue.stepHigh axis = true → (r.1.queue.activeEmitted axis).toNat =
        (absoluteSteps (segment.steps axis)).toNat * within segment time /
          segment.durationNs.toNat + 1) ∧
      (r.2 = true ↔ ∀ axis < n, Finished segment r.1.queue axis) := by
  -- The front segment and the number of axes are the ones the queue was armed with.
  obtain ⟨hfront, haxes⟩ := hq₀.front_of_ring h.ring
  have hexact := h.accounted.loopExact haxes hq₀.admitted htime
  have hdelta := h.accounted.delta hq₀.admitted.end_lt htime
  have hemits := emitSteps_ends io segment opened nowNs rfl haxes
  have hframes : (emitSteps io segment opened nowNs).Ends _ _ :=
    emitSteps_frames segment opened nowNs
  -- An exit would be an overflow, which the exactness of the loop excludes, or a failed callback.
  cases hemit : emitSteps io segment opened nowNs with
  | error exit =>
    rw [hemit] at hemits
    rcases hemits with ⟨axis, haxis, hover⟩ | ⟨hfails, -⟩
    · exact absurd hover (hexact.fits axis (haxes.symm ▸ haxis))
    · exact absurd hsucceeds hfails
  | ok r =>
    rw [hemit] at hemits hframes
    obtain ⟨hring, hstate⟩ : r.1.queue.ring = opened.queue.ring ∧
      r.1.queue.state = opened.queue.state := hframes
    obtain ⟨hqueue, hflag⟩ : r.1.queue = looped segment (deltaNs segment
      opened.queue.activeLastTickNs nowNs) (ticked segment nowNs opened.queue) n ∧ _ := hemits
    have hprogress : ∀ axis < opened.queue.axisCount.toNat, Progress segment q₀ r.1.queue axis :=
      (emitSteps_spec hemit fun axis haxis => h.progress axis (haxes ▸ haxis)).2.2.1
    have hsteady : ∀ axis < n, Steady segment r.1.queue axis ∧
        (opened.queue.stepHigh axis = true → r.1.queue.stepHigh axis = false) := by
      intro axis haxis
      have hdda := h.accounted.dda_looped haxes hq₀.admitted htime haxis
      rw [← hqueue] at hdda
      refine (h.steady axis haxis).tick hq₀.admitted haxis (h.accounted.account axis haxis)
        (hdelta.le.trans (within_le segment _)) ?_ hdda
      -- The time that has passed of the segment is at most the time that has passed.
      have hless : within segment nowNs.toNat ≤ within segment time + (nowNs.toNat - time) := by
        unfold within
        omega
      omega
    refine ⟨r, rfl, ⟨hring.trans h.ring, hstate.trans h.running, ?_,
      fun axis haxis => (hsteady axis haxis).1,
      fun axis haxis => hprogress axis (haxes.symm ▸ haxis)⟩,
      fun axis haxis => (hsteady axis haxis).2, fun axis haxis hhigh => ?_, hflag⟩
    · rw [hqueue]
      exact h.accounted.looped haxes hq₀.admitted htime
    · have hdda := h.accounted.dda_looped haxes hq₀.admitted htime haxis
      rw [← hqueue] at hdda
      have hhigh' : (r.1.queue.dda axis).high = true := hhigh
      show (r.1.queue.dda axis).emitted = _
      rw [hdda] at hhigh' ⊢
      rw [Dda.emitted_of_high hhigh', ← h.emitted_eq haxis]
      rfl

/-- What a tick in time does from the start of the segment on, up to its end. -/
theorem tick_loop {q₀ : MotionQueue} (hq₀ : Waiting config segment n q₀) (hsucceeds : io.Succeeds)
    (hclear : io.Clear)
    (hstage : e.queue = q₀ ∧ time = segment.startTimeNs.toNat ∨ Moving segment n q₀ time e.queue)
    (htime : time ≤ nowNs.toNat) (hperiod : nowNs.toNat ≤ time + timerPeriod config) :
    ∃ r : Executor W × Bool,
      (tick config io e nowNs).2 = (finishTick config io segment r.1 r.2 nowNs).2 ∧
        Moving segment n q₀ nowNs.toNat r.1.queue ∧
        (∀ axis < n, e.queue.stepHigh axis = true → r.1.queue.stepHigh axis = false) ∧
        (∀ axis < n, r.1.queue.stepHigh axis = true → (r.1.queue.activeEmitted axis).toNat =
          (absoluteSteps (segment.steps axis)).toNat * within segment time /
            segment.durationNs.toNat + 1) ∧
        (r.2 = true ↔ ∀ axis < n, Finished segment r.1.queue axis) := by
  -- The limits are clear, so that the checks lead to the segment in front.
  obtain ⟨checked, hcheck, hqueue⟩ := checkLimits_clear hsucceeds hclear e e.queue.axisCount.toNat
  have hring : e.queue.ring = q₀.ring := by
    rcases hstage with ⟨hsame, -⟩ | hmoving
    · rw [hsame]
    · exact hmoving.ring
  have hfault : e.queue.fault = .none := (fault_of_ring hring).trans hq₀.fault
  have hfront : checked.queue.front = some segment := by
    rw [hqueue]
    exact (hq₀.front_of_ring hring).1
  have hdue : ¬(checked.queue.state = .armed ∧ nowNs < segment.startTimeNs) := by
    rw [hqueue]
    rintro ⟨harmed, hearly⟩
    rcases hstage with ⟨-, rfl⟩ | hmoving
    · exact absurd htime (not_le.2 (UInt64.lt_iff_toNat_lt.1 hearly))
    · rw [hmoving.running] at harmed
      cases harmed
  -- The segment is opened by this tick, or has been opened by an earlier one.
  obtain ⟨opened, hopen, hmoving, hhigh⟩ : ∃ opened, openSegment io segment checked = .ok opened ∧
      Moving segment n q₀ time opened.queue ∧
      ∀ axis, opened.queue.stepHigh axis = e.queue.stepHigh axis := by
    rcases hstage with ⟨hsame, rfl⟩ | hmoving
    · obtain ⟨opened, hopen, hmoving, hhigh⟩ := hq₀.opened hsucceeds (hqueue.trans hsame)
      exact ⟨opened, hopen, hmoving, fun axis => by rw [hhigh, hsame]⟩
    · have hnot : ¬checked.queue.state = .armed := by
        rw [hqueue, hmoving.running]
        exact nofun
      refine ⟨checked, ?_, hqueue.symm ▸ hmoving, fun axis => by rw [hqueue]⟩
      unfold openSegment
      rw [if_neg hnot]
  obtain ⟨r, hemit, hmoving', hlow, hcount, hflag⟩ := hmoving.loop hq₀ hsucceeds htime hperiod
  -- From there on the tick is the loop over the axes and what comes after it.
  have hrun : runTick config io e nowNs = .ok (finishTick config io segment r.1 r.2 nowNs) := by
    unfold runTick
    rw [hcheck]
    dsimp only [bind, Except.bind]
    rw [hfront]
    dsimp only
    rw [if_neg hdue, hopen]
    dsimp only
    rw [hemit]
    rfl
  refine ⟨r, ?_, hmoving', fun axis haxis hup => hlow axis haxis ((hhigh axis).trans hup), hcount,
    hflag⟩
  unfold tick
  rw [if_neg (not_not.2 hfault), hrun]

/-! ## The stages -/

/-- The segment has been completed, with all its steps. -/
structure Passed (segment : MotionSegment) (n : ℕ) (q₀ q : MotionQueue) : Prop where
  /-- The segment has been counted. -/
  completed : q.completedSegments = q₀.completedSegments + 1
  /-- The ring is empty. -/
  size : q.size = 0
  /-- As many axes are in use as there are. -/
  axisCount : q.axisCount.toNat = n
  /-- The steps of the segment have been emitted. -/
  active : ∀ axis < n, q.activeEmitted axis = absoluteSteps (segment.steps axis)
  /-- These are all steps that have been emitted. -/
  emitted : ∀ axis < n,
    q.emittedSteps axis = q₀.emittedSteps axis + absoluteSteps (segment.steps axis)
  /-- No step output is high any more. -/
  low : ∀ axis < n, q.stepHigh axis = false

/-- What the segment that waited in `q₀` has come to with a tick at `time`, the last of `late` ticks
at or behind the end. -/
inductive Stage (segment : MotionSegment) (n : ℕ) (q₀ : MotionQueue) (time late : ℕ)
    (q : MotionQueue) : Prop
  /-- The segment waits for its start. -/
  | waiting (same : q = q₀) (early : time < segment.startTimeNs.toNat) (late : late = 0)
  /-- The segment is under way from its start on. -/
  | moving (started : segment.startTimeNs.toNat ≤ time) (moving : Moving segment n q₀ time q)
    (late : late =
      if segment.startTimeNs.toNat + segment.durationNs.toNat ≤ time then 1 else 0)
  /-- The segment has been completed, not before its end. -/
  | passed (ended : segment.startTimeNs.toNat + segment.durationNs.toNat ≤ time)
    (passed : Passed segment n q₀ q)

/-- Completing the only segment empties the ring. -/
theorem completeFront_single (hsize : q.size = 1) (hfault : q.fault = .none) :
    (q.completeFront config).1 = true ∧
      (q.completeFront config).2.completedSegments = q.completedSegments + 1 ∧
      (q.completeFront config).2.size = 0 ∧
      (q.completeFront config).2.axisCount = q.axisCount ∧
      (q.completeFront config).2.activeEmitted = q.activeEmitted ∧
      (q.completeFront config).2.emittedSteps = q.emittedSteps ∧
      (q.completeFront config).2.stepHigh = q.stepHigh := by
  have hopen : ¬(q.size = 0 ∨ q.fault ≠ .none) := by
    rintro (hzero | hne)
    · rw [hsize] at hzero
      cases hzero
    · exact hne hfault
  unfold MotionQueue.completeFront
  rw [if_neg hopen]
  dsimp only
  split
  · exact ⟨rfl, rfl, rfl, rfl, rfl, rfl, rfl⟩
  · have hnone : q.size - 1 = 0 := by rw [hsize]
    rw [if_pos hnone]
    exact ⟨rfl, rfl, hnone, rfl, rfl, rfl, rfl⟩

/-- Stopping the outputs leaves a completed segment completed. -/
theorem Passed.stopped {q₀ : MotionQueue} (h : Passed segment n q₀ e.queue) :
    Passed segment n q₀ (stopOutputs io e).queue := by
  have hagrees : e.queue.Agrees (stopOutputs io e).queue := stopOutputs_agrees e
  refine ⟨?_, ?_, ?_, fun axis haxis => ?_, fun axis haxis => ?_, fun axis haxis => ?_⟩
  · rw [hagrees.completedSegments]
    exact h.completed
  · rw [hagrees.size]
    exact h.size
  · rw [hagrees.axisCount]
    exact h.axisCount
  · rw [hagrees.activeEmitted]
    exact h.active axis haxis
  · rw [hagrees.emittedSteps]
    exact h.emitted axis haxis
  · exact stopOutputs_low e (.inr (h.low axis haxis))

/-- The end of the tick behind which all pulses have ended. -/
theorem Moving.finish {q₀ : MotionQueue} (h : Moving segment n q₀ nowNs.toNat e.queue)
    (hq₀ : Waiting config segment n q₀)
    (hend : segment.startTimeNs.toNat + segment.durationNs.toNat ≤ nowNs.toNat)
    (hlow : ∀ axis < n, e.queue.stepHigh axis = false) :
    Passed segment n q₀ (finishTick config io segment e true nowNs).2.queue := by
  -- The time of the segment is over, and it is the only one in the queue.
  have hover : elapsed segment nowNs ≥ segment.durationNs := by
    rw [ge_iff_le, UInt64.le_iff_toNat_le, toNat_elapsed]
    omega
  have hsize : e.queue.size = 1 := (size_of_ring h.ring).trans hq₀.size
  have hcounted : e.queue.completedSegments = q₀.completedSegments :=
    (congrArg completedSegments h.ring : e.queue.ring.completedSegments = q₀.ring.completedSegments)
  obtain ⟨hdone, hcompleted, hempty, haxes, hactive, hemitted, hhigh⟩ :
      (e.queue.completeFront config).1 = true ∧ _ := completeFront_single hsize (h.fault hq₀)
  have hpassed : Passed segment n q₀ (e.queue.completeFront config).2 := by
    refine ⟨?_, hempty, ?_, fun axis haxis => ?_, fun axis haxis => ?_, fun axis haxis => ?_⟩
    · rw [hcompleted, hcounted]
    · rw [haxes]
      exact (hq₀.front_of_ring h.ring).2
    · rw [hactive]
      exact h.emitted_all hend haxis
    · rw [hemitted]
      exact ((h.progress axis haxis).complete (h.emitted_all hend haxis)).2
    · rw [hhigh]
      exact hlow axis haxis
  -- So it is completed, and as nothing follows it, the outputs may be stopped.
  unfold finishTick
  dsimp only
  rw [if_pos ⟨hover, rfl⟩]
  generalize e.queue.completeFront config = done at hdone hpassed
  obtain ⟨result, completed⟩ := done
  dsimp only at hdone hpassed
  subst hdone
  dsimp only
  split
  · exact Passed.stopped hpassed
  · exact hpassed

/-- A tick in time is not late. -/
theorem not_overdue (hroomy : Roomy config segment)
    (hsoon : nowNs.toNat ≤
      segment.startTimeNs.toNat + segment.durationNs.toNat + timerPeriod config) :
    ¬elapsed segment nowNs > segment.durationNs + 1000000000 / config.timerHz := by
  unfold Roomy at hroomy
  rw [gt_iff_lt, UInt64.lt_iff_toNat_lt, toNat_elapsed, UInt64.toNat_add, toNat_timerPeriod,
    Nat.mod_eq_of_lt hroomy]
  omega

/-- A tick from the start on, of a segment that has not been completed. -/
theorem stage_loop {q₀ : MotionQueue} {late : ℕ} (hq₀ : Waiting config segment n q₀)
    (hsucceeds : io.Succeeds) (hclear : io.Clear) (hroomy : Roomy config segment)
    (hbefore : e.queue = q₀ ∧ time = segment.startTimeNs.toNat ∨
      Moving segment n q₀ time e.queue)
    (htime : time ≤ nowNs.toNat) (hperiod : nowNs.toNat ≤ time + timerPeriod config)
    (hstarted : segment.startTimeNs.toNat ≤ time)
    (hlate : late = if segment.startTimeNs.toNat + segment.durationNs.toNat ≤ time then 1 else 0) :
    Stage segment n q₀ nowNs.toNat
        (late + if segment.startTimeNs.toNat + segment.durationNs.toNat ≤ nowNs.toNat then 1 else 0)
        (tick config io e nowNs).2.queue ∧
      ∀ axis < n, e.queue.stepHigh axis = true →
        (tick config io e nowNs).2.queue.stepHigh axis = false := by
  obtain ⟨r, htick, hmoving, hlow, hcount, hflag⟩ :=
    tick_loop hq₀ hsucceeds hclear hbefore htime hperiod
  rw [htick]
  by_cases hdone : segment.startTimeNs.toNat + segment.durationNs.toNat ≤ nowNs.toNat ∧ r.2 = true
  · -- All steps have been emitted and all pulses have ended.
    obtain ⟨hend, hall⟩ := hdone
    rw [hall]
    have hfinished : Passed segment n q₀ (finishTick config io segment r.1 true nowNs).2.queue :=
      hmoving.finish hq₀ hend fun axis haxis => (hflag.1 hall axis haxis).2
    exact ⟨.passed hend hfinished, fun axis haxis _ => hfinished.low axis haxis⟩
  · -- The segment goes on, and this is the first tick behind its end at most.
    have hfirst : time < segment.startTimeNs.toNat + segment.durationNs.toNat := by
      by_contra hlast
      rw [not_lt] at hlast
      refine hdone ⟨hlast.trans htime, hflag.2 fun axis haxis => ?_⟩
      have hemitted := hmoving.emitted_all (hlast.trans htime) haxis
      refine ⟨hemitted, Bool.not_eq_true _ ▸ fun hhigh => ?_⟩
      have hmore := hcount axis haxis hhigh
      have hall : within segment time = segment.durationNs.toNat := by
        unfold within
        omega
      rw [hemitted, hall, Nat.mul_div_cancel _ hq₀.admitted.duration_pos] at hmore
      omega
    have hnot : ¬(elapsed segment nowNs ≥ segment.durationNs ∧ r.2 = true) := by
      rintro ⟨hover, hall⟩
      rw [ge_iff_le, UInt64.le_iff_toNat_le, toNat_elapsed] at hover
      have hpos := hq₀.admitted.duration_pos
      exact hdone ⟨by omega, hall⟩
    have hsame : (finishTick config io segment r.1 r.2 nowNs).2 = r.1 := by
      unfold finishTick
      dsimp only
      rw [if_neg hnot, if_neg (not_overdue hroomy (by omega))]
    rw [if_neg (by omega)] at hlate
    rw [hsame, hlate, Nat.zero_add]
    exact ⟨.moving (hstarted.trans htime) hmoving rfl, hlow⟩

/-- A tick in time: the next stage, and the end of the pulses that are on from the start on. -/
theorem stage_step {q₀ : MotionQueue} {late : ℕ} (hq₀ : Waiting config segment n q₀)
    (hsucceeds : io.Succeeds) (hclear : io.Clear) (hroomy : Roomy config segment)
    (hstage : Stage segment n q₀ time late e.queue)
    (hnext : nowNs.toNat < segment.startTimeNs.toNat ∨
      time < nowNs.toNat ∧ nowNs.toNat ≤ time + timerPeriod config)
    (hlater : segment.startTimeNs.toNat ≤ time → time < nowNs.toNat) :
    Stage segment n q₀ nowNs.toNat
        (late + if segment.startTimeNs.toNat + segment.durationNs.toNat ≤ nowNs.toNat then 1 else 0)
        (tick config io e nowNs).2.queue ∧
      (segment.startTimeNs.toNat ≤ time → ∀ axis < n, e.queue.stepHigh axis = true →
        (tick config io e nowNs).2.queue.stepHigh axis = false) := by
  by_cases hearly : nowNs.toNat < segment.startTimeNs.toNat
  · -- The start has not come.
    cases hstage with
    | waiting hsame hbefore hlate =>
      have hwaits : (tick config io e nowNs).2.queue = e.queue := by
        refine tick_waiting hsucceeds hclear ?_ ?_ ?_ (UInt64.lt_iff_toNat_lt.2 hearly)
        · rw [hsame, hq₀.fault]
        · rw [hsame, (hq₀.front_of_ring rfl).1]
        · rw [hsame, hq₀.armed]
      rw [hwaits, if_neg (by omega)]
      exact ⟨.waiting hsame hearly hlate, fun hstarted => absurd hbefore (not_lt.2 hstarted)⟩
    | moving hstarted => exact absurd (hlater hstarted) (by omega)
    | passed hended => exact absurd (hlater (by omega)) (by omega)
  · obtain ⟨hlt, hperiod⟩ := hnext.resolve_left hearly
    cases hstage with
    | waiting hsame hbefore hlate =>
      have hpos := hq₀.admitted.duration_pos
      have hfirst : late = if segment.startTimeNs.toNat + segment.durationNs.toNat ≤
          segment.startTimeNs.toNat then 1 else 0 := by
        rw [if_neg (by omega)]
        exact hlate
      have hstep := stage_loop hq₀ hsucceeds hclear hroomy (.inl ⟨hsame, rfl⟩) (not_lt.1 hearly)
        (by omega) le_rfl hfirst
      -- The tick comes within a period of the start.
      exact ⟨hstep.1, fun _ => hstep.2⟩
    | moving hstarted hmoving hlate =>
      have hstep := stage_loop hq₀ hsucceeds hclear hroomy (.inr hmoving) hlt.le hperiod hstarted
        hlate
      exact ⟨hstep.1, fun _ => hstep.2⟩
    -- After the segment the queue is empty, and the tick holds the outputs low.
    | passed hended hpassed =>
      obtain ⟨e', hqueue, htick⟩ : ∃ e' : Executor W, e'.queue = e.queue ∧
          (tick config io e nowNs).2 = stopOutputs io e' :=
        tick_empty hsucceeds hclear hpassed.size
      rw [htick]
      have hstopped : Passed segment n q₀ (stopOutputs io e').queue :=
        Passed.stopped (hqueue.symm ▸ hpassed)
      exact ⟨.passed (hended.trans hlt.le) hstopped,
        fun _ axis haxis _ => hstopped.low axis haxis⟩

end Executor

/-! ## Runs -/

/-- The ticks begin before the start of a segment and are at most one period apart. -/
structure Timely (config : MotionConfig) (startTimeNs : UInt64) (times : List UInt64) : Prop where
  /-- The first tick comes before the start of the segment. -/
  first : ∀ first ∈ times.head?, first < startTimeNs
  /-- Each further tick comes within one period of the one before it. -/
  gaps : times.IsChain fun before after =>
    before < after ∧ after.toNat - before.toNat ≤ timerPeriod config

/-- The queue behind the ticks at these times. -/
def ticksFrom (config : MotionConfig) (io : MotionIo W) (e : Executor W) (times : List UInt64) :
    MotionQueue :=
  ((motionOutputs config io).run e (times.map .tick)).queue

/-- The ticks at these times spread the steps of a segment evenly over its duration. -/
structure Spread (config : MotionConfig) (io : MotionIo W) (segment : MotionSegment)
    (e : Executor W) (times : List UInt64) : Prop where
  /-- Until its end the steps emitted are those of the division. -/
  even : ∀ nowNs ∈ times.getLast?, segment.startTimeNs ≤ nowNs →
    nowNs.toNat ≤ segment.startTimeNs.toNat + segment.durationNs.toNat →
    ∀ axis < e.queue.axisCount.toNat,
      ((ticksFrom config io e times).activeEmitted axis).toNat =
        (segment.steps axis).toInt.natAbs * (nowNs.toNat - segment.startTimeNs.toNat) /
          segment.durationNs.toNat
  /-- A step output that is raised is lowered by the next tick. -/
  lowered : ∀ before thenNs nowNs, times = before ++ [thenNs, nowNs] →
    segment.startTimeNs ≤ thenNs → ∀ axis < e.queue.axisCount.toNat,
      (ticksFrom config io e (before ++ [thenNs])).stepHigh axis = true →
        (ticksFrom config io e times).stepHigh axis = false
  /-- There is no fault before the segment is completed. -/
  faultless : (ticksFrom config io e times).completedSegments = e.queue.completedSegments →
    (ticksFrom config io e times).fault = .none
  /-- The segment is completed with the steps it has. -/
  whole : (ticksFrom config io e times).completedSegments ≠ e.queue.completedSegments →
    (ticksFrom config io e times).completedSegments = e.queue.completedSegments + 1 ∧
      ∀ axis < e.queue.axisCount.toNat, (ticksFrom config io e times).emittedSteps axis =
        e.queue.emittedSteps axis + UInt64.ofNat (segment.steps axis).toInt.natAbs
  /-- The segment is completed with the second tick at or behind its end, at the latest. -/
  prompt : 2 ≤ times.countP (fun nowNs =>
      segment.startTimeNs.toNat + segment.durationNs.toNat ≤ nowNs.toNat) →
    (ticksFrom config io e times).completedSegments = e.queue.completedSegments + 1

namespace Executor

variable {e : Executor W} {q₀ : MotionQueue}

/-- In whatever way the timely ticks fall, the run is in one of the stages. -/
theorem stage_run (hq₀ : Waiting config segment n q₀) (hsucceeds : io.Succeeds)
    (hclear : io.Clear) (hroomy : Roomy config segment) {times : List UInt64} {late : ℕ}
    {lastNs : UInt64} (hstage : Stage segment n q₀ lastNs.toNat late e.queue)
    (hnext : ∀ first ∈ times.head?, first < segment.startTimeNs ∨
      lastNs < first ∧ first.toNat - lastNs.toNat ≤ timerPeriod config)
    (hlater : segment.startTimeNs ≤ lastNs → ∀ first ∈ times.head?, lastNs < first)
    (hgaps : times.IsChain fun before after =>
      before < after ∧ after.toNat - before.toNat ≤ timerPeriod config) :
    Stage segment n q₀ (times.getLastD lastNs).toNat
      (late + times.countP fun nowNs =>
        segment.startTimeNs.toNat + segment.durationNs.toNat ≤ nowNs.toNat)
      (ticksFrom config io e times) := by
  induction times generalizing e lastNs late with
  | nil => exact hstage
  | cons nowNs times ih =>
    -- The first tick is timely behind the last one.
    have hfirst : nowNs.toNat < segment.startTimeNs.toNat ∨
        lastNs.toNat < nowNs.toNat ∧ nowNs.toNat ≤ lastNs.toNat + timerPeriod config := by
      rcases hnext nowNs rfl with hearly | ⟨hlt, hle⟩
      · exact .inl (UInt64.lt_iff_toNat_lt.1 hearly)
      · rw [UInt64.lt_iff_toNat_lt] at hlt
        exact .inr ⟨hlt, by omega⟩
    have hafter : segment.startTimeNs.toNat ≤ lastNs.toNat → lastNs.toNat < nowNs.toNat :=
      fun hstarted =>
        UInt64.lt_iff_toNat_lt.1 (hlater (UInt64.le_iff_toNat_le.2 hstarted) nowNs rfl)
    obtain ⟨hstep, -⟩ := stage_step hq₀ hsucceeds hclear hroomy hstage hfirst hafter
    rw [List.isChain_cons] at hgaps
    -- The ticks behind it are timely behind it.
    have hrest := ih (e := (tick config io e nowNs).2) hstep
      (fun first hmem => .inr (hgaps.1 first hmem)) (fun _ first hmem => (hgaps.1 first hmem).1)
      hgaps.2
    -- A tick counts as late if it comes at the end of the segment or behind it.
    have hcount : late + (nowNs :: times).countP (fun nowNs =>
        segment.startTimeNs.toNat + segment.durationNs.toNat ≤ nowNs.toNat) =
        (late + if segment.startTimeNs.toNat + segment.durationNs.toNat ≤ nowNs.toNat then 1
          else 0) + times.countP (fun nowNs =>
        segment.startTimeNs.toNat + segment.durationNs.toNat ≤ nowNs.toNat) := by
      rw [List.countP_cons]
      simp only [decide_eq_true_eq]
      omega
    rw [hcount]
    have hlast : (nowNs :: times).getLastD lastNs = times.getLastD nowNs := by
      cases times <;> rfl
    rw [hlast]
    exact hrest

/-- Ticks and one more tick are the tick behind the ticks. -/
theorem ticksFrom_concat (e : Executor W) (before : List UInt64) (nowNs : UInt64) :
    ticksFrom config io e (before ++ [nowNs]) =
      (tick config io ((motionOutputs config io).run e (before.map .tick)) nowNs).2.queue := by
  unfold ticksFrom
  rw [List.map_append, List.map_singleton, Machine.run_concat]
  rfl

/-- The stage of a segment behind ticks in time. -/
theorem stage_of_timely (hq₀ : Waiting config segment n e.queue) (hsucceeds : io.Succeeds)
    (hclear : io.Clear) (hroomy : Roomy config segment) (hstart : 0 < segment.startTimeNs)
    {times : List UInt64} (htimely : Timely config segment.startTimeNs times) :
    Stage segment n e.queue (times.getLastD 0).toNat
      (times.countP fun nowNs =>
        segment.startTimeNs.toNat + segment.durationNs.toNat ≤ nowNs.toNat)
      (ticksFrom config io e times) := by
  have hfirst : Stage segment n e.queue (0 : UInt64).toNat 0 e.queue :=
    .waiting rfl (UInt64.lt_iff_toNat_lt.1 hstart) rfl
  have hrun := stage_run hq₀ hsucceeds hclear hroomy hfirst
    (fun first hmem => .inl (htimely.first first hmem))
    (fun hle => absurd hle (UInt64.not_le.2 hstart)) htimely.gaps
  rwa [Nat.zero_add] at hrun

/-- Ticks in time spread the steps evenly, if there is room for a period above the duration. -/
theorem spread_of_roomy (hq₀ : Waiting config segment n e.queue) (hsucceeds : io.Succeeds)
    (hclear : io.Clear) (hroomy : Roomy config segment) (hstart : 0 < segment.startTimeNs)
    {times : List UInt64} (htimely : Timely config segment.startTimeNs times) :
    Spread config io segment e times := by
  have hstage : Stage segment n e.queue _ _ (ticksFrom config io e times) :=
    stage_of_timely hq₀ hsucceeds hclear hroomy hstart htimely
  have hpos := hq₀.admitted.duration_pos
  -- A segment that is still moving has not been counted, and the counter cannot come back.
  have hcounted : ∀ time q, Moving segment n e.queue time q →
      q.completedSegments = e.queue.completedSegments := fun _ q hmoving =>
    (congrArg completedSegments hmoving.ring :
      q.ring.completedSegments = e.queue.ring.completedSegments)
  have hmore : e.queue.completedSegments + 1 ≠ e.queue.completedSegments := by
    intro heq
    have htoNat := congrArg UInt64.toNat heq
    rw [UInt64.toNat_add, UInt64.toNat_one] at htoNat
    have hlt := e.queue.completedSegments.toNat_lt
    omega
  constructor
  case even =>
    intro nowNs hmem hstarted hended axis haxis
    have hlast : times.getLastD 0 = nowNs := by
      rw [List.getLastD_eq_getLast?, hmem]
      rfl
    rw [hq₀.axisCount] at haxis
    rw [hlast] at hstage
    rw [UInt64.le_iff_toNat_le] at hstarted
    rw [← toNat_absoluteSteps]
    cases hstage with
    | waiting _ hearly => exact absurd hstarted (not_le.2 hearly)
    | moving _ hmoving =>
      -- The steps that are due have been emitted, and within the segment these are the rounded
      -- share of the steps.
      rw [hmoving.emitted_eq haxis]
      have hwithin : within segment nowNs.toNat = nowNs.toNat - segment.startTimeNs.toNat := by
        unfold within
        omega
      rw [hwithin]
    | passed hover hpassed =>
      have hall : nowNs.toNat - segment.startTimeNs.toNat = segment.durationNs.toNat := by omega
      rw [hpassed.active axis haxis, hall, Nat.mul_div_cancel _ hpos]
  case lowered =>
    rintro before thenNs nowNs rfl hstarted axis haxis hhigh
    rw [hq₀.axisCount] at haxis
    -- The last tick is one more stage of the ticks before it.
    have hsplit : before ++ [thenNs, nowNs] = (before ++ [thenNs]) ++ [nowNs] := by
      rw [List.append_assoc, List.singleton_append]
    rw [hsplit] at htimely ⊢
    have hgaps := List.isChain_append.1 htimely.gaps
    have htimely' : Timely config segment.startTimeNs (before ++ [thenNs]) := by
      refine ⟨fun first hmem => htimely.first first ?_, hgaps.1⟩
      rw [List.head?_append, hmem]
      rfl
    have hgap := hgaps.2.2 thenNs (by simp) nowNs rfl
    have hstage' : Stage segment n e.queue _ _ (ticksFrom config io e (before ++ [thenNs])) :=
      stage_of_timely hq₀ hsucceeds hclear hroomy hstart htimely'
    have hlast : (before ++ [thenNs]).getLastD 0 = thenNs := by simp
    rw [hlast] at hstage'
    rw [ticksFrom_concat]
    have hlt := UInt64.lt_iff_toNat_lt.1 hgap.1
    exact (stage_step hq₀ hsucceeds hclear hroomy hstage' (.inr ⟨hlt, by omega⟩)
      fun _ => hlt).2 (UInt64.le_iff_toNat_le.1 hstarted) axis haxis hhigh
  case faultless =>
    intro hsame
    cases hstage with
    | waiting hqueue => rw [hqueue, hq₀.fault]
    | moving _ hmoving => exact hmoving.fault hq₀
    | passed _ hpassed => exact absurd (hpassed.completed.symm.trans hsame) hmore
  case whole =>
    intro hother
    cases hstage with
    | waiting hqueue => exact absurd (by rw [hqueue]) hother
    | moving _ hmoving => exact absurd (hcounted _ _ hmoving) hother
    | passed _ hpassed =>
      exact ⟨hpassed.completed, fun axis haxis => hpassed.emitted axis (hq₀.axisCount ▸ haxis)⟩
  case prompt =>
    intro htwo
    cases hstage with
    | waiting _ _ hlate =>
      rw [hlate] at htwo
      omega
    | moving _ _ hlate =>
      rw [hlate] at htwo
      split at htwo <;> omega
    | passed _ hpassed => exact hpassed.completed

/-- The period of the timer is not so short. -/
theorem le_timerPeriod (config : MotionConfig) : 2000 ≤ timerPeriod config := by
  have hle := (timerHz_bounds config).2
  have hpos := (timerHz_bounds config).1
  exact (Nat.le_div_iff_mul_le (by omega)).2 (by omega)

/-- Without the room, a tick that comes in time aborts the motion before the segment is completed:
one that is a period less a nanosecond behind the start. -/
theorem abort_of_not_roomy (hq₀ : Waiting config segment n e.queue) (hsucceeds : io.Succeeds)
    (hclear : io.Clear) (hroomy : ¬Roomy config segment)
    {beforeNs : UInt64} (hbefore : beforeNs.toNat + 1 = segment.startTimeNs.toNat)
    (hnow : nowNs.toNat = beforeNs.toNat + timerPeriod config) :
    (ticksFrom config io e [beforeNs, nowNs]).fault = .underrun ∧
      (ticksFrom config io e [beforeNs, nowNs]).completedSegments = e.queue.completedSegments := by
  have hperiod := le_timerPeriod config
  have hperiod' := timerPeriod_le config
  have hend := hq₀.admitted.end_lt
  have hduration := segment.durationNs.toNat_lt
  unfold Roomy at hroomy
  have hfront := (hq₀.front_of_ring rfl).1
  have hwaits : (tick config io e beforeNs).2.queue = e.queue :=
    tick_waiting hsucceeds hclear hq₀.fault hfront hq₀.armed
      (UInt64.lt_iff_toNat_lt.2 (by omega))
  obtain ⟨r, htick, hmoving, -, -, -⟩ : ∃ r : Executor W × Bool,
      (tick config io (tick config io e beforeNs).2 nowNs).2 =
        (finishTick config io segment r.1 r.2 nowNs).2 ∧
      Moving segment n e.queue nowNs.toNat r.1.queue ∧ _ ∧ _ ∧ _ :=
    tick_loop hq₀ hsucceeds hclear (.inl ⟨hwaits, rfl⟩) (by omega) (by omega)
  -- The segment has not ended, and the bound has wrapped around.
  have hrunning : ¬(elapsed segment nowNs ≥ segment.durationNs ∧ r.2 = true) := by
    rintro ⟨hover, -⟩
    rw [ge_iff_le, UInt64.le_iff_toNat_le, toNat_elapsed] at hover
    omega
  have hwrapped : elapsed segment nowNs > segment.durationNs + 1000000000 / config.timerHz := by
    rw [gt_iff_lt, UInt64.lt_iff_toNat_lt, toNat_elapsed, UInt64.toNat_add, toNat_timerPeriod]
    omega
  have hcounted : r.1.queue.completedSegments = e.queue.completedSegments :=
    (congrArg completedSegments hmoving.ring :
      r.1.queue.ring.completedSegments = e.queue.ring.completedSegments)
  have hlast : ticksFrom config io e [beforeNs, nowNs] =
      (finishTick config io segment r.1 r.2 nowNs).2.queue := congrArg Executor.queue htick
  rw [hlast, ← hcounted]
  unfold finishTick
  dsimp only
  rw [if_neg hrunning, if_pos hwrapped]
  exact ⟨(stopOutputs_agrees _).fault, (stopOutputs_agrees _).completedSegments⟩

/-- Ticks in time spread the steps evenly only if there is room for a period above the duration. -/
theorem roomy_of_spread (hq₀ : Waiting config segment n e.queue) (hsucceeds : io.Succeeds)
    (hclear : io.Clear) (hstart : 0 < segment.startTimeNs)
    (h : ∀ times, Timely config segment.startTimeNs times → Spread config io segment e times) :
    Roomy config segment := by
  by_contra hroomy
  have hperiod := le_timerPeriod config
  have hend := hq₀.admitted.end_lt
  have hpos := UInt64.lt_iff_toNat_lt.1 hstart
  rw [UInt64.toNat_zero] at hpos
  have hlong := hroomy
  unfold Roomy at hlong
  have hbefore : (segment.startTimeNs - 1).toNat + 1 = segment.startTimeNs.toNat := by
    rw [UInt64.toNat_sub_of_le _ _ (by rw [UInt64.le_iff_toNat_le, UInt64.toNat_one]; omega),
      UInt64.toNat_one]
    omega
  have hperiod' := timerPeriod_le config
  have hnow : (UInt64.ofNat ((segment.startTimeNs - 1).toNat + timerPeriod config)).toNat =
      (segment.startTimeNs - 1).toNat + timerPeriod config :=
    UInt64.toNat_ofNat_of_lt' (by show _ < 2^64; omega)
  generalize segment.startTimeNs - 1 = beforeNs at hbefore hnow
  generalize UInt64.ofNat (beforeNs.toNat + timerPeriod config) = nowNs at hnow
  have htimely : Timely config segment.startTimeNs [beforeNs, nowNs] := by
    refine ⟨fun first hmem => ?_, ?_⟩
    · obtain rfl := Option.some.inj hmem
      rw [UInt64.lt_iff_toNat_lt]
      omega
    · rw [List.isChain_pair, UInt64.lt_iff_toNat_lt]
      omega
  obtain ⟨hfault, hsame⟩ := abort_of_not_roomy hq₀ hsucceeds hclear hroomy hbefore hnow
  have hnone := (h _ htimely).faultless hsame
  rw [hfault] at hnone
  cases hnone

/-- The segment that an idle queue accepts waits at its front. -/
theorem waiting_of_accepted {q : MotionQueue} (horder : q.RingOrder config)
    (haxes : q.axisCount.toNat = n) (hidle : q.state = .idle) {requested : MotionSegment}
    (haccepted : (q.enqueue config requested nowNs).2.1 = some segment) :
    Waiting config segment n (q.enqueue config requested nowNs).2.2 := by
  have hsize := horder.idle hidle
  unfold MotionQueue.enqueue at haccepted ⊢
  cases hvalidate : q.validate config requested nowNs with
  | error rejection =>
    rw [hvalidate] at haccepted
    cases haccepted
  | ok startTimeNs =>
    rw [hvalidate] at haccepted
    obtain rfl := Option.some.inj haccepted
    have hspec := validate_spec hvalidate
    refine ⟨hspec.fault, ?_, ?_, rfl, haxes, haxes ▸ hspec.admitted⟩
    · show q.size + 1 = 1
      rw [hsize]
    · have hplace : q.tailIndex config = q.head := by
        unfold MotionQueue.tailIndex
        rw [hsize, Nat.add_zero, Nat.mod_eq_of_lt horder.head_lt]
      show Function.update q.segments (q.tailIndex config) _ q.head = _
      rw [hplace, Function.update_self]

end Executor

/-- A segment that an idle queue accepts is spread evenly by all ticks that come in time, if and
only if there is room for a period of the timer above its duration. -/
theorem spread_iff (config : MotionConfig) (hlead : 100 ≤ config.minLeadTimeUs) (io : MotionIo W)
    (hsucceeds : io.Succeeds) (hclear : io.Clear) (axisCount : UInt8) (queue : MotionQueue)
    (hinit : MotionQueue.init config axisCount = some queue) (world : W) (ops : List (MotionOp W))
    (e : Executor W) (hrun : (motionOutputs config io).run ⟨queue, world⟩ ops = e)
    (hidle : e.queue.state = .idle) (requested segment : MotionSegment) (nowNs : UInt64)
    (haccepted : (e.queue.enqueue config requested nowNs).2.1 = some segment) :
    (∀ times, Timely config segment.startTimeNs times →
      Spread config io segment (e.withQueue (e.queue.enqueue config requested nowNs).2.2) times) ↔
      Roomy config segment := by
  have hkept : e.queue.RingOrder config ∧ e.queue.Safe axisCount.toNat := by
    rw [← hrun]
    exact Executor.kept_run hinit world ops
  have hwaiting : Executor.Waiting config segment axisCount.toNat
      (e.withQueue (e.queue.enqueue config requested nowNs).2.2).queue :=
    Executor.waiting_of_accepted hkept.1 hkept.2.axisCount hidle haccepted
  have hstart : 0 < segment.startTimeNs := by
    have hle := hwaiting.admitted.lead
    have hmin : 100 ≤ config.minLeadTimeUs.toNat := UInt64.le_iff_toNat_le.1 hlead
    unfold leadNs at hle
    rw [UInt64.lt_iff_toNat_lt, UInt64.toNat_zero]
    omega
  exact ⟨Executor.roomy_of_spread hwaiting hsucceeds hclear hstart,
    fun hroomy _ htimely =>
      Executor.spread_of_roomy hwaiting hsucceeds hclear hroomy hstart htimely⟩

/-- The first ticks of two steps. -/
theorem spread_iff_two_steps :
    Spread testMotionConfig steadyIo (twoSteps 1 1000000 true)
      ((⟨singleAxis, ()⟩ : Executor Unit).withQueue
        (singleAxis.enqueue testMotionConfig (twoSteps 1 1000000 true) 0).2.2)
      [995000, 1005000, 1015000] := by
  have hiff := spread_iff testMotionConfig (by decide) steadyIo steadyIo_succeeds nofun 1 singleAxis
    rfl () [] ⟨singleAxis, ()⟩ rfl rfl (twoSteps 1 1000000 true) (twoSteps 1 1000000 true) 0 rfl
  refine hiff.2 (by decide) _ ⟨fun first hmem => ?_, ?_⟩
  · obtain rfl := Option.some.inj hmem
    decide
  · rw [List.isChain_cons_cons, List.isChain_pair]
    decide

/-- The longest segment that can be announced with a slow timer, with a step. -/
def longStep : MotionSegment := ⟨1, 100000, 0xFFFFFFFFFFFFFFFF - 100000, 1, true, fun _ => 1⟩

/-- With a slow timer the segment is aborted less than a period behind its start. -/
theorem not_spread_when_slow :
    (singleAxis.enqueue slowMotionConfig longStep 0).2.1 = some longStep ∧
      ¬∀ times, Timely slowMotionConfig 100000 times →
        Spread slowMotionConfig steadyIo longStep
          ((⟨singleAxis, ()⟩ : Executor Unit).withQueue
            (singleAxis.enqueue slowMotionConfig longStep 0).2.2) times := by
  refine ⟨rfl, fun h => ?_⟩
  have htimely : Timely slowMotionConfig 100000 [99999, 1099999] := by
    refine ⟨fun first hmem => ?_, ?_⟩
    · obtain rfl := Option.some.inj hmem
      decide
    · rw [List.isChain_pair]
      decide
  have hnone := (h _ htimely).faultless (by decide +kernel)
  revert hnone
  decide +kernel

end RemoteBSP.Firmware
