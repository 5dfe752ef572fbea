import RemoteBSP.Lib.Dda
import RemoteBSP.Firmware.MotionRing

/-!
# The steps of a motion tick, exactly

What the loop of `rbsp_motion_tick` over the axes does to the queue and what it calls, as a function
of the queue: it `lowered` the step output of an axis, has `advanced` its phase and `raised` the
output again if a step is due, which together is `pulsed`. The loop does this axis after axis,
unless a phase overflows or a callback fails (`emitSteps_pulse`).

An axis is a DDA, as long as its phase does not overflow (`dda_pulsed`).
-/

namespace RemoteBSP.Firmware

/-- No callback of the outputs or the limits ever fails. -/
structure MotionIo.Succeeds {W : Type} (io : MotionIo W) : Prop where
  /-- Enabling or disabling a driver never fails. -/
  setEnable : ∀ world axis enabled, (io.setEnable world axis enabled).1 = true
  /-- Setting a direction output never fails. -/
  setDirection : ∀ world axis positive, (io.setDirection world axis positive).1 = true
  /-- Raising or lowering a step output never fails. -/
  setStep : ∀ world axis level, (io.setStep world axis level).1 = true
  /-- Reading a limit switch never fails. -/
  limitActive : ∀ read ∈ io.limitActive, ∀ world axis, (read world axis).1.1 = true

/-- The callbacks of a test succeed. -/
theorem steadyIo_succeeds : steadyIo.Succeeds :=
  ⟨fun _ _ _ => rfl, fun _ _ _ => rfl, fun _ _ _ => rfl, nofun⟩

namespace MotionQueue

/-! ## One axis -/

/-- The DDA of an axis: its phase and the steps emitted of the active segment. -/
def dda (q : MotionQueue) (axis : ℕ) : Dda.State :=
  ⟨(q.activePhase axis).toNat, (q.activeEmitted axis).toNat, q.stepHigh axis⟩

/-- The phase of an axis overflows when it advances. -/
def Overflows (segment : MotionSegment) (deltaNs : UInt64) (q : MotionQueue) (axis : ℕ) : Prop :=
  absoluteSteps (segment.steps axis) ≠ 0 ∧ deltaNs ≠ 0 ∧
    0xFFFFFFFFFFFFFFFF - q.activePhase axis < absoluteSteps (segment.steps axis) * deltaNs

/-- The phase of an axis behind the tick, before a step is made. -/
def phaseBehind (segment : MotionSegment) (deltaNs : UInt64) (q : MotionQueue) (axis : ℕ) :
    UInt64 :=
  if absoluteSteps (segment.steps axis) ≠ 0 ∧ deltaNs ≠ 0 then
    q.activePhase axis + absoluteSteps (segment.steps axis) * deltaNs
  else q.activePhase axis

/-- A step of an axis is due. -/
def Due (segment : MotionSegment) (deltaNs : UInt64) (q : MotionQueue) (axis : ℕ) : Prop :=
  q.activeEmitted axis < absoluteSteps (segment.steps axis) ∧
    phaseBehind segment deltaNs q axis ≥ segment.durationNs

/-- All steps of an axis have been made, and the last pulse has ended. -/
def Finished (segment : MotionSegment) (q : MotionQueue) (axis : ℕ) : Prop :=
  q.activeEmitted axis = absoluteSteps (segment.steps axis) ∧ q.stepHigh axis = false

/-- Whether a phase overflows is computed. -/
instance (segment : MotionSegment) (deltaNs : UInt64) (q : MotionQueue) (axis : ℕ) :
    Decidable (Overflows segment deltaNs q axis) :=
  inferInstanceAs (Decidable (_ ∧ _ ∧ _))

/-- Whether a step is due is computed. -/
instance (segment : MotionSegment) (deltaNs : UInt64) (q : MotionQueue) (axis : ℕ) :
    Decidable (Due segment deltaNs q axis) :=
  inferInstanceAs (Decidable (_ ∧ _))

/-- The steps of an axis can be checked. -/
instance (segment : MotionSegment) (q : MotionQueue) (axis : ℕ) :
    Decidable (Finished segment q axis) :=
  inferInstanceAs (Decidable (_ ∧ _))

/-- The queue with the step output of an axis lowered. -/
def lowered (q : MotionQueue) (axis : ℕ) : MotionQueue :=
  if q.stepHigh axis then
    { q with
      stepHigh := Function.update q.stepHigh axis false
      emittedEdges := q.emittedEdges + 1 }
  else q

/-- The queue with the phase of an axis advanced. -/
def advanced (segment : MotionSegment) (deltaNs : UInt64) (q : MotionQueue) (axis : ℕ) :
    MotionQueue :=
  if absoluteSteps (segment.steps axis) ≠ 0 ∧ deltaNs ≠ 0 then
    { q with
      activePhase := Function.update q.activePhase axis
        (q.activePhase axis + absoluteSteps (segment.steps axis) * deltaNs) }
  else q

/-- The queue with the step that is due made. -/
def raised (segment : MotionSegment) (q : MotionQueue) (axis : ℕ) : MotionQueue :=
  if q.activeEmitted axis < absoluteSteps (segment.steps axis) ∧
      q.activePhase axis ≥ segment.durationNs then
    { q with
      activePhase := Function.update q.activePhase axis (q.activePhase axis - segment.durationNs)
      stepHigh := Function.update q.stepHigh axis true
      activeEmitted := Function.update q.activeEmitted axis (q.activeEmitted axis + 1)
      emittedSteps := Function.update q.emittedSteps axis (q.emittedSteps axis + 1)
      emittedEdges := q.emittedEdges + 1
      positionSteps := Function.update q.positionSteps axis
        (q.positionSteps axis + if q.directionPositive axis then 1 else -1) }
  else q

/-- What an iteration of the loop does to the queue. -/
def pulsed (segment : MotionSegment) (deltaNs : UInt64) (q : MotionQueue) (axis : ℕ) :
    MotionQueue :=
  raised segment (advanced segment deltaNs (q.lowered axis) axis) axis

/-- The queue when a tick comes to the loop: a segment that starts has its counters reset. -/
def opening (segment : MotionSegment) (q : MotionQueue) : MotionQueue :=
  if q.state = .armed then
    { q with
      activeEmitted := fun _ => 0
      activePhase := fun _ => 0
      activeLastTickNs := segment.startTimeNs }
  else q

/-- The call that ends a pulse. -/
def lowerCalls (q : MotionQueue) (axis : ℕ) : List (MotionFault × MotionCall) :=
  if q.stepHigh axis then [(.none, .setStep axis false)] else []

/-- The calls of an iteration of the loop. -/
def pulseCalls (segment : MotionSegment) (deltaNs : UInt64) (q : MotionQueue) (axis : ℕ) :
    List (MotionFault × MotionCall) :=
  q.lowerCalls axis ++ if Due segment deltaNs q axis then [(.none, .setStep axis true)] else []

variable {segment : MotionSegment} {deltaNs : UInt64} {q : MotionQueue} {axis a : ℕ}

/-- What the loop reads of an axis. -/
def readings (q : MotionQueue) (a : ℕ) : UInt64 × UInt64 × Bool :=
  (q.activePhase a, q.activeEmitted a, q.stepHigh a)

/-- Lowering a step output is about its axis. -/
theorem readings_lowered (q : MotionQueue) (axis a : ℕ) : (q.lowered axis).readings a =
    (q.activePhase a, q.activeEmitted a, if a = axis then false else q.stepHigh a) := by
  unfold lowered readings
  by_cases ha : a = axis
  · subst ha
    split
    · simp
    · next hlow => simp [Bool.not_eq_true _ ▸ hlow]
  · split <;> simp [ha]

/-- Advancing a phase is about its axis. -/
theorem readings_advanced (segment : MotionSegment) (deltaNs : UInt64) (q : MotionQueue)
    (axis a : ℕ) : (advanced segment deltaNs q axis).readings a =
      (if a = axis then phaseBehind segment deltaNs q axis else q.activePhase a,
        q.activeEmitted a, q.stepHigh a) := by
  unfold advanced phaseBehind readings
  by_cases ha : a = axis
  · subst ha
    split <;> simp
  · split <;> simp [ha]

/-- Making a step is about its axis. -/
theorem readings_raised (segment : MotionSegment) (q : MotionQueue) (axis a : ℕ) :
    (raised segment q axis).readings a =
      if a = axis ∧ q.activeEmitted axis < absoluteSteps (segment.steps axis) ∧
          q.activePhase axis ≥ segment.durationNs then
        (q.activePhase a - segment.durationNs, q.activeEmitted a + 1, true)
      else q.readings a := by
  unfold raised readings
  by_cases ha : a = axis
  · subst ha
    split
    · next hdue => simp [hdue]
    · next hdue => simp only [true_and, if_neg hdue]
  · split <;> simp [ha]

/-- What an iteration does to its axis, and that it leaves the others alone. -/
theorem readings_pulsed (segment : MotionSegment) (deltaNs : UInt64) (q : MotionQueue)
    (axis a : ℕ) : (pulsed segment deltaNs q axis).readings a =
      if a = axis then
        if Due segment deltaNs q axis then
          (phaseBehind segment deltaNs q axis - segment.durationNs, q.activeEmitted axis + 1, true)
        else (phaseBehind segment deltaNs q axis, q.activeEmitted axis, false)
      else q.readings a := by
  have hlower : ∀ a, _ := readings_lowered q axis
  have hadvance := readings_advanced segment deltaNs (q.lowered axis) axis
  have hbehind : phaseBehind segment deltaNs (q.lowered axis) axis =
      phaseBehind segment deltaNs q axis := by
    unfold phaseBehind
    rw [show (q.lowered axis).activePhase axis = q.activePhase axis from
      congrArg Prod.fst (hlower axis)]
  unfold readings at hlower hadvance
  simp only [Prod.mk.injEq] at hlower hadvance
  obtain ⟨hphase, hemitted, hhigh⟩ := hlower a
  obtain ⟨hphase', hemitted', hhigh'⟩ := hadvance a
  obtain ⟨haxisPhase, haxisEmitted, -⟩ := hadvance axis
  unfold pulsed
  rw [readings_raised, haxisPhase, haxisEmitted, (hlower axis).2.1, if_pos rfl, hbehind]
  by_cases ha : a = axis
  · subst ha
    by_cases hdue : Due segment deltaNs q a
    · have hboth : a = a ∧ q.activeEmitted a < absoluteSteps (segment.steps a) ∧
          phaseBehind segment deltaNs q a ≥ segment.durationNs := ⟨rfl, hdue⟩
      rw [if_pos hboth, if_pos rfl, if_pos hdue, hphase', hemitted', hemitted, if_pos rfl, hbehind]
    · have hnot : ¬(a = a ∧ q.activeEmitted a < absoluteSteps (segment.steps a) ∧
          phaseBehind segment deltaNs q a ≥ segment.durationNs) := fun h => hdue h.2
      unfold readings
      rw [if_neg hnot, if_pos rfl, if_neg hdue, hphase', hemitted', hhigh', hemitted, hhigh,
        if_pos rfl, if_pos rfl, hbehind]
  · rw [if_neg (fun h => ha h.1), if_neg ha]
    unfold readings
    rw [hphase', hemitted', hhigh', hphase, hemitted, hhigh, if_neg ha, if_neg ha]

/-- Whether the phase of an axis overflows depends on nothing but what is read of that axis. -/
theorem overflows_congr {q' : MotionQueue} (h : q'.readings axis = q.readings axis) :
    Overflows segment deltaNs q' axis ↔ Overflows segment deltaNs q axis := by
  unfold Overflows
  rw [show q'.activePhase axis = q.activePhase axis from congrArg Prod.fst h]

/-- The phase of an axis behind a tick depends on nothing but what is read of that axis. -/
theorem phaseBehind_congr {q' : MotionQueue} (h : q'.readings axis = q.readings axis) :
    phaseBehind segment deltaNs q' axis = phaseBehind segment deltaNs q axis := by
  unfold phaseBehind
  rw [show q'.activePhase axis = q.activePhase axis from congrArg Prod.fst h]

/-- Whether a step of an axis is due depends on nothing but what is read of that axis. -/
theorem due_congr {q' : MotionQueue} (h : q'.readings axis = q.readings axis) :
    Due segment deltaNs q' axis ↔ Due segment deltaNs q axis := by
  unfold Due
  rw [phaseBehind_congr h, show q'.activeEmitted axis = q.activeEmitted axis from
    congrArg (fun reading => reading.2.1) h]

/-- Whether the step output of an axis is lowered depends on nothing but what is read of that axis.
-/
theorem lowerCalls_congr {q' : MotionQueue} (h : q'.readings axis = q.readings axis) :
    q'.lowerCalls axis = q.lowerCalls axis := by
  unfold lowerCalls
  rw [show q'.stepHigh axis = q.stepHigh axis from congrArg (fun reading => reading.2.2) h]

/-- The pulse of an axis depends on nothing but what is read of that axis. -/
theorem pulseCalls_congr {q' : MotionQueue} (h : q'.readings axis = q.readings axis) :
    pulseCalls segment deltaNs q' axis = pulseCalls segment deltaNs q axis := by
  unfold pulseCalls
  rw [lowerCalls_congr h]
  exact congrArg _ (if_congr (due_congr h) rfl rfl)

/-- An axis whose phase does not overflow is a DDA. -/
theorem dda_pulsed (hfits : ¬Overflows segment deltaNs q axis)
    (hincrement : (absoluteSteps (segment.steps axis)).toNat * deltaNs.toNat < 2^64) :
    (pulsed segment deltaNs q axis).dda axis =
      Dda.tick (absoluteSteps (segment.steps axis)).toNat segment.durationNs.toNat deltaNs.toNat
        (q.dda axis) := by
  -- The phase behind the tick is the sum of the phase and the increment, without a wrap.
  have hbehind : (phaseBehind segment deltaNs q axis).toNat =
      (q.activePhase axis).toNat + (absoluteSteps (segment.steps axis)).toNat * deltaNs.toNat := by
    unfold phaseBehind
    have hmul : (absoluteSteps (segment.steps axis) * deltaNs).toNat =
        (absoluteSteps (segment.steps axis)).toNat * deltaNs.toNat := by
      rw [UInt64.toNat_mul, Nat.mod_eq_of_lt hincrement]
    split
    · next hsome =>
      have hsum := add_lt_of_not_lt fun hover => hfits ⟨hsome.1, hsome.2, hover⟩
      rw [hmul] at hsum
      rw [UInt64.toNat_add, hmul, Nat.mod_eq_of_lt hsum]
    · next hnone =>
      rcases not_and_or.1 hnone with hzero | hzero
      · rw [not_not.1 hzero, UInt64.toNat_zero, Nat.zero_mul, Nat.add_zero]
      · rw [not_not.1 hzero, UInt64.toNat_zero, Nat.mul_zero, Nat.add_zero]
  have hreadings := readings_pulsed segment deltaNs q axis axis
  rw [if_pos rfl] at hreadings
  -- So a step is due exactly if the DDA carries.
  have hdue : Due segment deltaNs q axis ↔
      (q.activeEmitted axis).toNat < (absoluteSteps (segment.steps axis)).toNat ∧
        segment.durationNs.toNat ≤ (q.activePhase axis).toNat +
          (absoluteSteps (segment.steps axis)).toNat * deltaNs.toNat := by
    unfold Due
    rw [UInt64.lt_iff_toNat_lt, ge_iff_le, UInt64.le_iff_toNat_le, hbehind]
  unfold Dda.tick dda
  dsimp only
  by_cases h : Due segment deltaNs q axis
  · rw [if_pos h] at hreadings
    obtain ⟨hphase, hemitted, hhigh⟩ : (pulsed segment deltaNs q axis).activePhase axis =
        phaseBehind segment deltaNs q axis - segment.durationNs ∧
        (pulsed segment deltaNs q axis).activeEmitted axis = q.activeEmitted axis + 1 ∧
        (pulsed segment deltaNs q axis).stepHigh axis = true := by
      simpa [readings] using hreadings
    have hbound := (absoluteSteps (segment.steps axis)).toNat_lt
    have hmore := (hdue.1 h).1
    rw [if_pos (hdue.1 h), hphase, hemitted, hhigh, UInt64.toNat_sub_of_le _ _ h.2, hbehind,
      UInt64.toNat_add, UInt64.toNat_one, Nat.mod_eq_of_lt (by omega)]
  · rw [if_neg h] at hreadings
    obtain ⟨hphase, hemitted, hhigh⟩ : (pulsed segment deltaNs q axis).activePhase axis =
        phaseBehind segment deltaNs q axis ∧
        (pulsed segment deltaNs q axis).activeEmitted axis = q.activeEmitted axis ∧
        (pulsed segment deltaNs q axis).stepHigh axis = false := by
      simpa [readings] using hreadings
    rw [if_neg (mt hdue.2 h), hphase, hemitted, hhigh, hbehind]

end MotionQueue

/-! ## The loop -/

namespace Executor

open MotionQueue

variable {W : Type} {io : MotionIo W} {segment : MotionSegment} {deltaNs : UInt64}
  {e : Executor (Recorded W)} {axis : ℕ}

/-- The exit is that of a callback that has failed. -/
def Failed (io : MotionIo W) (exit : Stop × Executor (Recorded W)) : Prop :=
  ¬io.Succeeds ∧ exit.1.fault = .aborted

/-- Ending a pulse lowers a step output that is high, or a callback has failed. -/
theorem lowerStep_pulse (e : Executor (Recorded W)) (axis : ℕ) :
    (lowerStep (recording io .none) e axis).Ends
      (fun e' => e'.queue = e.queue.lowered axis ∧
        e'.world.calls = e.world.calls ++ e.queue.lowerCalls axis) (Failed io) := by
  unfold lowerStep recording lowered lowerCalls
  dsimp only
  split
  · split
    · next hset =>
      obtain ⟨hdone, rfl⟩ := Prod.mk.inj hset
      exact ⟨fun hsucceeds => Bool.noConfusion ((hsucceeds.setStep _ _ _).symm.trans hdone), rfl⟩
    · next hset =>
      obtain ⟨-, rfl⟩ := Prod.mk.inj hset
      exact ⟨rfl, rfl⟩
  · exact ⟨rfl, (List.append_nil _).symm⟩

/-- Advancing a phase adds to it what the tick brings, or the phase overflows. -/
theorem advancePhase_pulse (segment : MotionSegment) (deltaNs : UInt64)
    (e : Executor (Recorded W)) (axis : ℕ) :
    (advancePhase segment deltaNs e axis).Ends
      (fun e' => ¬Overflows segment deltaNs e.queue axis ∧
        e'.queue = MotionQueue.advanced segment deltaNs e.queue axis ∧ e'.world = e.world)
      (fun exit => Overflows segment deltaNs e.queue axis ∧ exit = (⟨.underrun, false⟩, e)) := by
  unfold advancePhase MotionQueue.advanced Overflows
  dsimp only
  split
  · next hsome =>
    split
    · next hover => exact ⟨⟨hsome.1, hsome.2, hover⟩, rfl⟩
    · next hfits => exact ⟨fun hover => hfits hover.2.2, rfl, rfl⟩
  · next hnone => exact ⟨fun hover => hnone ⟨hover.1, hover.2.1⟩, rfl, rfl⟩

/-- Beginning a pulse raises the step output if a step is due, or a callback has failed. -/
theorem raiseStep_pulse (segment : MotionSegment) (e : Executor (Recorded W)) (axis : ℕ) :
    (raiseStep (recording io .none) segment e axis).Ends
      (fun e' => e'.queue = raised segment e.queue axis ∧
        e'.world.calls = e.world.calls ++
          if e.queue.activeEmitted axis < absoluteSteps (segment.steps axis) ∧
              e.queue.activePhase axis ≥ segment.durationNs then
            [(.none, .setStep axis true)]
          else []) (Failed io) := by
  unfold raiseStep raised
  by_cases hdue : e.queue.activeEmitted axis < absoluteSteps (segment.steps axis) ∧
      e.queue.activePhase axis ≥ segment.durationNs
  · rw [if_pos hdue, if_pos hdue, if_pos hdue]
    rcases hset : io.setStep e.world.world axis true with ⟨done, world⟩
    dsimp only
    rw [recording_setStep io .none hset]
    cases done with
    | false =>
      have hfailed := congrArg Prod.fst hset
      exact ⟨fun hsucceeds => Bool.noConfusion ((hsucceeds.setStep _ _ _).symm.trans hfailed), rfl⟩
    | true => exact ⟨rfl, rfl⟩
  · rw [if_neg hdue, if_neg hdue, if_neg hdue]
    exact ⟨rfl, (List.append_nil _).symm⟩

/-- The exit of an iteration: the phase overflows behind the end of a pulse, or a callback fails. -/
def PulseExit (io : MotionIo W) (segment : MotionSegment) (deltaNs : UInt64)
    (e : Executor (Recorded W)) (axis : ℕ) (exit : Stop × Executor (Recorded W)) : Prop :=
  Overflows segment deltaNs e.queue axis ∧ exit.1.fault = .underrun ∧
      exit.2.world.calls = e.world.calls ++ e.queue.lowerCalls axis ∨
    Failed io exit

/-- An iteration of the loop ends a pulse, advances the phase and begins a pulse. -/
theorem emitAxis_pulse (segment : MotionSegment) (deltaNs : UInt64)
    (r : Executor (Recorded W) × Bool) (axis : ℕ) :
    (emitAxis (recording io .none) segment deltaNs r axis).Ends
      (fun r' => ¬Overflows segment deltaNs r.1.queue axis ∧
        r'.1.queue = pulsed segment deltaNs r.1.queue axis ∧
        r'.1.world.calls = r.1.world.calls ++ pulseCalls segment deltaNs r.1.queue axis ∧
        (r'.2 = true ↔ r.2 = true ∧ Finished segment r'.1.queue axis))
      (PulseExit io segment deltaNs r.1 axis) := by
  unfold emitAxis
  -- First the pulse of the last step ends.
  refine ((lowerStep_pulse r.1 axis).mono (fun _ => id) fun _ => .inr).bind ?_
  rintro low ⟨hlow, hcalls⟩
  have hlowered := readings_lowered r.1.queue axis axis
  have hsame : Overflows segment deltaNs low.queue axis ↔
      Overflows segment deltaNs r.1.queue axis := by
    unfold Overflows
    rw [hlow, show (r.1.queue.lowered axis).activePhase axis = r.1.queue.activePhase axis from
      congrArg Prod.fst hlowered]
  -- Then the phase advances, unless it overflows.
  refine ((advancePhase_pulse segment deltaNs low axis).mono (fun _ => id) ?_).bind ?_
  · rintro exit ⟨hover, rfl⟩
    exact .inl ⟨hsame.1 hover, rfl, hcalls⟩
  rintro middle ⟨hfits, hmiddle, hworld⟩
  -- Then a pulse begins if a step is due.
  refine ((raiseStep_pulse segment middle axis).mono (fun _ => id) fun _ => .inr).bind ?_
  rintro high ⟨hhigh, hcalls'⟩
  have hqueue : high.queue = pulsed segment deltaNs r.1.queue axis := by
    rw [hhigh, hmiddle, hlow]
    rfl
  have hdue : (middle.queue.activeEmitted axis < absoluteSteps (segment.steps axis) ∧
      middle.queue.activePhase axis ≥ segment.durationNs) ↔
        Due segment deltaNs r.1.queue axis := by
    have hadvanced := readings_advanced segment deltaNs low.queue axis axis
    rw [← hmiddle, if_pos rfl] at hadvanced
    rw [← hlow] at hlowered
    unfold readings at hadvanced hlowered
    simp only [Prod.mk.injEq] at hadvanced hlowered
    unfold Due
    rw [hadvanced.1, hadvanced.2.1, hlowered.2.1]
    unfold phaseBehind
    rw [hlowered.1]
  have hall : high.world.calls =
      r.1.world.calls ++ pulseCalls segment deltaNs r.1.queue axis := by
    rw [hcalls', hworld, hcalls, List.append_assoc]
    unfold pulseCalls
    exact congrArg _ (congrArg _ (if_congr hdue rfl rfl))
  have hopen : (high.queue.activeEmitted axis ≠ absoluteSteps (segment.steps axis) ∨
      high.queue.stepHigh axis = true) ↔ ¬Finished segment high.queue axis := by
    unfold Finished
    rw [not_and_or, Bool.not_eq_false]
  split
  · next hnot =>
    exact ⟨mt hsame.2 hfits, hqueue, hall, nofun, fun h => absurd h.2 (hopen.1 hnot)⟩
  · next hdone =>
    have hfinished : Finished segment high.queue axis := not_not.1 (mt hopen.2 hdone)
    exact ⟨mt hsame.2 hfits, hqueue, hall, fun h => ⟨h, hfinished⟩, fun h => h.1⟩

/-- The queue that the loop over the axes begins with. -/
def ticked (segment : MotionSegment) (nowNs : UInt64) (q : MotionQueue) : MotionQueue :=
  { q with activeLastTickNs := segment.startTimeNs + boundedElapsed segment nowNs }

/-- The queue behind the loop over the first `k` axes. -/
def looped (segment : MotionSegment) (deltaNs : UInt64) (q : MotionQueue) (k : ℕ) : MotionQueue :=
  (List.range k).foldl (pulsed segment deltaNs) q

/-- The calls of the loop over the first `k` axes. -/
def loopCalls (segment : MotionSegment) (deltaNs : UInt64) (q : MotionQueue) (k : ℕ) :
    List (MotionFault × MotionCall) :=
  (List.range k).flatMap (pulseCalls segment deltaNs q)

/-- The loop over one more axis is its iteration behind the loop over the others. -/
theorem looped_succ (segment : MotionSegment) (deltaNs : UInt64) (q : MotionQueue) (k : ℕ) :
    looped segment deltaNs q (k + 1) = pulsed segment deltaNs (looped segment deltaNs q k) k := by
  unfold looped
  rw [List.range_succ, List.foldl_append]
  rfl

/-- One more iteration adds its calls to those of the iterations before. -/
theorem loopCalls_succ (segment : MotionSegment) (deltaNs : UInt64) (q : MotionQueue) (k : ℕ) :
    loopCalls segment deltaNs q (k + 1) =
      loopCalls segment deltaNs q k ++ pulseCalls segment deltaNs q k := by
  unfold loopCalls
  rw [List.range_succ, List.flatMap_append, List.flatMap_singleton]

/-- The loop has pulsed the axes that it has come to, and has left the others alone. -/
theorem readings_looped (segment : MotionSegment) (deltaNs : UInt64) (q : MotionQueue) (k a : ℕ) :
    (looped segment deltaNs q k).readings a =
      if a < k then (pulsed segment deltaNs q a).readings a else q.readings a := by
  induction k with
  | zero => exact (if_neg (Nat.not_lt_zero a)).symm
  | succ k ih =>
    rw [looped_succ, readings_pulsed]
    by_cases ha : a = k
    · subst ha
      rw [if_neg (lt_irrefl a)] at ih
      have hemitted := congrArg (fun reading => reading.2.1) ih
      dsimp only [readings] at hemitted
      rw [if_pos rfl, if_pos (Nat.lt_succ_self a), readings_pulsed, if_pos rfl,
        phaseBehind_congr ih, hemitted]
      exact if_congr (due_congr ih) rfl rfl
    · rw [if_neg ha, ih]
      exact if_congr ⟨fun h => h.trans (Nat.lt_succ_self k), fun h => by omega⟩ rfl rfl

/-- The iterations leave the time of the last tick alone. -/
theorem looped_last (segment : MotionSegment) (deltaNs : UInt64) (q : MotionQueue) (k : ℕ) :
    (looped segment deltaNs q k).activeLastTickNs = q.activeLastTickNs := by
  induction k with
  | zero => rfl
  | succ k ih =>
    rw [looped_succ, ← ih]
    unfold pulsed raised advanced lowered
    split <;> split <;> split <;> rfl

/-- What the loop reads of an axis that it has come to. -/
theorem readings_looped_self (segment : MotionSegment) (deltaNs : UInt64) (q : MotionQueue)
    (k : ℕ) : (looped segment deltaNs q k).readings k = q.readings k := by
  rw [readings_looped, if_neg (lt_irrefl k)]

/-- The exit of the loop: a phase overflows, or a callback fails. -/
def LoopExit (io : MotionIo W) (segment : MotionSegment) (deltaNs : UInt64) (q : MotionQueue)
    (calls : List (MotionFault × MotionCall)) (n : ℕ) (exit : Stop × Executor (Recorded W)) :
    Prop :=
  (∃ k < n, Overflows segment deltaNs q k ∧ (∀ a < k, ¬Overflows segment deltaNs q a) ∧
      exit.1.fault = .underrun ∧
      exit.2.world.calls = calls ++ loopCalls segment deltaNs q k ++ q.lowerCalls k) ∨
    Failed io exit

/-- The loop over the axes makes the calls of their iterations, one after the other. -/
theorem emitSteps_pulse (segment : MotionSegment) (e : Executor (Recorded W)) (nowNs : UInt64)
    {d : UInt64} (hd : Executor.deltaNs segment e.queue.activeLastTickNs nowNs = d) {n : ℕ}
    (hn : e.queue.axisCount.toNat = n) :
    (emitSteps (recording io .none) segment e nowNs).Ends
      (fun r => (∀ a < n, ¬Overflows segment d e.queue a) ∧
        r.1.queue = looped segment d (ticked segment nowNs e.queue) n ∧
        r.1.world.calls = e.world.calls ++ loopCalls segment d e.queue n ∧
        (r.2 = true ↔ ∀ a < n, Finished segment r.1.queue a))
      (LoopExit io segment d e.queue e.world.calls n) := by
  subst hd
  subst hn
  unfold emitSteps
  dsimp only
  -- The induction is on the axes that the loop has been through.
  have hreadings : ∀ a, (ticked segment nowNs e.queue).readings a = e.queue.readings a :=
    fun _ => rfl
  refine Except.Ends.mono (List.range_foldlM_ends (P := fun k (r : Executor (Recorded W) × Bool) =>
    (∀ a < k, ¬Overflows segment (Executor.deltaNs segment e.queue.activeLastTickNs nowNs)
      e.queue a) ∧
    r.1.queue = looped segment (Executor.deltaNs segment e.queue.activeLastTickNs nowNs)
      (ticked segment nowNs e.queue) k ∧
    r.1.world.calls = e.world.calls ++ loopCalls segment
      (Executor.deltaNs segment e.queue.activeLastTickNs nowNs) e.queue k ∧
    (r.2 = true ↔ ∀ a < k, Finished segment r.1.queue a))
    (fun k r hk hr => ?_) ?_) (fun _ hr => hr) fun _ => id
  · obtain ⟨hfits, hqueue, hcalls, hflag⟩ := hr
    have hself : r.1.queue.readings k = e.queue.readings k := by
      rw [hqueue, readings_looped_self, hreadings]
    have hpulse : (emitAxis (recording io .none) segment
        (Executor.deltaNs segment e.queue.activeLastTickNs nowNs) r k).Ends _ _ :=
      emitAxis_pulse segment _ r k
    refine hpulse.mono ?_ ?_
    · rintro r' ⟨hfit, hqueue', hcalls', hflag'⟩
      refine ⟨fun a ha => ?_, ?_, ?_, ?_⟩
      · rcases Nat.lt_succ_iff_lt_or_eq.1 ha with hlt | rfl
        · exact hfits a hlt
        · exact mt (overflows_congr hself).2 hfit
      · rw [hqueue', hqueue, looped_succ]
      · rw [hcalls', hcalls, pulseCalls_congr hself, loopCalls_succ, List.append_assoc]
      · -- An iteration leaves the axes before it alone.
        have hold : ∀ a < k, Finished segment r'.1.queue a ↔ Finished segment r.1.queue a := by
          intro a ha
          have hsame : r'.1.queue.readings a = r.1.queue.readings a := by
            rw [hqueue', readings_pulsed, if_neg (Nat.ne_of_lt ha)]
          unfold readings at hsame
          simp only [Prod.mk.injEq] at hsame
          unfold Finished
          rw [hsame.2.1, hsame.2.2]
        rw [hflag', hflag]
        constructor
        · rintro ⟨hall, hlast⟩ a ha
          rcases Nat.lt_succ_iff_lt_or_eq.1 ha with hlt | rfl
          · exact (hold a hlt).2 (hall a hlt)
          · exact hlast
        · intro hall
          exact ⟨fun a ha => (hold a ha).1 (hall a (ha.trans (Nat.lt_succ_self k))),
            hall k (Nat.lt_succ_self k)⟩
    -- A part that exits does so at the first axis that overflows or fails.
    · rintro exit (⟨hover, hfault, hcalls'⟩ | hfailed)
      · refine .inl ⟨k, hk, (overflows_congr hself).1 hover, hfits, hfault, ?_⟩
        rw [hcalls', hcalls, lowerCalls_congr hself]
      · exact .inr hfailed
  · refine ⟨fun a ha => absurd ha (Nat.not_lt_zero a), rfl, (List.append_nil _).symm, ?_⟩
    exact ⟨fun _ a ha => absurd ha (Nat.not_lt_zero a), fun _ => rfl⟩

/-- The loop over the axes, whatever the callbacks do to the world. -/
theorem emitSteps_ends (io : MotionIo W) (segment : MotionSegment) (e : Executor W)
    (nowNs : UInt64) {d : UInt64}
    (hd : Executor.deltaNs segment e.queue.activeLastTickNs nowNs = d) {n : ℕ}
    (hn : e.queue.axisCount.toNat = n) :
    (emitSteps io segment e nowNs).Ends
      (fun r => r.1.queue = looped segment d (ticked segment nowNs e.queue) n ∧
        (r.2 = true ↔ ∀ a < n, Finished segment r.1.queue a))
      (fun exit => (∃ k < n, Overflows segment d e.queue k) ∨
        ¬io.Succeeds ∧ exit.1.fault = .aborted) := by
  have hpulse : (emitSteps (recording io .none) segment ⟨e.queue, e.world, []⟩ nowNs).Ends _ _ :=
    emitSteps_pulse segment ⟨e.queue, e.world, []⟩ nowNs hd hn
  have hmirrors := emitSteps_mirrors io .none ⟨e.queue, e.world, []⟩ segment nowNs
  change Except.Alike _ _ _ (emitSteps io segment e nowNs) at hmirrors
  cases hrecorded : emitSteps (recording io .none) segment ⟨e.queue, e.world, []⟩ nowNs with
  | ok r =>
    rw [hrecorded] at hpulse hmirrors
    cases hplain : emitSteps io segment e nowNs with
    | ok r' =>
      rw [hplain] at hmirrors
      obtain rfl : (r.1.forget, r.2) = r' := hmirrors
      exact ⟨hpulse.2.1, hpulse.2.2.2⟩
    | error exit' =>
      rw [hplain] at hmirrors
      exact hmirrors.elim
  | error exit =>
    rw [hrecorded] at hpulse hmirrors
    cases hplain : emitSteps io segment e nowNs with
    | ok r' =>
      rw [hplain] at hmirrors
      exact hmirrors.elim
    | error exit' =>
      rw [hplain] at hmirrors
      obtain rfl : (exit.1, exit.2.forget) = exit' := hmirrors
      rcases hpulse with ⟨k, hk, hover, -⟩ | hfailed
      · exact .inl ⟨k, hk, hover⟩
      · exact .inr hfailed

/-! ## The start of a segment -/

variable {q : MotionQueue}

/-- What the loop reads, with the time of the last tick, is that of another queue. -/
structure ReadsAs (q : MotionQueue) (e : Executor W) : Prop where
  /-- Of each axis the queue of the executor reads as this one. -/
  readings : ∀ a, e.queue.readings a = q.readings a
  /-- The time of the last tick. -/
  last : e.queue.activeLastTickNs = q.activeLastTickNs
  /-- The queue of the executor has as many axes in use. -/
  axisCount : e.queue.axisCount = q.axisCount

/-- Setting a direction is not about the steps. -/
theorem setAxisDirection_readsAs {e : Executor W} (h : ReadsAs q e) (segment : MotionSegment)
    (axis : ℕ) : (setAxisDirection io segment e axis).Ends (ReadsAs q)
      (fun exit => ¬io.Succeeds ∧ exit.1.fault = .aborted) := by
  unfold setAxisDirection
  dsimp only
  split
  · next hset =>
    have hfailed := congrArg Prod.fst hset
    exact ⟨fun hsucceeds =>
      Bool.noConfusion ((hsucceeds.setDirection _ _ _).symm.trans hfailed), rfl⟩
  · exact ⟨h.readings, h.last, h.axisCount⟩

/-- Enabling a driver is not about the steps. -/
theorem setAxisEnabled_readsAs {e : Executor W} (h : ReadsAs q e) (segment : MotionSegment)
    (axis : ℕ) : (setAxisEnabled io segment e axis).Ends (ReadsAs q)
      (fun exit => ¬io.Succeeds ∧ exit.1.fault = .aborted) := by
  unfold setAxisEnabled
  dsimp only
  split
  · exact h
  · split
    · next hset =>
      have hfailed := congrArg Prod.fst hset
      exact ⟨fun hsucceeds =>
        Bool.noConfusion ((hsucceeds.setEnable _ _ _).symm.trans hfailed), rfl⟩
    · exact ⟨h.readings, h.last, h.axisCount⟩

variable (io) in
/-- The start of a segment resets the counters, unless a callback fails. -/
theorem openSegment_readsAs (segment : MotionSegment) (e : Executor W) :
    (openSegment io segment e).Ends (ReadsAs (e.queue.opening segment))
      (fun exit => ¬io.Succeeds ∧ exit.1.fault = .aborted) := by
  unfold openSegment MotionQueue.opening
  split
  · unfold startSegment
    dsimp only
    refine (List.range_foldlM_ends (P := fun _ (e' : Executor W) => ReadsAs _ e')
      (fun k e' _ he' => setAxisDirection_readsAs he' segment k)
      ⟨fun _ => rfl, rfl, rfl⟩).bind fun directed hdirected => ?_
    refine (List.range_foldlM_ends (P := fun _ (e' : Executor W) => ReadsAs _ e')
      (fun k e' _ he' => setAxisEnabled_readsAs he' segment k) hdirected).bind
      fun enabled henabled => ?_
    exact ⟨henabled.readings, henabled.last, henabled.axisCount⟩
  · exact ⟨fun _ => rfl, rfl, rfl⟩

variable (io) in
/-- The start of a segment is not about the buffer. -/
theorem openSegment_ring (segment : MotionSegment) (e : Executor W) :
    (openSegment io segment e).Ends (fun e' => e'.queue.ring = e.queue.ring)
      (fun exit => exit.2.queue.ring = e.queue.ring) := by
  unfold openSegment
  split
  · exact (startSegment_frames segment e).mono (fun _ hend => hend.1) fun _ hend => hend.1
  · exact rfl

end Executor

end RemoteBSP.Firmware
