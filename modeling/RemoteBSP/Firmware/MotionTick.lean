import RemoteBSP.Firmware.Motion

/-!
# What the parts of a motion tick do

The lemmas about the steps of `rbsp_motion_tick` from which the invariants follow. A step either
leaves the motion of the axes alone (`MotionQueue.Agrees`), or it moves one axis by one step of the
active segment (`raiseStep_spec`), and if it aborts, it names a fault and has left the segments
alone (`Executor.Aborts`). Put together, the loop of the tick keeps the progress of every axis in
the segment (`emitSteps_spec`), and the start of a segment puts every axis at its beginning
(`startSegment_spec`).
-/

namespace RemoteBSP.Firmware

namespace MotionQueue

/-- The two queues hold the same segments. -/
structure SameSegments (q q' : MotionQueue) : Prop where
  /-- The buffer holds the same segments. -/
  segments : q'.segments = q.segments
  /-- As many axes are in use. -/
  axisCount : q'.axisCount = q.axisCount
  /-- The front is at the same place. -/
  head : q'.head = q.head
  /-- As many segments are in the ring. -/
  size : q'.size = q.size
  /-- The same fault is latched, if any. -/
  fault : q'.fault = q.fault
  /-- As many segments have been completed. -/
  completedSegments : q'.completedSegments = q.completedSegments

/-- The two queues also agree in the motion of the axes. -/
structure Agrees (q q' : MotionQueue) : Prop extends SameSegments q q' where
  /-- The queue has got as far. -/
  state : q'.state = q.state
  /-- The steps emitted of the active segment. -/
  activeEmitted : q'.activeEmitted = q.activeEmitted
  /-- The direction outputs have the same levels. -/
  directionPositive : q'.directionPositive = q.directionPositive
  /-- The axes have made as many steps. -/
  emittedSteps : q'.emittedSteps = q.emittedSteps
  /-- The axes have the same positions. -/
  positionSteps : q'.positionSteps = q.positionSteps

/-- A queue holds the same segments as itself. -/
theorem SameSegments.refl (q : MotionQueue) : q.SameSegments q := ⟨rfl, rfl, rfl, rfl, rfl, rfl⟩

/-- A queue agrees with itself. -/
theorem Agrees.refl (q : MotionQueue) : q.Agrees q := ⟨.refl q, rfl, rfl, rfl, rfl, rfl⟩

/-- Holding the same segments is transitive. -/
theorem SameSegments.trans {q q' q'' : MotionQueue} (h : q.SameSegments q')
    (h' : q'.SameSegments q'') : q.SameSegments q'' :=
  ⟨h'.segments.trans h.segments, h'.axisCount.trans h.axisCount, h'.head.trans h.head,
    h'.size.trans h.size, h'.fault.trans h.fault, h'.completedSegments.trans h.completedSegments⟩

/-- A queue that agrees with one that agrees with a third agrees with the third. -/
theorem Agrees.trans {q q' q'' : MotionQueue} (h : q.Agrees q') (h' : q'.Agrees q'') :
    q.Agrees q'' :=
  ⟨h.toSameSegments.trans h'.toSameSegments, h'.state.trans h.state,
    h'.activeEmitted.trans h.activeEmitted, h'.directionPositive.trans h.directionPositive,
    h'.emittedSteps.trans h.emittedSteps, h'.positionSteps.trans h.positionSteps⟩

/-- How far an axis is in the active segment, against the queue `before` its start: it has moved by
the steps emitted, in the direction of the segment. -/
structure Progress (segment : MotionSegment) (before q : MotionQueue) (axis : ℕ) : Prop where
  /-- No more steps than the segment has. -/
  emitted_le : q.activeEmitted axis ≤ absoluteSteps (segment.steps axis)
  /-- The direction output has the level that the segment asks for. -/
  direction : q.directionPositive axis = decide (segment.steps axis ≥ 0)
  /-- The position has changed by the steps emitted. -/
  position : q.positionSteps axis = before.positionSteps axis +
    (if q.directionPositive axis then 1 else -1) * (q.activeEmitted axis).toNat
  /-- The counter has changed by the steps emitted. -/
  emitted : q.emittedSteps axis = before.emittedSteps axis + q.activeEmitted axis

/-- The progress of an axis depends on nothing but what agrees. -/
theorem Progress.of_agrees {segment : MotionSegment} {before q q' : MotionQueue} {axis : ℕ}
    (h : Progress segment before q axis) (hagrees : q.Agrees q') :
    Progress segment before q' axis := by
  obtain ⟨hle, hdirection, hposition, hemitted⟩ := h
  refine ⟨?_, ?_, ?_, ?_⟩
  · rwa [hagrees.activeEmitted]
  · rwa [hagrees.directionPositive]
  · rwa [hagrees.positionSteps, hagrees.directionPositive, hagrees.activeEmitted]
  · rwa [hagrees.emittedSteps, hagrees.activeEmitted]

/-- The number of the steps of a segment. -/
theorem toNat_absoluteSteps (steps : Int32) : (absoluteSteps steps).toNat = steps.toInt.natAbs := by
  have hle := steps.toInt_lt
  have hge := steps.le_toInt
  exact UInt64.toNat_ofNat_of_lt' (show _ < 2^64 by omega)

/-- An axis that has emitted all steps of the segment has moved by them. -/
theorem Progress.complete {segment : MotionSegment} {before q : MotionQueue} {axis : ℕ}
    (h : Progress segment before q axis)
    (hall : q.activeEmitted axis = absoluteSteps (segment.steps axis)) :
    q.positionSteps axis = before.positionSteps axis + (segment.steps axis).toInt ∧
      q.emittedSteps axis = before.emittedSteps axis + absoluteSteps (segment.steps axis) := by
  refine ⟨?_, by rw [h.emitted, hall]⟩
  rw [h.position, h.direction, hall, toNat_absoluteSteps]
  by_cases hpositive : segment.steps axis ≥ 0
  · have hsign : 0 ≤ (segment.steps axis).toInt := Int32.le_iff_toInt_le.1 hpositive
    rw [decide_eq_true hpositive, if_pos rfl]
    omega
  · have hsign : (segment.steps axis).toInt < 0 :=
      not_le.1 fun h0 => hpositive (Int32.le_iff_toInt_le.2 h0)
    rw [decide_eq_false hpositive, if_neg Bool.false_ne_true]
    omega

end MotionQueue

namespace Executor

variable {W : Type} {config : MotionConfig} {io : MotionIo W}

/-! ## What the parts of a tick leave alone -/

/-- Stopping an axis does not move it. -/
theorem stopAxis_agrees (e : Executor W) (axis : ℕ) :
    e.queue.Agrees (stopAxis io e axis).queue := by
  unfold stopAxis
  by_cases hstep : e.queue.stepHigh axis = true
  · simp only [hstep, if_true]
    split_ifs <;> exact ⟨⟨rfl, rfl, rfl, rfl, rfl, rfl⟩, rfl, rfl, rfl, rfl, rfl⟩
  · simp only [hstep]
    split_ifs <;> exact ⟨⟨rfl, rfl, rfl, rfl, rfl, rfl⟩, rfl, rfl, rfl, rfl, rfl⟩

/-- Stopping the outputs does not move an axis. -/
theorem stopOutputs_agrees (e : Executor W) : e.queue.Agrees (stopOutputs io e).queue := by
  unfold stopOutputs
  generalize List.range e.queue.axisCount.toNat = axes
  induction axes generalizing e with
  | nil => exact .refl _
  | cons axis axes ih => exact (stopAxis_agrees e axis).trans (ih _)

/-- The check of a limit switch leaves the queue as it is. -/
theorem checkLimit_queue {e e' : Executor W} {axis : ℕ} (h : checkLimit io e axis = .ok e') :
    e'.queue = e.queue := by
  unfold checkLimit at h
  cases hlimit : io.limitActive with
  | none =>
    rw [hlimit] at h
    exact Except.ok.inj h ▸ rfl
  | some limitActive =>
    rw [hlimit] at h
    dsimp only at h
    split at h
    · cases h
    · split_ifs at h
      exact Except.ok.inj h ▸ rfl

/-- The checks of all limit switches leave the queue as it is. -/
theorem checkLimits_queue {e e' : Executor W} {n : ℕ}
    (h : (List.range n).foldlM (checkLimit io) e = .ok e') : e'.queue = e.queue :=
  List.range_foldlM_ok (P := fun _ e' => e'.queue = e.queue)
    (fun _ _ _ _ hp hstep => (checkLimit_queue hstep).trans hp) rfl h

/-- Ending a pulse does not move an axis. -/
theorem lowerStep_agrees {e e' : Executor W} {axis : ℕ} (h : lowerStep io e axis = .ok e') :
    e.queue.Agrees e'.queue := by
  unfold lowerStep at h
  split_ifs at h
  · split at h
    · cases h
    · obtain rfl := Except.ok.inj h
      exact ⟨⟨rfl, rfl, rfl, rfl, rfl, rfl⟩, rfl, rfl, rfl, rfl, rfl⟩
  · exact Except.ok.inj h ▸ .refl _

/-- Advancing a phase does not move an axis. -/
theorem advancePhase_agrees {segment : MotionSegment} {deltaNs : UInt64} {e e' : Executor W}
    {axis : ℕ} (h : advancePhase segment deltaNs e axis = .ok e') :
    e.queue.Agrees e'.queue := by
  unfold advancePhase at h
  dsimp only at h
  split_ifs at h
  · obtain rfl := Except.ok.inj h
    exact ⟨⟨rfl, rfl, rfl, rfl, rfl, rfl⟩, rfl, rfl, rfl, rfl, rfl⟩
  · exact Except.ok.inj h ▸ .refl _

/-- Enabling a driver does not move an axis. -/
theorem setAxisEnabled_agrees {segment : MotionSegment} {e e' : Executor W} {axis : ℕ}
    (h : setAxisEnabled io segment e axis = .ok e') : e.queue.Agrees e'.queue := by
  unfold setAxisEnabled at h
  dsimp only at h
  split_ifs at h
  · exact Except.ok.inj h ▸ .refl _
  · split at h
    · cases h
    · obtain rfl := Except.ok.inj h
      exact ⟨⟨rfl, rfl, rfl, rfl, rfl, rfl⟩, rfl, rfl, rfl, rfl, rfl⟩

/-! ## The steps of a tick -/

variable {segment : MotionSegment} {before : MotionQueue}

/-- A pulse moves its axis by one step of the segment, and no other axis. -/
theorem raiseStep_spec {e e' : Executor W} {axis : ℕ} (h : raiseStep io segment e axis = .ok e')
    {n : ℕ} (hprogress : ∀ a < n, MotionQueue.Progress segment before e.queue a) :
    e.queue.SameSegments e'.queue ∧ e'.queue.state = e.queue.state ∧
      (∀ a < n, MotionQueue.Progress segment before e'.queue a) ∧
      ∀ a ≠ axis, e'.queue.activeEmitted a = e.queue.activeEmitted a := by
  unfold raiseStep at h
  split_ifs at h with hdue
  · dsimp only at h
    split at h
    · cases h
    · obtain rfl := Except.ok.inj h
      refine ⟨⟨rfl, rfl, rfl, rfl, rfl, rfl⟩, rfl, ?_, fun a ha => Function.update_of_ne ha _ _⟩
      intro a ha
      obtain ⟨hle, hdirection, hposition, hemitted⟩ := hprogress a ha
      -- The axis of the pulse makes one step in its direction; the others stand.
      by_cases hax : a = axis
      · subst hax
        have hlt := UInt64.lt_iff_toNat_lt.1 hdue.1
        have hbound := (absoluteSteps (segment.steps a)).toNat_lt
        have hnext : (e.queue.activeEmitted a + 1).toNat = (e.queue.activeEmitted a).toNat + 1 := by
          rw [UInt64.toNat_add, UInt64.toNat_one, Nat.mod_eq_of_lt (by omega)]
        refine ⟨?_, hdirection, ?_, ?_⟩
        · simp only [Function.update_self]
          rw [UInt64.le_iff_toNat_le, hnext]
          exact hlt
        · simp only [Function.update_self]
          rw [hposition, hnext]
          split_ifs <;> push_cast <;> ring
        · simp only [Function.update_self]
          rw [hemitted, UInt64.add_assoc]
      · refine ⟨?_, hdirection, ?_, ?_⟩
        · simpa only [Function.update_of_ne hax] using hle
        · simpa only [Function.update_of_ne hax] using hposition
        · simpa only [Function.update_of_ne hax] using hemitted
  -- No step is due.
  · obtain rfl := Except.ok.inj h
    exact ⟨.refl _, rfl, hprogress, fun _ _ => rfl⟩

/-- One iteration of the loop of the tick. -/
theorem emitAxis_spec {deltaNs : UInt64} {r r' : Executor W × Bool} {axis : ℕ}
    (h : emitAxis io segment deltaNs r axis = .ok r') {n : ℕ}
    (hprogress : ∀ a < n, MotionQueue.Progress segment before r.1.queue a) :
    r.1.queue.SameSegments r'.1.queue ∧ r'.1.queue.state = r.1.queue.state ∧
      (∀ a < n, MotionQueue.Progress segment before r'.1.queue a) ∧
      (∀ a ≠ axis, r'.1.queue.activeEmitted a = r.1.queue.activeEmitted a) ∧
      (r'.2 = true → r.2 = true ∧
        r'.1.queue.activeEmitted axis = absoluteSteps (segment.steps axis)) := by
  unfold emitAxis at h
  cases hlower : lowerStep io r.1 axis with
  | error e => rw [hlower] at h; cases h
  | ok lowered =>
  cases hadvance : advancePhase segment deltaNs lowered axis with
  | error e => rw [hlower] at h; simp only [bind, Except.bind, hadvance] at h; cases h
  | ok advanced =>
  cases hraise : raiseStep io segment advanced axis with
  | error e => rw [hlower] at h; simp only [bind, Except.bind, hadvance, hraise] at h; cases h
  | ok raised =>
  rw [hlower] at h
  simp only [bind, Except.bind, hadvance, hraise, pure, Except.pure] at h
  have hagrees := (lowerStep_agrees hlower).trans (advancePhase_agrees hadvance)
  obtain ⟨hsame, hstate, hmoved, hothers⟩ :=
    raiseStep_spec hraise fun a ha => (hprogress a ha).of_agrees hagrees
  have hspec : r'.1 = raised ∧ (r'.2 = true → r.2 = true ∧
      raised.queue.activeEmitted axis = absoluteSteps (segment.steps axis)) := by
    split_ifs at h with hopen
    · obtain rfl := Except.ok.inj h
      exact ⟨rfl, fun hfalse => absurd hfalse Bool.false_ne_true⟩
    · obtain rfl := Except.ok.inj h
      rw [not_or, not_not] at hopen
      exact ⟨rfl, fun hall => ⟨hall, hopen.1⟩⟩
  obtain ⟨hexecutor, hflag⟩ := hspec
  rw [hexecutor]
  refine ⟨hagrees.toSameSegments.trans hsame, hstate.trans hagrees.state, hmoved, ?_, hflag⟩
  intro a ha
  rw [hothers a ha, hagrees.activeEmitted]

/-- The loop of the tick keeps the progress of all axes, and if it reports that all steps have been
emitted, they have. -/
theorem emitSteps_spec {e e' : Executor W} {nowNs : UInt64} {allEmitted : Bool}
    (h : emitSteps io segment e nowNs = .ok (e', allEmitted))
    (hprogress : ∀ a < e.queue.axisCount.toNat, MotionQueue.Progress segment before e.queue a) :
    e.queue.SameSegments e'.queue ∧ e'.queue.state = e.queue.state ∧
      (∀ a < e.queue.axisCount.toNat, MotionQueue.Progress segment before e'.queue a) ∧
      (allEmitted = true → ∀ a < e.queue.axisCount.toNat,
        e'.queue.activeEmitted a = absoluteSteps (segment.steps a)) := by
  unfold emitSteps at h
  dsimp only at h
  have hloop := List.range_foldlM_ok (P := fun k (r : Executor W × Bool) =>
    e.queue.SameSegments r.1.queue ∧ r.1.queue.state = e.queue.state ∧
      (∀ a < e.queue.axisCount.toNat, MotionQueue.Progress segment before r.1.queue a) ∧
      (r.2 = true → ∀ a < k, r.1.queue.activeEmitted a = absoluteSteps (segment.steps a)))
    ?_ ?_ h
  · exact hloop
  · rintro k r r' - ⟨hsame, hstate, hmoved, hall⟩ hstep
    obtain ⟨hsame', hstate', hmoved', hothers, hflag⟩ := emitAxis_spec hstep hmoved
    refine ⟨hsame.trans hsame', hstate'.trans hstate, hmoved', fun htrue a ha => ?_⟩
    obtain ⟨hbefore, hk⟩ := hflag htrue
    rcases Nat.lt_succ_iff_lt_or_eq.1 ha with hlt | rfl
    · rw [hothers a (Nat.ne_of_lt hlt)]
      exact hall hbefore a hlt
    · exact hk
  · refine ⟨⟨rfl, rfl, rfl, rfl, rfl, rfl⟩, rfl, fun a ha => ?_, fun _ a ha => ?_⟩
    · exact (hprogress a ha).of_agrees ⟨⟨rfl, rfl, rfl, rfl, rfl, rfl⟩, rfl, rfl, rfl, rfl, rfl⟩
    · exact absurd ha (Nat.not_lt_zero a)

/-- Setting the direction of an axis. -/
theorem setAxisDirection_spec {e e' : Executor W} {axis : ℕ}
    (h : setAxisDirection io segment e axis = .ok e') :
    e.queue.SameSegments e'.queue ∧ e'.queue.emittedSteps = e.queue.emittedSteps ∧
      e'.queue.positionSteps = e.queue.positionSteps ∧
      e'.queue.activeEmitted = e.queue.activeEmitted ∧
      e'.queue.directionPositive =
        Function.update e.queue.directionPositive axis (decide (segment.steps axis ≥ 0)) := by
  unfold setAxisDirection at h
  dsimp only at h
  split at h
  · cases h
  · obtain rfl := Except.ok.inj h
    exact ⟨⟨rfl, rfl, rfl, rfl, rfl, rfl⟩, rfl, rfl, rfl, rfl⟩

/-- The start of a segment: it is running, and no axis has moved. -/
theorem startSegment_spec {e e' : Executor W} (h : startSegment io segment e = .ok e')
    (hposition : ∀ a < e.queue.axisCount.toNat,
      e.queue.positionSteps a = before.positionSteps a ∧
        e.queue.emittedSteps a = before.emittedSteps a) :
    e.queue.SameSegments e'.queue ∧ e'.queue.state = .running ∧
      ∀ a < e.queue.axisCount.toNat, MotionQueue.Progress segment before e'.queue a := by
  unfold startSegment at h
  -- Before the outputs are set, the accounts of the segment are at zero.
  generalize hreset : e.withQueue { e.queue with
    activeEmitted := fun _ => 0
    activePhase := fun _ => 0
    activeLastTickNs := segment.startTimeNs } = reset at h
  have hsame : e.queue.SameSegments reset.queue := by
    subst hreset; exact ⟨rfl, rfl, rfl, rfl, rfl, rfl⟩
  have hemitted : reset.queue.emittedSteps = e.queue.emittedSteps ∧
      reset.queue.positionSteps = e.queue.positionSteps ∧
      reset.queue.activeEmitted = fun _ => 0 := by
    subst hreset; exact ⟨rfl, rfl, rfl⟩
  dsimp only at h
  rw [hsame.axisCount] at h
  cases hdirections : (List.range e.queue.axisCount.toNat).foldlM (setAxisDirection io segment)
      reset with
  | error stop => rw [hdirections] at h; cases h
  | ok directed =>
  cases henable : (List.range e.queue.axisCount.toNat).foldlM (setAxisEnabled io segment)
      directed with
  | error stop => rw [hdirections] at h; simp only [bind, Except.bind, henable] at h; cases h
  | ok enabled =>
  rw [hdirections] at h
  simp only [bind, Except.bind, henable, pure, Except.pure] at h
  obtain rfl := Except.ok.inj h
  -- After the directions of the first `k` axes.
  have hdirected := List.range_foldlM_ok (P := fun k (r : Executor W) =>
    reset.queue.SameSegments r.queue ∧ r.queue.emittedSteps = reset.queue.emittedSteps ∧
      r.queue.positionSteps = reset.queue.positionSteps ∧
      r.queue.activeEmitted = reset.queue.activeEmitted ∧
      ∀ a < k, r.queue.directionPositive a = decide (segment.steps a ≥ 0))
    (fun k r r' _ hp hstep => by
      obtain ⟨hs, he, hpos, ha, hd⟩ := hp
      obtain ⟨hs', he', hpos', ha', hd'⟩ := setAxisDirection_spec hstep
      refine ⟨hs.trans hs', he'.trans he, hpos'.trans hpos, ha'.trans ha, fun a hak => ?_⟩
      rw [hd']
      rcases Nat.lt_succ_iff_lt_or_eq.1 hak with hlt | rfl
      · rw [Function.update_of_ne (Nat.ne_of_lt hlt)]
        exact hd a hlt
      · exact Function.update_self _ _ _)
    ⟨.refl _, rfl, rfl, rfl, fun a ha => absurd ha (Nat.not_lt_zero a)⟩ hdirections
  -- The outputs that are enabled leave the directions and the accounts alone.
  have henabled : directed.queue.Agrees enabled.queue :=
    List.range_foldlM_ok (P := fun _ (r : Executor W) => directed.queue.Agrees r.queue)
      (fun _ _ _ _ hp hstep => hp.trans (setAxisEnabled_agrees hstep)) (.refl _) henable
  obtain ⟨hs, he, hpos, ha, hd⟩ := hdirected
  have hall := (hsame.trans hs).trans henabled.toSameSegments
  -- So no step has been emitted, and each axis points as its steps demand.
  refine ⟨⟨hall.segments, hall.axisCount, hall.head, hall.size, hall.fault,
    hall.completedSegments⟩, rfl, fun a hlt => ?_⟩
  obtain ⟨hp, hem⟩ := hposition a hlt
  have hzero : enabled.queue.activeEmitted a = 0 := by
    rw [henabled.activeEmitted, ha, hemitted.2.2]
  refine ⟨?_, ?_, ?_, ?_⟩
  · show enabled.queue.activeEmitted a ≤ _
    rw [hzero]
    exact UInt64.zero_le
  · show enabled.queue.directionPositive a = _
    rw [henabled.directionPositive]
    exact hd a hlt
  · show enabled.queue.positionSteps a = before.positionSteps a +
      _ * ((enabled.queue.activeEmitted a).toNat : ℤ)
    rw [hzero, henabled.positionSteps, hpos, hemitted.2.1, hp]
    simp
  · show enabled.queue.emittedSteps a = before.emittedSteps a + enabled.queue.activeEmitted a
    rw [hzero, henabled.emittedSteps, he, hemitted.1, hem, UInt64.add_zero]

/-! ## Steps of a tick that abort -/

/-- A step that aborts names a fault, and has left the segments alone. -/
structure Aborts (e : Executor W) (exit : Stop × Executor W) : Prop where
  /-- The exit names a fault. -/
  fault : exit.1.fault ≠ .none
  /-- The segments are still there when the tick is left. -/
  same : e.queue.SameSegments exit.2.queue

/-- A step that aborts after a step that has left the segments alone. -/
theorem Aborts.after {e e' : Executor W} {exit : Stop × Executor W}
    (hsame : e.queue.SameSegments e'.queue) (h : e'.Aborts exit) : e.Aborts exit :=
  ⟨h.fault, hsame.trans h.same⟩

/-- `checkLimit` leaves the tick with a fault and the segments. -/
theorem checkLimit_aborts {e : Executor W} {axis : ℕ} {exit : Stop × Executor W}
    (h : checkLimit io e axis = .error exit) : e.Aborts exit := by
  unfold checkLimit at h
  split at h
  · cases h
  · split at h
    · obtain rfl := Except.error.inj h
      exact ⟨nofun, .refl _⟩
    · split_ifs at h
      obtain rfl := Except.error.inj h
      exact ⟨nofun, .refl _⟩

/-- `lowerStep` leaves the tick with a fault and the segments. -/
theorem lowerStep_aborts {e : Executor W} {axis : ℕ} {exit : Stop × Executor W}
    (h : lowerStep io e axis = .error exit) : e.Aborts exit := by
  unfold lowerStep at h
  split_ifs at h
  split at h
  · obtain rfl := Except.error.inj h
    exact ⟨nofun, .refl _⟩
  · cases h

/-- `advancePhase` leaves the tick with a fault and the segments. -/
theorem advancePhase_aborts {deltaNs : UInt64} {e : Executor W} {axis : ℕ}
    {exit : Stop × Executor W} (h : advancePhase segment deltaNs e axis = .error exit) :
    e.Aborts exit := by
  unfold advancePhase at h
  dsimp only at h
  split_ifs at h
  obtain rfl := Except.error.inj h
  exact ⟨nofun, .refl _⟩

/-- `raiseStep` leaves the tick with a fault and the segments. -/
theorem raiseStep_aborts {e : Executor W} {axis : ℕ} {exit : Stop × Executor W}
    (h : raiseStep io segment e axis = .error exit) : e.Aborts exit := by
  unfold raiseStep at h
  split_ifs at h
  dsimp only at h
  split at h
  · obtain rfl := Except.error.inj h
    exact ⟨nofun, ⟨rfl, rfl, rfl, rfl, rfl, rfl⟩⟩
  · cases h

/-- `setAxisEnabled` leaves the tick with a fault and the segments. -/
theorem setAxisEnabled_aborts {e : Executor W} {axis : ℕ} {exit : Stop × Executor W}
    (h : setAxisEnabled io segment e axis = .error exit) : e.Aborts exit := by
  unfold setAxisEnabled at h
  dsimp only at h
  split_ifs at h
  split at h
  · obtain rfl := Except.error.inj h
    exact ⟨nofun, .refl _⟩
  · cases h

/-- `setAxisDirection` leaves the tick with a fault and the segments. -/
theorem setAxisDirection_aborts {e : Executor W} {axis : ℕ} {exit : Stop × Executor W}
    (h : setAxisDirection io segment e axis = .error exit) : e.Aborts exit := by
  unfold setAxisDirection at h
  dsimp only at h
  split at h
  · obtain rfl := Except.error.inj h
    exact ⟨nofun, .refl _⟩
  · cases h

/-- A loop over the axes aborts as its body does. -/
theorem loop_aborts {α : Type} {f : α → ℕ → Except (Stop × Executor W) α}
    (executor : α → Executor W) {n : ℕ} {r : α} {exit : Stop × Executor W}
    (hok : ∀ r r' axis, f r axis = .ok r' →
      (executor r).queue.SameSegments (executor r').queue)
    (herror : ∀ r axis exit, f r axis = .error exit → (executor r).Aborts exit)
    (h : (List.range n).foldlM f r = .error exit) : (executor r).Aborts exit := by
  obtain ⟨k, -, t, hsame, hexit⟩ := List.range_foldlM_error
    (P := fun _ t => (executor r).queue.SameSegments (executor t).queue)
    (fun _ _ _ _ hp hstep => hp.trans (hok _ _ _ hstep)) (.refl _) h
  exact (herror _ _ _ hexit).after hsame

/-- How an iteration of the loop of the tick aborts, and that it leaves the segments alone
otherwise. -/
theorem emitAxis_segments {deltaNs : UInt64} {r : Executor W × Bool} {axis : ℕ} :
    (∀ exit, emitAxis io segment deltaNs r axis = .error exit → r.1.Aborts exit) ∧
      ∀ r', emitAxis io segment deltaNs r axis = .ok r' →
        r.1.queue.SameSegments r'.1.queue := by
  constructor
  · intro exit h
    unfold emitAxis at h
    cases hlower : lowerStep io r.1 axis with
    | error e =>
      rw [hlower] at h
      exact Except.error.inj h ▸ lowerStep_aborts hlower
    | ok lowered =>
    cases hadvance : advancePhase segment deltaNs lowered axis with
    | error e =>
      rw [hlower] at h
      simp only [bind, Except.bind, hadvance] at h
      exact Except.error.inj h ▸
        (advancePhase_aborts hadvance).after (lowerStep_agrees hlower).toSameSegments
    | ok advanced =>
    have hagrees := (lowerStep_agrees hlower).trans (advancePhase_agrees hadvance)
    cases hraise : raiseStep io segment advanced axis with
    | error e =>
      rw [hlower] at h
      simp only [bind, Except.bind, hadvance, hraise] at h
      exact Except.error.inj h ▸ (raiseStep_aborts hraise).after hagrees.toSameSegments
    | ok raised =>
      rw [hlower] at h
      simp only [bind, Except.bind, hadvance, hraise, pure, Except.pure] at h
      split_ifs at h
  · intro r' h
    have hprogress : ∀ a < 0, MotionQueue.Progress segment .zero r.1.queue a :=
      fun a ha => absurd ha (Nat.not_lt_zero a)
    exact (emitAxis_spec h hprogress).1

/-- How the start of a segment aborts. -/
theorem startSegment_aborts {e : Executor W} {exit : Stop × Executor W}
    (h : startSegment io segment e = .error exit) : e.Aborts exit := by
  unfold startSegment at h
  generalize hreset : e.withQueue { e.queue with
    activeEmitted := fun _ => 0
    activePhase := fun _ => 0
    activeLastTickNs := segment.startTimeNs } = reset at h
  have hsame : e.queue.SameSegments reset.queue := by
    subst hreset; exact ⟨rfl, rfl, rfl, rfl, rfl, rfl⟩
  dsimp only at h
  cases hdirections : (List.range reset.queue.axisCount.toNat).foldlM
      (setAxisDirection io segment) reset with
  -- The direction of an axis could not be set.
  | error stop =>
    rw [hdirections] at h
    obtain rfl := Except.error.inj h
    exact (loop_aborts id (fun _ _ _ hstep => (setAxisDirection_spec hstep).1)
      (fun _ _ _ => setAxisDirection_aborts) hdirections).after hsame
  | ok directed =>
  have hdirected : reset.queue.SameSegments directed.queue :=
    List.range_foldlM_ok (P := fun _ (r : Executor W) => reset.queue.SameSegments r.queue)
      (fun _ _ _ _ hp hstep => hp.trans (setAxisDirection_spec hstep).1) (.refl _) hdirections
  cases henable : (List.range reset.queue.axisCount.toNat).foldlM (setAxisEnabled io segment)
      directed with
  -- The outputs of an axis could not be enabled.
  | error stop =>
    rw [hdirections] at h
    simp only [bind, Except.bind, henable] at h
    obtain rfl := Except.error.inj h
    exact (loop_aborts id (fun _ _ _ hstep => (setAxisEnabled_agrees hstep).toSameSegments)
      (fun _ _ _ => setAxisEnabled_aborts) henable).after (hsame.trans hdirected)
  -- Otherwise the segment starts.
  | ok enabled =>
    rw [hdirections] at h
    simp only [bind, Except.bind, henable, pure, Except.pure] at h
    cases h

/-- How the part of the tick that emits the steps aborts. -/
theorem emitSteps_aborts {e : Executor W} {nowNs : UInt64} {exit : Stop × Executor W}
    (h : emitSteps io segment e nowNs = .error exit) : e.Aborts exit := by
  unfold emitSteps at h
  dsimp only at h
  have hloop := loop_aborts Prod.fst (fun _ _ _ => emitAxis_segments.2 _)
    (fun _ _ _ => emitAxis_segments.1 _) h
  refine Aborts.after ?_ hloop
  exact ⟨rfl, rfl, rfl, rfl, rfl, rfl⟩

end Executor

end RemoteBSP.Firmware
