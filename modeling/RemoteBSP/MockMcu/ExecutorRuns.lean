import RemoteBSP.Lib.Machine
import RemoteBSP.MockMcu.Schedule

/-!
# Runs of the motion executor

What holds of an executor that the constructor has made and that any calls have changed: its queue
is `Scheduled` (`reachable_valid`). The steps of a move are an `int32_t` (`ExecutorCall.Typed`).
-/

namespace RemoteBSP.MockMcu

open MotionExecutor

/-- A call of an executor, with its arguments. -/
inductive ExecutorCall
  | enqueue (segment : MotionSegment) (nowNs : UInt64)
  | advanceTo (nowNs : UInt64)
  | abort (nowNs : UInt64) (fault : MotionFault)
  | triggerLimit (axisResourceId : UInt32) (nowNs : UInt64)
  | clearFault
deriving DecidableEq, Repr

/-- The steps of a segment are `int32_t` values. -/
def MotionSegment.Typed (segment : MotionSegment) : Prop :=
  ∀ move ∈ segment.axes, -2^31 ≤ move.steps ∧ move.steps < 2^31

/-- The values of a call are in the range of their types. -/
def ExecutorCall.Typed : ExecutorCall → Prop
  | .enqueue segment _ => segment.Typed
  | .advanceTo _ | .abort _ _ | .triggerLimit _ _ | .clearFault => True

/-- Whether a segment is in the ranges of its types is decided by evaluation. -/
instance (segment : MotionSegment) : Decidable segment.Typed :=
  inferInstanceAs (Decidable (∀ move ∈ segment.axes, -2^31 ≤ move.steps ∧ move.steps < 2^31))

/-- Whether a call is in the ranges of its types is decided by evaluation. -/
instance : DecidablePred ExecutorCall.Typed
  | .enqueue segment _ => inferInstanceAs (Decidable segment.Typed)
  | .advanceTo _ => inferInstanceAs (Decidable True)
  | .abort _ _ => inferInstanceAs (Decidable True)
  | .triggerLimit _ _ => inferInstanceAs (Decidable True)
  | .clearFault => inferInstanceAs (Decidable True)

namespace MotionExecutor

/-- A call: the executor behind it, and the exception or the edges. -/
def call (executor : MotionExecutor) : ExecutorCall →
    MotionExecutor × Except MotionException (List MotionEdge)
  | .enqueue segment nowNs =>
    ((executor.enqueue segment nowNs).2, (executor.enqueue segment nowNs).1.map fun _ => [])
  | .advanceTo nowNs =>
    match executor.advanceTo nowNs with
    | .ok (edges, executor') => (executor', .ok edges)
    | .error e => (executor, .error e)
  | .abort nowNs fault =>
    match executor.abort nowNs fault with
    | .ok (edges, executor') => (executor', .ok edges)
    | .error e => (executor, .error e)
  | .triggerLimit axisResourceId nowNs =>
    ((executor.triggerLimit axisResourceId nowNs).2, (executor.triggerLimit axisResourceId nowNs).1)
  | .clearFault =>
    match executor.clearFault with
    | .ok executor' => (executor', .ok [])
    | .error e => (executor, .error e)

/-- The executor as a machine, which returns the edges of each call. -/
def machine : Machine MotionExecutor ExecutorCall (Except MotionException (List MotionEdge)) where
  step := call

/-- An executor that has been made and called. -/
def Reachable (executor : MotionExecutor) : Prop :=
  ∃ sort axes capacity lead initial calls, create sort axes capacity lead = .ok initial ∧
    (∀ call ∈ calls, ExecutorCall.Typed call) ∧ machine.run initial calls = executor

/-! ## What is accepted -/

variable {executor executor' : MotionExecutor} {segment : MotionSegment} {nowNs : UInt64}
  {segments : List MotionSegment} {base : List AxisRuntime}

/-- Moves that are admitted name different axes, and fit into the segment. -/
theorem admitMoves_spec {axes : List AxisRuntime} {durationNs : UInt64} {seen : List UInt32}
    {moves : List MotionAxisMove} {runtimes : List MoveRuntime}
    (h : admitMoves axes durationNs seen moves = .ok runtimes) :
    runtimes = (moves.map fun move =>
        { move := move, stepCount := absoluteSteps move.steps }) ∧
      ∀ move ∈ moves, ∃ axis, requireAxis axes move.resourceId = some axis ∧
        (absoluteSteps move.steps ≠ 0 →
          stepsFit axis.config durationNs (absoluteSteps move.steps)) := by
  induction moves generalizing seen runtimes with
  | nil => exact ⟨(Except.ok.inj h).symm, nofun⟩
  | cons move rest ih =>
    unfold admitMoves at h
    split at h
    · cases h
    · split at h
      · cases h
      · next axis haxis =>
        dsimp only at h
        split at h
        · cases h
        · next hfit =>
          cases hrest : admitMoves axes durationNs (move.resourceId :: seen) rest with
          | error e => rw [hrest] at h; cases h
          | ok runtimes' =>
            obtain ⟨hruntimes, hall⟩ := ih hrest
            rw [hrest, hruntimes] at h
            refine ⟨(Except.ok.inj h).symm, fun move' hmem => ?_⟩
            rcases List.mem_cons.1 hmem with rfl | hmem
            · exact ⟨axis, haxis, fun hne => not_not.1 fun hnot => hfit ⟨hne, hnot⟩⟩
            · exact hall move' hmem

/-- A segment that passes the checks. -/
theorem checkSegment_spec {runtime : SegmentRuntime}
    (h : executor.checkSegment segment nowNs = .ok runtime) :
    executor.nowNs ≤ nowNs ∧
      (∀ last ∈ executor.queue.getLast?, last.segment.finalSegment = false) ∧
      segment.durationNs ≠ 0 ∧ ∃ startTimeNs moves,
        executor.startTime segment nowNs = .ok startTimeNs ∧
        (executor.queue ≠ [] → startTimeNs = executor.nextAvailableTimeNs) ∧
        startTimeNs ≤ 0xFFFFFFFFFFFFFFFF - segment.durationNs ∧
        admitMoves executor.axes segment.durationNs [] segment.axes = .ok moves ∧
        runtime = ⟨{ segment with startTimeNs := startTimeNs }, moves⟩ := by
  unfold checkSegment at h
  split at h
  · cases h
  split at h
  · cases h
  next hnow =>
  split at h
  · cases h
  split at h
  · cases h
  next hfinal =>
  split at h
  · cases h
  split at h
  · cases h
  next hduration =>
  split at h
  · cases h
  next startTimeNs hstart =>
  split at h
  · cases h
  next hjoined =>
  split at h
  · cases h
  next hend =>
  -- All checks but those of the moves have been passed.
  cases hmoves : admitMoves executor.axes segment.durationNs [] segment.axes with
  | error e => rw [hmoves] at h; cases h
  | ok moves =>
    rw [hmoves] at h
    refine ⟨UInt64.not_lt.1 hnow, fun last hmem => ?_, (not_or.1 hduration).1, startTimeNs, moves,
      hstart, fun hne => ?_, UInt64.not_lt.1 hend, rfl, (Except.ok.inj h).symm⟩
    · exact Bool.not_eq_true _ ▸ fun htrue => hfinal ⟨last, hmem, htrue⟩
    · exact not_not.1 fun hnot => hjoined ⟨hne, hnot⟩

/-- The steps that are accepted leave time for the direction and a pulse. -/
theorem room_of_stepsFit {config : MotionAxisConfig} {durationNs count : UInt64}
    (hconfig : axisConfigured config) (h : stepsFit config durationNs count) :
    config.directionSetupNs.toNat + config.stepPulseWidthNs.toNat ≤ durationNs.toNat := by
  obtain ⟨hroom, -⟩ := h
  have hwidth : config.stepPulseWidthNs.toUInt64.toNat = config.stepPulseWidthNs.toNat := rfl
  have hsetup : config.directionSetupNs.toUInt64.toNat = config.directionSetupNs.toNat := rfl
  have hpos : 0 < config.stepPulseWidthNs.toNat := by
    rw [Nat.pos_iff_ne_zero]
    exact fun hzero => hconfig.2.2.1 (UInt32.toNat_inj.1 hzero)
  split at hroom
  · next hlt =>
    have hlt := UInt64.lt_iff_toNat_lt.1 hlt
    rw [UInt64.not_lt, UInt64.le_iff_toNat_le, hwidth,
      UInt64.toNat_sub_of_le _ _ (UInt64.le_iff_toNat_le.2 hlt.le), hsetup] at hroom
    rw [hsetup] at hlt
    omega
  · rw [UInt64.not_lt, UInt64.le_iff_toNat_le, hwidth] at hroom
    have hzero : (0 : UInt64).toNat = 0 := rfl
    omega

/-- The larger of two 64-bit numbers is the larger one as a number. -/
theorem toNat_max (a b : UInt64) : (max a b).toNat = max a.toNat b.toNat := by
  show (if a ≤ b then b else a).toNat = _
  rw [apply_ite UInt64.toNat, Nat.max_def]
  exact if_congr UInt64.le_iff_toNat_le rfl rfl

/-- A segment starts later than it is accepted. -/
theorem lt_startTime (hlead : 0 < executor.minimumLeadTimeNs.toNat) {startTimeNs : UInt64}
    (h : executor.startTime segment nowNs = .ok startTimeNs) (hduration : segment.durationNs ≠ 0)
    (hend : startTimeNs ≤ 0xFFFFFFFFFFFFFFFF - segment.durationNs) :
    nowNs.toNat < startTimeNs.toNat ∧
      startTimeNs.toNat + segment.durationNs.toNat < 2^64 := by
  have hmax : (0xFFFFFFFFFFFFFFFF : UInt64).toNat = 2^64 - 1 := rfl
  have hdurationLt := segment.durationNs.toNat_lt
  have hleadLt := executor.minimumLeadTimeNs.toNat_lt
  have hnowLt := nowNs.toNat_lt
  -- The end of the segment fits into the clock, and so does its start.
  have hpos : 0 < segment.durationNs.toNat := by
    rw [Nat.pos_iff_ne_zero]
    exact fun hzero => hduration (UInt64.toNat_inj.1 hzero)
  rw [UInt64.le_iff_toNat_le, UInt64.toNat_sub_of_le _ _ (by rw [UInt64.le_iff_toNat_le]; omega),
    hmax] at hend
  refine ⟨?_, by omega⟩
  unfold startTime at h
  split at h
  -- The start is left to the executor, which takes the earliest one.
  · obtain rfl := Except.ok.inj h
    have hmaximum := toNat_max (if nowNs > 0xFFFFFFFFFFFFFFFF - executor.minimumLeadTimeNs then
      0xFFFFFFFFFFFFFFFF else nowNs + executor.minimumLeadTimeNs) executor.nextAvailableTimeNs
    rw [hmaximum] at hend ⊢
    refine lt_max_of_lt_left ?_
    have hearliest := (le_max_left _ _).trans hend
    split at hearliest
    · omega
    · next hsmall =>
      rw [if_neg hsmall]
      rw [gt_iff_lt, UInt64.not_lt, UInt64.le_iff_toNat_le, UInt64.toNat_sub_of_le _ _
        (by rw [UInt64.le_iff_toNat_le]; omega), hmax] at hsmall
      rw [UInt64.toNat_add, Nat.mod_eq_of_lt (by omega)]
      omega
  -- The start is given, and has been checked against the earliest one.
  · split at h
    · cases h
    · next hlate =>
      obtain rfl := Except.ok.inj h
      obtain ⟨hnow, hearly⟩ := not_or.1 hlate
      rw [UInt64.not_lt, UInt64.le_iff_toNat_le] at hnow hearly
      rw [UInt64.toNat_sub_of_le _ _ (UInt64.le_iff_toNat_le.2 hnow)] at hearly
      omega

/-- What holds of an executor between two calls. -/
structure Valid (segments : List MotionSegment) (base : List AxisRuntime)
    (executor : MotionExecutor) : Prop
    extends Scheduled executor.nowNs.toNat segments base executor where
  /-- The next segment follows those in the queue. -/
  available : ∀ segment ∈ segments, segment.endNs ≤ executor.nextAvailableTimeNs.toNat
  /-- A segment must be there before it starts. -/
  lead : 0 < executor.minimumLeadTimeNs.toNat
  /-- A latched fault has emptied the queue. -/
  stopped : Stopped executor

/-- A segment that is accepted fits. -/
theorem Valid.segmentFits (h : Valid segments base executor) (htyped : segment.Typed)
    {runtime : SegmentRuntime}
    (hcheck : executor.checkSegment segment nowNs = .ok runtime) :
    SegmentFits (configsOf executor.axes) runtime.segment := by
  obtain ⟨-, -, hduration, startTimeNs, moves, hstart, -, hend, hmoves, rfl⟩ :=
    checkSegment_spec hcheck
  obtain ⟨-, hlength, hnodup, -⟩ := checkSegment_ok hcheck
  obtain ⟨-, hlt⟩ := lt_startTime h.lead hstart hduration hend
  obtain ⟨-, hall⟩ := admitMoves_spec hmoves
  have hpos : 0 < segment.durationNs.toNat := by
    rw [Nat.pos_iff_ne_zero]
    exact fun hzero => hduration (UInt64.toNat_inj.1 hzero)
  refine ⟨hnodup, fun move hmem => ?_, fun config hconfig => ?_, Nat.lt_add_of_pos_right hpos, hlt⟩
  · obtain ⟨axis, haxis, hsteps⟩ := hall move hmem
    refine ⟨axis.config, by rw [findConfig_configsOf, haxis]; rfl, fun hne => ?_⟩
    have hrange := htyped move hmem
    have hcount : absoluteSteps move.steps ≠ 0 := by
      intro hzero
      have hnat : (absoluteSteps move.steps).toNat = move.steps.natAbs :=
        UInt64.toNat_ofNat_of_lt' (show _ < 2^64 by omega)
      rw [hzero] at hnat
      exact hne (Int.natAbs_eq_zero.1 hnat.symm)
    have hconfigured : axisConfigured axis.config := by
      refine h.configured.axis axis.config ?_
      rw [← h.configsOf_eq]
      exact List.mem_map_of_mem (List.mem_of_find?_eq_some haxis)
    exact ⟨by omega, room_of_stepsFit hconfigured (hsteps hcount), hlt⟩
  · refine exists_move_of_checkSegment hcheck ?_
    obtain ⟨axis, haxis, rfl⟩ := List.mem_map.1 hconfig
    exact List.mem_map_of_mem haxis

/-- A segment that is accepted joins the queue. -/
theorem Valid.push (h : Valid segments base executor) (htyped : segment.Typed)
    {runtime : SegmentRuntime}
    (hcheck : executor.checkSegment segment nowNs = .ok runtime) :
    Valid (segments ++ [runtime.segment]) base (executor.push runtime) := by
  -- The check bounds the start, so that the segment lies ahead of the clock and of the queue.
  have hfits := h.segmentFits htyped hcheck
  obtain ⟨hnow, hlast, hduration, startTimeNs, moves, hstart, hjoined, hend, hmoves, rfl⟩ :=
    checkSegment_spec hcheck
  obtain ⟨hlate, hlt⟩ := lt_startTime h.lead hstart hduration hend
  obtain ⟨rfl, -⟩ := admitMoves_spec hmoves
  have hlater : executor.nowNs.toNat < startTimeNs.toNat :=
    (UInt64.le_iff_toNat_le.1 hnow).trans_lt hlate
  have hfresh := playedSegment_of_lt hfits hlater
  have hends : ∀ segment' ∈ segments, segment'.endNs ≤ startTimeNs.toNat := by
    intro segment' hmem
    have hne : executor.queue ≠ [] := by
      rw [h.queue]
      exact List.ne_nil_of_mem (List.mem_map_of_mem hmem)
    rw [hjoined hne]
    exact h.available segment' hmem
  -- The last segment is not final, and the others are not last.
  have hnotfinal : ∀ segment' ∈ segments, segment'.finalSegment = false := by
    rcases segments.eq_nil_or_concat with rfl | ⟨init, last, rfl⟩
    · nofun
    have hqueue := h.queue
    rw [List.concat_eq_append] at hqueue ⊢
    intro segment' hmem
    rcases List.mem_append.1 hmem with hmem | hmem
    · have hordered := h.ordered
      rw [List.concat_eq_append] at hordered
      exact ((List.pairwise_append.1 hordered).2.2 segment' hmem last List.mem_cons_self).2
    · obtain rfl := List.mem_singleton.1 hmem
      rw [List.map_append, List.map_singleton] at hqueue
      exact hlast _ (by rw [hqueue, List.getLast?_concat]; rfl)
  -- A segment in the new queue is an old one or the new one.
  have hnew : ∀ segment' ∈ segments ++ [{ segment with startTimeNs := startTimeNs }],
      segment' ∈ segments ∨ segment' = { segment with startTimeNs := startTimeNs } := fun segment'
        hmem => (List.mem_append.1 hmem).imp_right List.mem_singleton.1
  refine ⟨⟨⟨?_, ?_, ?_⟩, h.configured, ?_, ?_, ?_, h.low⟩, ?_, h.lead, ?_⟩
  · rw [List.map_append, List.map_singleton]
    exact congrArg₂ (· ++ ·) h.queue (congrArg (fun runtime => [runtime]) hfresh.symm)
  · intro segment' hmem
    rcases hnew segment' hmem with hmem | rfl
    · exact h.fits segment' hmem
    · exact hfits
  · intro segment' hmem
    rcases hnew segment' hmem with hmem | rfl
    · exact h.since_lt segment' hmem
    · exact hlater.trans_le (Nat.le_add_right _ _)
  · refine h.axes.trans ?_
    cases segments with
    | nil =>
      exact (playedAxes_of_lt (h.configsOf_eq ▸ hfits) hlater).symm
    | cons first segments => rfl
  -- The new segment starts where the last one ends, and that one is not final.
  · refine List.pairwise_append.2 ⟨h.ordered, List.pairwise_singleton _ _, ?_⟩
    intro a ha b hb
    obtain rfl := List.mem_singleton.1 hb
    exact ⟨hends a ha, hnotfinal a ha⟩
  · intro segment' hmem
    rcases hnew segment' hmem with hmem | rfl
    · exact h.startNs_pos segment' hmem
    · exact (Nat.zero_le _).trans_lt hlater
  -- The time from which the next segment may start is the end of the new one.
  · have hnext : (startTimeNs + segment.durationNs).toNat =
        startTimeNs.toNat + segment.durationNs.toNat := toNat_end hfits.end_lt
    intro segment' hmem
    show segment'.endNs ≤ (startTimeNs + segment.durationNs).toNat
    rw [hnext]
    rcases hnew segment' hmem with hmem | rfl
    · exact (hends segment' hmem).trans (Nat.le_add_right _ _)
    · exact le_rfl
  · exact fun hfault => absurd (fault_of_checkSegment hcheck) hfault

/-! ## What the calls keep -/

/-- The executor at the end of `advance_to`. -/
def settle (executor : MotionExecutor) (nowNs : UInt64) : MotionExecutor :=
  { executor with
    nowNs := nowNs
    state :=
      if executor.queue = [] ∧ executor.fault = .none ∧ executor.state ≠ .faulted then .idle
      else executor.state }

/-- Unless the time goes backwards, `advance_to` runs its loop. -/
theorem advanceTo_eq (executor : MotionExecutor) (nowNs : UInt64) :
    executor.advanceTo nowNs =
      if nowNs < executor.nowNs then .error ⟨.timeWentBackwards, "运动执行时间不能倒退"⟩
      else .ok (executor.sort.run (executor.drain nowNs).1,
        (executor.drain nowNs).2.settle nowNs) := rfl

/-- A stop keeps the lead time. -/
theorem stopSafely_lead (executor : MotionExecutor) (atNs : UInt64) (fault : MotionFault) :
    (executor.stopSafely atNs fault).2.minimumLeadTimeNs = executor.minimumLeadTimeNs := by
  unfold stopSafely countEdges
  dsimp only
  rw [applyEdges_eq]
  unfold enterSafeState
  dsimp only
  split <;> rfl

/-- The loop keeps the times of an executor that it does not stop. -/
theorem drain_keeps (executor : MotionExecutor) (nowNs : UInt64) :
    (executor.drain nowNs).2.minimumLeadTimeNs = executor.minimumLeadTimeNs ∧
      ((executor.drain nowNs).2.queue ≠ [] →
        (executor.drain nowNs).2.nextAvailableTimeNs = executor.nextAvailableTimeNs) := by
  generalize hqueue : executor.queue = queue
  induction queue generalizing executor with
  | nil =>
    rw [drain_nil hqueue]
    exact ⟨rfl, fun _ => rfl⟩
  | cons current rest ih =>
    by_cases hbegun : nowNs < current.segment.startTimeNs
    · rw [drain_wait hqueue (UInt64.lt_iff_toNat_lt.1 hbegun)]
      exact ⟨rfl, fun _ => rfl⟩
    -- The edges of the first segment change neither of the times.
    · rw [drain_begun hqueue hbegun]
      have hcollect : (executor.running.collectSegmentEdges current nowNs).2.2.minimumLeadTimeNs =
            executor.minimumLeadTimeNs ∧
          (executor.running.collectSegmentEdges current nowNs).2.2.nextAvailableTimeNs =
            executor.nextAvailableTimeNs := by
        unfold collectSegmentEdges countEdges
        dsimp only
        rw [applyEdges_eq]
        exact ⟨rfl, rfl⟩
      generalize executor.running.collectSegmentEdges current nowNs = collected at *
      obtain ⟨edges, current', executor'⟩ := collected
      -- Behind its end the executor is stopped, or goes on with the rest.
      have hfinish : (executor'.finish nowNs current.segment rest).2.minimumLeadTimeNs =
            executor.minimumLeadTimeNs ∧
          ((executor'.finish nowNs current.segment rest).2.queue ≠ [] →
            (executor'.finish nowNs current.segment rest).2.nextAvailableTimeNs =
              executor.nextAvailableTimeNs) := by
        unfold finish
        dsimp only
        split
        · exact ⟨(stopSafely_lead _ _ _).trans hcollect.1,
            fun hne => absurd (stopSafely_spec _ _ _).1 hne⟩
        · split
          · exact ⟨(stopSafely_lead _ _ _).trans hcollect.1,
              fun hne => absurd (stopSafely_spec _ _ _).1 hne⟩
          · obtain ⟨hlead, havailable⟩ := ih (executor'.completeSegment current.segment rest) rfl
            exact ⟨hlead.trans hcollect.1, fun hne => (havailable hne).trans hcollect.2⟩
      dsimp only
      split
      · exact ⟨hcollect.1, fun _ => hcollect.2⟩
      · exact hfinish

/-- `advance_to` completes segments and begins the next one. -/
theorem Valid.advanceTo (h : Valid segments base executor) {edges : List MotionEdge}
    (hadvance : executor.advanceTo nowNs = .ok (edges, executor')) :
    ∃ completed remaining base', segments = completed ++ remaining ∧
      Drained executor.nowNs.toNat nowNs.toNat completed remaining base base' edges executor' ∧
      Valid remaining base' executor' := by
  have hstopped := advanceTo_stopped h.stopped hadvance
  rw [advanceTo_eq] at hadvance
  split at hadvance
  · cases hadvance
  next hnow =>
  obtain ⟨rfl, rfl⟩ := Prod.mk.inj (Except.ok.inj hadvance)
  have hsince : executor.nowNs.toNat ≤ nowNs.toNat :=
    UInt64.le_iff_toNat_le.1 (UInt64.not_lt.1 hnow)
  obtain ⟨completed, remaining, base', hsplit, hdrained⟩ := drain_drained h.toScheduled hsince
  obtain ⟨hlead, havailable⟩ := drain_keeps executor nowNs
  have hscheduled : Scheduled nowNs.toNat remaining base' ((executor.drain nowNs).2.settle nowNs) :=
    hdrained.scheduled.congr rfl rfl
  refine ⟨completed, remaining, base', hsplit, ⟨hscheduled, hdrained.ended, hdrained.configs,
    hdrained.position, fun edge hedge => hdrained.times edge (Sorter.mem_run.1 hedge),
    fun config hconfig => ((executor.sort.perm _).filter _).trans (hdrained.steps config hconfig),
    fun edge hedge => hdrained.directions edge (Sorter.mem_run.1 hedge)⟩,
    ⟨hscheduled, fun segment hmem => ?_, ?_, hstopped⟩⟩
  · have hne : (executor.drain nowNs).2.queue ≠ [] := by
      rw [hdrained.scheduled.queue]
      exact List.ne_nil_of_mem (List.mem_map_of_mem hmem)
    show segment.endNs ≤ (executor.drain nowNs).2.nextAvailableTimeNs.toNat
    rw [havailable hne]
    exact h.available segment (hsplit ▸ List.mem_append_right _ hmem)
  · show 0 < (executor.drain nowNs).2.minimumLeadTimeNs.toNat
    rw [hlead]
    exact h.lead

/-- A stop turns off the step outputs. -/
theorem stopSafely_rest (executor : MotionExecutor) (atNs : UInt64) (fault : MotionFault) :
    configsOf (executor.stopSafely atNs fault).2.axes = configsOf executor.axes ∧
      ∀ axis ∈ (executor.stopSafely atNs fault).2.axes, axis.stepLevel = false := by
  rw [stopSafely_axes]
  refine ⟨configsOf_map (config_playEdges _) _, fun axis' hmem => ?_⟩
  obtain ⟨axis, haxis, rfl⟩ := List.mem_map.1 hmem
  show (playEdges _ axis).level .step = false
  refine level_playEdges (fun edge hedge _ hsignal => ?_) ?_
  · obtain ⟨_, -, ⟨-, rfl⟩ | ⟨-, rfl⟩⟩ := mem_stopSafely.1 hedge
    · rfl
    · cases hsignal
  · cases hlevel : axis.stepLevel with
    | false => exact .inl hlevel
    | true => exact .inr ⟨_, mem_stopSafely.2 ⟨axis, haxis, .inl ⟨hlevel, rfl⟩⟩, rfl, rfl⟩

/-- An executor that is stopped is valid. -/
theorem Valid.stopSafely (h : Valid segments base executor) (atNs : UInt64) (fault : MotionFault) :
    Valid [] (executor.stopSafely atNs fault).2.axes (executor.stopSafely atNs fault).2 := by
  have hconfigured : Configured (configsOf executor.axes) := h.configsOf_eq ▸ h.configured
  obtain ⟨hconfigs, hlow⟩ := stopSafely_rest executor atNs fault
  have hlead := stopSafely_lead executor atNs fault
  refine ⟨⟨⟨(stopSafely_spec executor atNs fault).1, nofun, nofun⟩, hconfigs ▸ hconfigured, rfl,
    .nil, nofun, hlow⟩, nofun, hlead ▸ h.lead, stopSafely_stopped executor atNs fault⟩

/-- A stop leaves a valid executor. -/
theorem Valid.abort (h : Valid segments base executor) {fault : MotionFault}
    {edges : List MotionEdge} (habort : executor.abort nowNs fault = .ok (edges, executor')) :
    ∃ segments base, Valid segments base executor' := by
  unfold MotionExecutor.abort at habort
  split at habort
  · cases habort
  split at habort
  · cases habort
  split at habort
  · cases habort
  next hadvance =>
  obtain rfl := (Prod.mk.inj (Except.ok.inj habort)).2
  obtain ⟨_, _, _, -, -, hvalid⟩ := h.advanceTo hadvance
  exact ⟨_, _, hvalid.stopSafely _ _⟩

/-- Every call leaves a valid executor. -/
theorem Valid.call (h : Valid segments base executor) {call : ExecutorCall} (htyped : call.Typed) :
    ∃ segments base, Valid segments base (executor.call call).1 := by
  -- A segment is rejected, or is put behind the others.
  cases call with
  | enqueue segment nowNs =>
    obtain hreject | ⟨runtime, hcheck, hpush⟩ :
        (executor.enqueue segment nowNs).2 = executor.reject ∨ _ := enqueue_cases segment nowNs
    · refine ⟨segments, base, ?_⟩
      show Valid segments base (executor.enqueue segment nowNs).2
      rw [hreject]
      exact ⟨h.toScheduled.congr rfl rfl, h.available, h.lead, h.stopped⟩
    · refine ⟨segments ++ [runtime.segment], base, ?_⟩
      show Valid (segments ++ [runtime.segment]) base (executor.enqueue segment nowNs).2
      rw [hpush]
      exact h.push htyped hcheck
  -- Calls that throw leave the executor as it is.
  | advanceTo nowNs =>
    unfold MotionExecutor.call
    dsimp only
    split
    · next hadvance =>
      obtain ⟨_, _, _, -, -, hvalid⟩ := h.advanceTo hadvance
      exact ⟨_, _, hvalid⟩
    · exact ⟨_, _, h⟩
  | abort nowNs fault =>
    unfold MotionExecutor.call
    dsimp only
    split
    · next habort => exact h.abort habort
    · exact ⟨_, _, h⟩
  | triggerLimit axisResourceId nowNs =>
    show ∃ segments base, Valid segments base (executor.triggerLimit axisResourceId nowNs).2
    unfold MotionExecutor.triggerLimit
    split
    · exact ⟨segments, base, h.toScheduled.congr rfl rfl, h.available, h.lead, h.stopped⟩
    -- The stop is counted before the abort, which may be refused.
    · have hcounted : Valid segments base { executor with metrics :=
          { executor.metrics with limitStops := executor.metrics.limitStops + 1 } } :=
        ⟨h.toScheduled.congr rfl rfl, h.available, h.lead, h.stopped⟩
      dsimp only
      split
      · exact ⟨_, _, hcounted⟩
      · next habort => exact hcounted.abort habort
  | clearFault =>
    unfold MotionExecutor.call
    dsimp only
    split
    · next hclear =>
      -- A fault is cleared only with an empty queue.
      obtain ⟨hqueue, rfl⟩ := clearFault_eq_ok_iff.1 hclear
      have hnone : segments = [] := by
        have hmap := h.queue
        rw [hqueue] at hmap
        exact List.map_eq_nil_iff.1 hmap.symm
      subst hnone
      exact ⟨[], base, h.toScheduled.congr rfl rfl, nofun, h.lead, fun hne => absurd rfl hne⟩
    · exact ⟨_, _, h⟩

/-- The constructor takes axes with different numbers and positive times. -/
theorem configureAxes_spec {seen : List UInt32} {configs : List MotionAxisConfig}
    {runtimes : List AxisRuntime} (h : configureAxes seen configs = .ok runtimes) :
    runtimes = configs.map ({ config := · }) ∧ Configured configs ∧
      ∀ config ∈ configs, config.resourceId ∉ seen ∧ rateConfigured config := by
  induction configs generalizing seen runtimes with
  | nil => exact ⟨(Except.ok.inj h).symm, ⟨List.nodup_nil, nofun⟩, nofun⟩
  | cons config rest ih =>
    unfold configureAxes at h
    split at h
    · cases h
    next hconfig =>
    split at h
    · cases h
    next hrate =>
    obtain ⟨haxis, hfresh⟩ := not_or.1 hconfig
    cases hrest : configureAxes (config.resourceId :: seen) rest with
    | error e => rw [hrest] at h; cases h
    | ok runtimes' =>
      obtain ⟨hruntimes, hconfigured, hall⟩ := ih hrest
      rw [hrest, hruntimes] at h
      refine ⟨(Except.ok.inj h).symm, ⟨?_, fun config' hmem => ?_⟩, fun config' hmem => ?_⟩
      · refine List.nodup_cons.2 ⟨fun hmem => ?_, hconfigured.nodup⟩
        obtain ⟨config', hmem, hid⟩ := List.mem_map.1 hmem
        exact (hall config' hmem).1 (hid ▸ List.mem_cons_self)
      · rcases List.mem_cons.1 hmem with rfl | hmem
        · exact not_not.1 haxis
        · exact hconfigured.axis config' hmem
      · rcases List.mem_cons.1 hmem with rfl | hmem
        · exact ⟨hfresh, not_not.1 hrate⟩
        · exact ⟨fun hseen => (hall config' hmem).1 (List.mem_cons_of_mem _ hseen),
            (hall config' hmem).2⟩

/-- An executor that the constructor makes is valid without a segment. -/
theorem create_valid {sort : Sorter EdgeLe} {axes : List MotionAxisConfig} {capacity : ℕ}
    {lead : UInt64} (h : create sort axes capacity lead = .ok executor) :
    Valid [] executor.axes executor ∧ configsOf executor.axes = axes := by
  have hlead : lead ≠ 0 := by
    unfold create at h
    split at h
    · cases h
    · next hbudget => tauto
  obtain ⟨runtimes, hruntimes, rfl⟩ := create_eq_ok h
  obtain ⟨rfl, hconfigured, -⟩ := configureAxes_spec hruntimes
  have hconfigs : configsOf (axes.map fun config => { config := config }) = axes := by
    unfold configsOf
    rw [List.map_map]
    exact List.map_id axes
  refine ⟨⟨⟨⟨rfl, nofun, nofun⟩, hconfigs.symm ▸ hconfigured, rfl, .nil, nofun,
      fun axis hmem => ?_⟩,
    nofun, ?_, fun hne => absurd rfl hne⟩, hconfigs⟩
  · obtain ⟨config, -, rfl⟩ := List.mem_map.1 hmem
    rfl
  · rw [Nat.pos_iff_ne_zero]
    exact fun hzero => hlead (UInt64.toNat_inj.1 hzero)

/-- Every executor that can be reached is valid. -/
theorem reachable_valid (h : Reachable executor) :
    ∃ segments base, Valid segments base executor := by
  obtain ⟨sort, axes, capacity, lead, initial, calls, hcreate, htyped, rfl⟩ := h
  have hinitial : ∃ segments base, Valid segments base initial := ⟨_, _, (create_valid hcreate).1⟩
  clear hcreate
  induction calls generalizing initial with
  | nil => exact hinitial
  | cons call calls ih =>
    obtain ⟨_, _, hvalid⟩ := hinitial
    exact ih _ (fun call' hmem => htyped call' (List.mem_cons_of_mem _ hmem))
      (hvalid.call (htyped call List.mem_cons_self))

end MotionExecutor

end RemoteBSP.MockMcu
