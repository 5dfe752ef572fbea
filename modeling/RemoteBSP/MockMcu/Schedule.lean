import RemoteBSP.MockMcu.Polling

/-!
# The segments in the queue

What the loop of `advance_to` makes of the segments in the queue. Axes at rest that play a segment
move by its steps (`positionOf_playedAxes`) and are at rest again when it ends
(`stepLevel_playedAxes`). So the loop completes some of the segments, has begun one of the others,
and made the steps of all of them up to the time (`drain_drained`).
-/

namespace RemoteBSP.MockMcu

open MotionExecutor

variable {configs : List MotionAxisConfig} {config : MotionAxisConfig} {segment : MotionSegment}
  {segments rest : List MotionSegment} {base : List AxisRuntime} {axis : AxisRuntime}
  {edge : MotionEdge} {s t since : ℕ} {executor : MotionExecutor}

/-- What a segment does with an axis. -/
def moveOf (segment : MotionSegment) (id : UInt32) : MotionAxisMove :=
  (segment.axes.find? fun move => move.resourceId = id).getD ⟨id, 0⟩

/-- The steps of a segment on an axis. -/
def stepEdges (config : MotionAxisConfig) (segment : MotionSegment) : List MotionEdge :=
  rises config segment (moveOf segment config.resourceId) ++
    falls config segment (moveOf segment config.resourceId)

/-- The edges of the step output of an axis. -/
def stepsOf (id : UInt32) (edges : List MotionEdge) : List MotionEdge :=
  edges.filter fun edge => edge.axisResourceId = id ∧ edge.signal = .step

/-- The position of the axis of an ID, zero if there is none. -/
def positionOf (axes : List AxisRuntime) (id : UInt32) : ℤ :=
  ((requireAxis axes id).map AxisRuntime.positionSteps).getD 0

/-- What the constructor has checked of the axes. -/
structure Configured (configs : List MotionAxisConfig) : Prop where
  /-- The axes have different IDs. -/
  nodup : (configs.map MotionAxisConfig.resourceId).Nodup
  /-- Each axis passes the checks of the constructor. -/
  axis : ∀ config ∈ configs, axisConfigured config

/-- The times of an axis are positive. -/
theorem Configured.pos (h : Configured configs) (hconfig : config ∈ configs) :
    0 < config.stepPulseWidthNs.toNat ∧ 0 < config.minimumStepLowNs.toNat ∧
      0 < config.directionSetupNs.toNat := by
  have hpos : ∀ word : UInt32, word ≠ 0 → 0 < word.toNat := by
    intro word hne
    rw [Nat.pos_iff_ne_zero]
    exact fun hzero => hne (UInt32.toNat_inj.1 hzero)
  obtain ⟨-, -, hwidth, hlow, hsetup⟩ := h.axis config hconfig
  exact ⟨hpos _ hwidth, hpos _ hlow, hpos _ hsetup⟩

/-- A segment that fits the axes has a move for each of them, which passes the checks. -/
theorem moveOf_mem (hfits : SegmentFits configs segment) (hconfig : config ∈ configs) :
    moveOf segment config.resourceId ∈ segment.axes ∧
      (moveOf segment config.resourceId).resourceId = config.resourceId := by
  obtain ⟨move, hmove, hid⟩ := hfits.covers config hconfig
  unfold moveOf
  cases hfind : segment.axes.find? fun move => move.resourceId = config.resourceId with
  | none =>
    have hnone := List.find?_eq_none.1 hfind move hmove
    exact absurd (decide_eq_true hid) hnone
  | some move' =>
    have hfound := List.find?_some hfind
    exact ⟨List.mem_of_find?_eq_some hfind, of_decide_eq_true hfound⟩

/-- A configuration is found by its number. -/
theorem findConfig_of_mem (hconfigured : Configured configs) (hconfig : config ∈ configs) :
    findConfig configs config.resourceId = some config := by
  cases hfind : findConfig configs config.resourceId with
  | none =>
    have hnone := List.find?_eq_none.1 hfind config hconfig
    exact absurd (decide_eq_true rfl) hnone
  | some config' =>
    have hfound := List.find?_some hfind
    have hid := of_decide_eq_true hfound
    rw [List.inj_on_of_nodup_map hconfigured.nodup (List.mem_of_find?_eq_some hfind) hconfig hid]

/-- `require_axis` finds each axis by its ID. -/
theorem requireAxis_of_mem (hconfigured : Configured (configsOf base)) (haxis : axis ∈ base) :
    requireAxis base axis.config.resourceId = some axis := by
  have hnodup := hconfigured.nodup
  unfold configsOf at hnodup
  rw [List.map_map] at hnodup
  cases hfind : requireAxis base axis.config.resourceId with
  | none =>
    have hnone := List.find?_eq_none.1 hfind axis haxis
    exact absurd (decide_eq_true rfl) hnone
  | some axis' =>
    have hid := resourceId_of_requireAxis hfind
    rw [List.inj_on_of_nodup_map hnodup (List.mem_of_find?_eq_some hfind) haxis hid]

/-- The steps of a move that has been accepted. -/
theorem fits_moveOf (hfits : SegmentFits configs segment) (hconfigured : Configured configs)
    (hconfig : config ∈ configs) : (moveOf segment config.resourceId).steps ≠ 0 →
      Fits config segment (moveOf segment config.resourceId).steps := by
  obtain ⟨hmem, hid⟩ := moveOf_mem hfits hconfig
  obtain ⟨config', hfind, hsteps⟩ := hfits.moves _ hmem
  rw [hid, findConfig_of_mem hconfigured hconfig] at hfind
  rwa [← Option.some.inj hfind] at hsteps

/-- The steps of a segment on an axis between two times. -/
theorem stepsOf_segmentEdges (hfits : SegmentFits (configsOf base) segment)
    (hconfigured : Configured (configsOf base)) (haxis : axis ∈ base) (s t : ℕ) :
    stepsOf axis.config.resourceId (segmentEdges base segment s t) =
      between s t (stepEdges axis.config segment) := by
  obtain ⟨hmem, hid⟩ := moveOf_mem hfits (List.mem_map_of_mem haxis)
  have hfind := requireAxis_of_mem hconfigured haxis
  rw [← hid] at hfind
  have hfilter := filter_segmentEdges hfits hmem hfind s t
  -- The steps on an axis are the step edges among the edges on this axis.
  have hsplit : stepsOf axis.config.resourceId (segmentEdges base segment s t) =
      ((segmentEdges base segment s t).filter (·.axisResourceId = axis.config.resourceId)).filter
        (·.signal = .step) := by
    unfold stepsOf
    rw [List.filter_filter]
    refine List.filter_congr fun edge _ => ?_
    rw [Bool.decide_and, Bool.and_comm]
  rw [hid] at hfilter
  rw [hsplit, hfilter]
  unfold playMove stepEdges
  rw [List.append_assoc, List.filter_append]
  -- The control edges are no steps.
  have hcontrols : (if (moveOf segment axis.config.resourceId).steps ≠ 0 ∧ s < segment.startNs ∧
      segment.startNs ≤ t then controlEdges axis segment (moveOf segment axis.config.resourceId)
        else []).filter (·.signal = .step) = [] := by
    rw [List.filter_eq_nil_iff]
    intro edge hedge hstep
    have hstep := of_decide_eq_true hstep
    split at hedge
    · obtain ⟨-, -, -, ⟨hsignal, -⟩ | ⟨hsignal, -⟩⟩ := of_mem_controlEdges hedge <;>
        rw [hstep] at hsignal <;> cases hsignal
    · exact absurd hedge List.not_mem_nil
  rw [hcontrols, List.nil_append]
  unfold between
  rw [← List.filter_append, List.filter_eq_self]
  intro edge hedge
  rcases List.mem_append.1 (List.mem_filter.1 hedge).1 with hrise | hfall
  · obtain ⟨_, -, rfl⟩ := of_mem_rises hrise
    rfl
  · obtain ⟨_, -, rfl⟩ := of_mem_falls hfall
    rfl

/-! ## A segment that is played from rest -/

/-- A segment played on axes at rest. -/
def playedAxes (base : List AxisRuntime) (segment : MotionSegment) (time : ℕ) : List AxisRuntime :=
  base.map (playEdges (inOrder (segmentEdges base segment 0 time)))

/-- Playing does not change which axes there are. -/
theorem configsOf_playedAxes : configsOf (playedAxes base segment t) = configsOf base :=
  configsOf_map (config_playEdges _) _

/-- No edge of a segment comes before its start. -/
theorem startNs_le_time (hfits : SegmentFits (configsOf base) segment)
    (hmem : edge ∈ segmentEdges base segment s t) : segment.startNs ≤ edge.time := by
  obtain ⟨move, hmove, axis, haxis, hplay⟩ := mem_segmentEdges.1 hmem
  obtain ⟨config, hconfig, hsteps⟩ := hfits.moves move hmove
  rw [findConfig_configsOf, haxis] at hconfig
  obtain rfl := Option.some.inj hconfig
  rcases mem_playMove.1 hplay with ⟨hcontrol, -⟩ | ⟨hstep, -⟩
  · exact (of_mem_controlEdges hcontrol).1.ge
  · exact (Nat.le_add_right _ _).trans (time_of_mem_steps hsteps hstep).1

/-- A segment that has not begun has made no edges. -/
theorem segmentEdges_of_lt (hfits : SegmentFits (configsOf base) segment) (s : ℕ)
    (ht : t < segment.startNs) : segmentEdges base segment s t = [] := by
  rw [List.eq_nil_iff_forall_not_mem]
  intro edge hmem
  have hlow := startNs_le_time hfits hmem
  have hhigh := (time_of_mem_segmentEdges hmem).2
  omega

/-- A segment that has not begun has done nothing. -/
theorem playedAxes_of_lt (hfits : SegmentFits (configsOf base) segment)
    (ht : t < segment.startNs) : playedAxes base segment t = base := by
  unfold playedAxes
  rw [segmentEdges_of_lt hfits 0 ht]
  exact List.map_id base

/-- A segment goes on in the same way. -/
theorem segmentEdges_playedAxes (hfits : SegmentFits (configsOf base) segment) (s t : ℕ) :
    segmentEdges (playedAxes base segment s) segment s t = segmentEdges base segment s t := by
  rcases lt_or_ge s segment.startNs with hlt | hge
  · rw [playedAxes_of_lt hfits hlt]
  · exact segmentEdges_map (config_playEdges _) base hge t

/-- A segment that goes on does what it does at once. -/
theorem playedAxes_playedAxes (hfits : SegmentFits (configsOf base) segment) (hst : s ≤ t) :
    (playedAxes base segment s).map (playEdges (inOrder (segmentEdges (playedAxes base segment s)
      segment s t))) = playedAxes base segment t := by
  rw [segmentEdges_playedAxes hfits]
  unfold playedAxes
  rw [List.map_map, inOrder_segmentEdges hfits base (Nat.zero_le s) hst]
  exact List.map_congr_left fun axis _ => (playEdges_append _ _ axis).symm

/-- The position of an axis while a segment is played. -/
theorem positionOf_playedAxes (hfits : SegmentFits (configsOf base) segment)
    (hconfigured : Configured (configsOf base)) (hstart : 0 < segment.startNs)
    (hconfig : config ∈ configsOf base) (t : ℕ) :
    positionOf (playedAxes base segment t) config.resourceId =
      positionOf base config.resourceId +
        stepsMade config segment (moveOf segment config.resourceId) t := by
  obtain ⟨axis, haxis, rfl⟩ := List.mem_map.1 hconfig
  obtain ⟨hmem, hid⟩ := moveOf_mem hfits hconfig
  have hfind := requireAxis_of_mem hconfigured haxis
  unfold positionOf playedAxes
  rw [requireAxis_map (config_playEdges _), hfind, Option.map_some, Option.map_some,
    Option.map_some]
  exact positionSteps_playEdges_segment hfits hmem ((congrArg _ hid).trans hfind)
    (hconfigured.pos hconfig).2.2 (fits_moveOf hfits hconfigured hconfig) hstart

/-- At the end of a segment the step outputs are low again. -/
theorem stepLevel_playedAxes (hfits : SegmentFits (configsOf base) segment)
    (hconfigured : Configured (configsOf base)) (hstart : 0 < segment.startNs)
    (hlow : ∀ axis ∈ base, axis.stepLevel = false) :
    ∀ axis ∈ playedAxes base segment segment.endNs, axis.stepLevel = false := by
  intro axis' haxis'
  obtain ⟨axis, haxis, rfl⟩ := List.mem_map.1 haxis'
  have hconfig : axis.config ∈ configsOf base := List.mem_map_of_mem haxis
  obtain ⟨hmem, hid⟩ := moveOf_mem hfits hconfig
  have hfind := requireAxis_of_mem hconfigured haxis
  exact stepLevel_playEdges_segment hfits hmem ((congrArg _ hid).trans hfind)
    (hconfigured.pos hconfig).1
    (fits_moveOf hfits hconfigured hconfig) hstart le_rfl (hlow axis haxis)

/-! ## Turning off the outputs -/

/-- The edges that turn off the outputs: one for every step output and every driver that is on. -/
theorem mem_stopSafely {atNs : UInt64} {fault : MotionFault} :
    edge ∈ (executor.stopSafely atNs fault).1 ↔ ∃ axis ∈ executor.axes,
      axis.stepLevel = true ∧ edge = ⟨atNs, atNs, axis.config.resourceId, .step, false⟩ ∨
        axis.enabled = true ∧ edge = ⟨atNs, atNs, axis.config.resourceId, .enable, false⟩ := by
  unfold stopSafely enterSafeState
  dsimp only
  rw [Sorter.mem_run, List.mem_flatMap]
  refine exists_congr fun axis => and_congr_right fun _ => ?_
  rw [List.mem_append]
  refine or_congr ?_ ?_
  · split
    · next hhigh =>
      rw [List.mem_singleton]
      exact ⟨fun h => ⟨hhigh, h⟩, fun h => h.2⟩
    · next hlow => exact ⟨fun h => absurd h List.not_mem_nil, fun h => absurd h.1 hlow⟩
  · split
    · next hon =>
      rw [List.mem_singleton]
      exact ⟨fun h => ⟨hon, h⟩, fun h => h.2⟩
    · next hoff => exact ⟨fun h => absurd h List.not_mem_nil, fun h => absurd h.1 hoff⟩

/-- Of the edges of a safe stop no two of one axis come at the same place of the order. -/
theorem noTies_stopSafely (executor : MotionExecutor) (atNs : UInt64) (fault : MotionFault) :
    NoTies EdgeLe (executor.stopSafely atNs fault).1 := by
  intro a ha b hb hab hba
  obtain ⟨-, horder, haxis⟩ := eq_of_edgeLe hab hba
  obtain ⟨hsignal, -⟩ := of_edgeOrder_eq horder
  obtain ⟨_, -, ⟨-, rfl⟩ | ⟨-, rfl⟩⟩ := mem_stopSafely.1 ha <;>
    obtain ⟨_, -, ⟨-, rfl⟩ | ⟨-, rfl⟩⟩ := mem_stopSafely.1 hb <;>
    dsimp only at hsignal haxis <;> simp_all

/-- The axes play the edges that turn them off. -/
theorem stopSafely_axes (executor : MotionExecutor) (atNs : UInt64) (fault : MotionFault) :
    (executor.stopSafely atNs fault).2.axes =
      executor.axes.map (playEdges (executor.stopSafely atNs fault).1) := by
  unfold stopSafely countEdges
  dsimp only
  rw [applyEdges_eq_play]
  unfold enterSafeState
  dsimp only
  split <;> rfl

/-- Axes at rest are turned off without a step. -/
theorem stopSafely_low (hlow : ∀ axis ∈ executor.axes, axis.stepLevel = false) (atNs : UInt64)
    (fault : MotionFault) : ∀ edge ∈ (executor.stopSafely atNs fault).1,
      edge.signal = .enable ∧ edge.time = atNs.toNat := by
  intro edge hedge
  obtain ⟨axis, haxis, ⟨hhigh, -⟩ | ⟨-, rfl⟩⟩ := mem_stopSafely.1 hedge
  · rw [hlow axis haxis] at hhigh
    cases hhigh
  · exact ⟨rfl, rfl⟩

/-- Edges of the drivers leave the axes where they are. -/
theorem playEdges_of_enable {edges : List MotionEdge} (h : ∀ edge ∈ edges, edge.signal = .enable)
    (axis : AxisRuntime) : (playEdges edges axis).stepLevel = axis.stepLevel ∧
      (playEdges edges axis).positionSteps = axis.positionSteps := by
  have hnostep : ∀ edge ∈ edges, edge.signal ≠ .step := by
    intro edge hedge hstep
    rw [h edge hedge] at hstep
    cases hstep
  constructor
  · show (playEdges edges axis).level .step = axis.stepLevel
    exact level_playEdges (fun edge hedge _ hsignal => absurd hsignal (hnostep edge hedge))
      (.inl rfl)
  · exact positionSteps_playEdges_eq fun edge hedge _ => hnostep edge hedge

/-! ## The queue -/

/-- The axes when the first segment has been played up to a time. -/
def axesAt (base : List AxisRuntime) (segments : List MotionSegment) (time : ℕ) :
    List AxisRuntime :=
  match segments.head? with
  | some segment => playedAxes base segment time
  | none => base

/-- The queue holds segments one after another, the first of which moves axes that were at rest. -/
structure Scheduled (since : ℕ) (segments : List MotionSegment) (base : List AxisRuntime)
    (executor : MotionExecutor) : Prop extends Playing since segments executor where
  /-- The axes pass the checks of the constructor. -/
  configured : Configured (configsOf base)
  /-- Each axis is where the segments have brought it by the time. -/
  axes : executor.axes = axesAt base segments since
  /-- The segments come one after another, and a final one comes last. -/
  ordered : segments.Pairwise fun a b => a.endNs ≤ b.startNs ∧ a.finalSegment = false
  /-- The segments do not start at once. -/
  startNs_pos : ∀ segment ∈ segments, 0 < segment.startNs
  /-- The step outputs are low before the segments begin. -/
  low : ∀ axis ∈ base, axis.stepLevel = false

/-- An executor on schedule has the configurations that it had at the beginning. -/
theorem Scheduled.configsOf_eq (h : Scheduled since segments base executor) :
    configsOf executor.axes = configsOf base := by
  rw [h.axes]
  unfold axesAt
  split
  · exact configsOf_playedAxes
  · rfl

/-- A schedule is about the queue and the axes. -/
theorem Scheduled.congr {executor' : MotionExecutor} (h : Scheduled since segments base executor)
    (hqueue : executor'.queue = executor.queue) (haxes : executor'.axes = executor.axes) :
    Scheduled since segments base executor' := by
  refine ⟨⟨hqueue.trans ?_, ?_, h.since_lt⟩, h.configured, haxes.trans h.axes, h.ordered,
    h.startNs_pos, h.low⟩
  · rw [haxes]
    exact h.queue
  · rw [haxes]
    exact h.fits

/-- The segments of a schedule fit the axes. -/
theorem Scheduled.fits_base (h : Scheduled since segments base executor)
    (hmem : segment ∈ segments) :
    SegmentFits (configsOf base) segment := h.configsOf_eq ▸ h.fits segment hmem

/-- A step of a segment lies within it. -/
theorem time_of_mem_stepEdges (hfits : SegmentFits configs segment)
    (hconfigured : Configured configs)
    (hconfig : config ∈ configs) (hmem : edge ∈ stepEdges config segment) :
    segment.startNs < edge.time ∧ edge.time ≤ segment.endNs := by
  obtain ⟨hlow, hhigh⟩ := time_of_mem_steps (fits_moveOf hfits hconfigured hconfig)
    (List.mem_append.1 hmem)
  have hsetup := (hconfigured.pos hconfig).2.2
  exact ⟨by omega, hhigh⟩

/-- Segments that have not begun have made no steps. -/
theorem between_stepEdges_eq_nil (hfits : ∀ segment ∈ segments, SegmentFits configs segment)
    (hconfigured : Configured configs) (hconfig : config ∈ configs)
    (hwait : ∀ segment ∈ segments, t ≤ segment.startNs) (s : ℕ) :
    between s t (segments.flatMap (stepEdges config)) = [] := by
  unfold between
  rw [List.filter_eq_nil_iff]
  intro edge hedge hkeep
  obtain ⟨segment, hsegment, hedge⟩ := List.mem_flatMap.1 hedge
  have hlow := (time_of_mem_stepEdges (hfits segment hsegment) hconfigured hconfig hedge).1
  have hhigh := (of_decide_eq_true hkeep).2
  have hlate := hwait segment hsegment
  omega

/-- The first segment is played on. -/
theorem Scheduled.play (h : Scheduled since (segment :: rest) base executor) (hst : since ≤ t) :
    (∀ edge ∈ (executor.play segment since t).1, since < edge.time ∧ edge.time ≤ t) ∧
      (∀ config ∈ configsOf base,
        (stepsOf config.resourceId (executor.play segment since t).1).Perm
          (between since t (stepEdges config segment))) ∧
      (executor.play segment since t).2.axes = playedAxes base segment t := by
  have hfits := h.fits_base List.mem_cons_self
  have haxes : executor.axes = playedAxes base segment since := h.axes
  have hedges : (executor.play segment since t).1 =
      inOrder (segmentEdges base segment since t) := by
    unfold MotionExecutor.play
    dsimp only
    rw [haxes, segmentEdges_playedAxes hfits]
  refine ⟨fun edge hedge => ?_, fun config hconfig => ?_, ?_⟩
  · rw [hedges, mem_inOrder] at hedge
    exact time_of_mem_segmentEdges hedge
  · obtain ⟨axis, haxis, rfl⟩ := List.mem_map.1 hconfig
    rw [hedges, ← stepsOf_segmentEdges hfits h.configured haxis]
    exact (perm_inOrder _).filter _
  · rw [play_snd]
    show executor.axes.map _ = _
    rw [hedges, haxes, ← playedAxes_playedAxes hfits hst, segmentEdges_playedAxes hfits]

/-! ## The loop -/

/-- What the loop has done by a time: it has completed some segments, and the others are left. -/
structure Drained (since until' : ℕ) (completed remaining : List MotionSegment)
    (base base' : List AxisRuntime) (edges : List MotionEdge) (executor : MotionExecutor) :
    Prop where
  /-- The segments that are left are on schedule. -/
  scheduled : Scheduled until' remaining base' executor
  /-- The segments that have been completed ended by the time. -/
  ended : ∀ segment ∈ completed, segment.endNs ≤ until'
  /-- The axes have the configurations that they had before. -/
  configs : configsOf base' = configsOf base
  /-- The completed segments have moved the axes. -/
  position : ∀ config ∈ configsOf base, positionOf base' config.resourceId =
    positionOf base config.resourceId +
      (completed.map fun segment => (moveOf segment config.resourceId).steps).sum
  /-- The edges come after the earlier time and no later than the later one. -/
  times : ∀ edge ∈ edges, since < edge.time ∧ edge.time ≤ until'
  /-- The rising edges of an axis are the steps of the segments that lie between the two times. -/
  steps : ∀ config ∈ configsOf base, (stepsOf config.resourceId edges).Perm
    (between since until' ((completed ++ remaining).flatMap (stepEdges config)))
  /-- A direction changes at the start of a segment only. -/
  directions : ∀ edge ∈ edges, edge.signal = .direction →
    ∃ segment ∈ completed ++ remaining, edge.time = segment.startNs

/-- Segments that have not begun are in the queue as they were. -/
theorem map_playedSegment_congr (hfits : ∀ segment ∈ segments, SegmentFits configs segment)
    (hs : ∀ segment ∈ segments, s < segment.startNs)
    (ht : ∀ segment ∈ segments, t < segment.startNs) :
    segments.map (playedSegment configs · s) = segments.map (playedSegment configs · t) := by
  refine List.map_congr_left fun segment hmem => ?_
  rw [playedSegment_of_lt (hfits segment hmem) (hs segment hmem),
    playedSegment_of_lt (hfits segment hmem) (ht segment hmem)]

/-- The edges between two times of a list and another are those of the one, then those of the other.
-/
theorem between_append (l m : List MotionEdge) :
    between s t (l ++ m) = between s t l ++ between s t m := List.filter_append l m

/-- The steps of a segment are made when it ends. -/
theorem between_stepEdges_of_le (hfits : SegmentFits configs segment)
    (hconfigured : Configured configs) (hconfig : config ∈ configs) (hle : segment.endNs ≤ t)
    (s : ℕ) : between s t (stepEdges config segment) =
      between s segment.endNs (stepEdges config segment) := by
  unfold between
  refine List.filter_congr fun edge hedge => ?_
  have hend := (time_of_mem_stepEdges hfits hconfigured hconfig hedge).2
  rw [decide_eq_decide]
  exact and_congr_right fun _ => ⟨fun _ => hend, fun h => h.trans hle⟩

/-- The directions of a segment are set when it starts. -/
theorem time_of_direction (hmem : edge ∈ (executor.play segment s t).1)
    (hdirection : edge.signal = .direction) : edge.time = segment.startNs := by
  unfold MotionExecutor.play at hmem
  dsimp only at hmem
  rw [mem_inOrder] at hmem
  obtain ⟨move, -, axis, -, hplay⟩ := mem_segmentEdges.1 hmem
  rcases mem_playMove.1 hplay with ⟨hcontrol, -⟩ | ⟨hrise | hfall, -⟩
  · exact (of_mem_controlEdges hcontrol).1
  · obtain ⟨_, -, rfl⟩ := of_mem_rises hrise
    cases hdirection
  · obtain ⟨_, -, rfl⟩ := of_mem_falls hfall
    cases hdirection

/-- The other segments start when the first one has ended. -/
theorem Scheduled.endNs_le (h : Scheduled since (segment :: rest) base executor) :
    ∀ segment' ∈ rest, segment.endNs ≤ segment'.startNs ∧ segment.finalSegment = false :=
  (List.pairwise_cons.1 h.ordered).1

/-- As long as the first segment has not begun, nothing changes. -/
theorem Scheduled.wait (h : Scheduled since (segment :: rest) base executor) (hst : since ≤ t)
    (hwait : t < segment.startNs) :
    Drained since t [] (segment :: rest) base base [] executor := by
  have hlate : ∀ segment' ∈ segment :: rest, t < segment'.startNs := by
    intro segment' hmem
    rcases List.mem_cons.1 hmem with rfl | hmem
    · exact hwait
    · have hend := (h.endNs_le segment' hmem).1
      unfold MotionSegment.endNs at hend
      omega
  have hfits : ∀ segment' ∈ segment :: rest, SegmentFits (configsOf base) segment' :=
    fun segment' hmem => h.fits_base hmem
  have hqueue := h.queue
  have haxes : executor.axes = playedAxes base segment since := h.axes
  rw [map_playedSegment_congr h.fits (fun segment' hmem => hst.trans_lt (hlate segment' hmem))
    hlate] at hqueue
  refine ⟨⟨⟨hqueue, h.fits, fun segment' hmem => ?_⟩, h.configured, ?_, h.ordered, h.startNs_pos,
    h.low⟩, nofun, rfl, fun config _ => (add_zero _).symm, nofun, fun config hconfig => ?_, nofun⟩
  · exact (hlate segment' hmem).trans_le (Nat.le_add_right _ _)
  · rw [haxes, playedAxes_of_lt (hfits segment List.mem_cons_self) (hst.trans_lt hwait)]
    exact (playedAxes_of_lt (hfits segment List.mem_cons_self) hwait).symm
  · rw [List.nil_append, between_stepEdges_eq_nil hfits h.configured hconfig
      fun segment' hmem => (hlate segment' hmem).le]
    exact .refl _

/-- While the first segment is under way, its axes are where it has brought them. -/
theorem Scheduled.begin (h : Scheduled since (segment :: rest) base executor) (hst : since ≤ t)
    (hlt : t < segment.endNs) :
    Drained since t [] (segment :: rest) base base (executor.play segment since t).1
      ((executor.play segment since t).2.setQueue
        (playedSegment (configsOf executor.axes) segment t ::
          rest.map fun segment => playedSegment (configsOf executor.axes) segment since)) := by
  obtain ⟨htimes, hsteps, haxes⟩ := h.play hst
  have hlate : ∀ segment' ∈ rest, t < segment'.startNs := fun segment' hmem =>
    hlt.trans_le (h.endNs_le segment' hmem).1
  have hconfigs : ∀ queue, configsOf ((executor.play segment since t).2.setQueue queue).axes =
      configsOf executor.axes := fun _ => configsOf_play
  have hrest := fun segment' hmem => h.fits_base (List.mem_cons_of_mem segment (a := segment') hmem)
  refine ⟨⟨⟨?_, ?_, fun segment' hmem => ?_⟩, h.configured, haxes, h.ordered, h.startNs_pos, h.low⟩,
    nofun, rfl, fun config _ => (add_zero _).symm, htimes, fun config hconfig => ?_,
    fun edge hedge hdirection => ?_⟩
  · rw [hconfigs, List.map_cons, map_playedSegment_congr
      (fun segment' hmem => h.fits segment' (List.mem_cons_of_mem _ hmem))
      (fun segment' hmem => hst.trans_lt (hlate segment' hmem)) hlate]
    rfl
  · rw [hconfigs]
    exact h.fits
  · rcases List.mem_cons.1 hmem with rfl | hmem
    · exact hlt
    · exact (hlate segment' hmem).trans_le (Nat.le_add_right _ _)
  · have hnone := between_stepEdges_eq_nil hrest h.configured hconfig
      (fun segment' hmem => (hlate segment' hmem).le) since
    rw [List.nil_append, List.flatMap_cons, between_append, hnone, List.append_nil]
    exact hsteps config hconfig
  · exact ⟨segment, List.mem_cons_self, time_of_direction hedge hdirection⟩

/-- When the first segment has ended, the others are on schedule from there. -/
theorem Scheduled.complete (h : Scheduled since (segment :: rest) base executor) :
    Scheduled since rest (playedAxes base segment segment.endNs)
      ((executor.play segment since segment.endNs).2.completeSegment segment
        (rest.map fun segment => playedSegment (configsOf executor.axes) segment since)) := by
  have hfits := h.fits_base List.mem_cons_self
  have hsince := h.since_lt segment List.mem_cons_self
  have hplaying := h.toPlaying.complete segment.endNs
  have hlow := stepLevel_playedAxes hfits h.configured
    (h.startNs_pos segment List.mem_cons_self) h.low
  have haxes := (h.play hsince.le).2.2
  have hconfigured : Configured (configsOf (playedAxes base segment segment.endNs)) := by
    rw [configsOf_playedAxes]
    exact h.configured
  refine ⟨hplaying, hconfigured, haxes.trans ?_,
    (List.pairwise_cons.1 h.ordered).2,
    fun segment' hmem => h.startNs_pos segment' (List.mem_cons_of_mem _ hmem), hlow⟩
  -- The next segment has not begun.
  cases rest with
  | nil => rfl
  | cons next rest =>
    have hnext := h.fits_base (List.mem_cons_of_mem segment (List.mem_cons_self (a := next)))
    have hend := (h.endNs_le next List.mem_cons_self).1
    refine (playedAxes_of_lt ?_ (hsince.trans_le hend)).symm
    rw [configsOf_playedAxes]
    exact hnext

/-- Behind the last segment the executor stops. -/
theorem Scheduled.stop (h : Scheduled since [] base executor) {atNs : UInt64}
    (hsince : since < atNs.toNat) (hle : atNs.toNat ≤ t) (fault : MotionFault) :
    ∃ base', Drained since t [] [] base base' (executor.stopSafely atNs fault).1
      (executor.stopSafely atNs fault).2 := by
  have hbase : executor.axes = base := h.axes
  have hedges := stopSafely_low (hbase ▸ h.low) atNs fault
  have haxes := stopSafely_axes executor atNs fault
  have hplay := playEdges_of_enable fun edge hedge => (hedges edge hedge).1
  rw [hbase] at haxes
  have hconfigs : configsOf (base.map (playEdges (executor.stopSafely atNs fault).1)) =
    configsOf base := configsOf_map (config_playEdges _) base
  refine ⟨_, ⟨⟨(stopSafely_spec executor atNs fault).1, nofun, nofun⟩, hconfigs ▸ h.configured,
    haxes, .nil, nofun, fun axis' haxis' => ?_⟩, nofun, hconfigs, fun config _ => ?_,
    fun edge hedge => ?_, fun config _ => ?_, fun edge hedge hdirection => ?_⟩
  · obtain ⟨axis, haxis, rfl⟩ := List.mem_map.1 haxis'
    exact (hplay axis).1.trans (h.low axis haxis)
  · unfold positionOf
    rw [requireAxis_map (config_playEdges _), Option.map_map, List.map_nil, List.sum_nil, add_zero]
    congr 2
    exact funext fun axis => (hplay axis).2
  · rw [(hedges edge hedge).2]
    exact ⟨hsince, hle⟩
  · have hnone : stepsOf config.resourceId (executor.stopSafely atNs fault).1 = [] := by
      unfold stepsOf
      rw [List.filter_eq_nil_iff]
      intro edge hedge hkeep
      have hstep := (of_decide_eq_true hkeep).2
      rw [(hedges edge hedge).1] at hstep
      cases hstep
    rw [hnone]
    exact .nil
  · rw [(hedges edge hedge).1] at hdirection
    cases hdirection

/-- A segment that has ended has made its steps. -/
theorem stepsMade_endNs (hfits : SegmentFits configs segment) (hconfigured : Configured configs)
    (hconfig : config ∈ configs) (hle : segment.endNs ≤ t) :
    stepsMade config segment (moveOf segment config.resourceId) t =
      (moveOf segment config.resourceId).steps := by
  unfold stepsMade
  rw [(stepCounts_eq_natAbs (fits_moveOf hfits hconfigured hconfig) hle).1]
  split
  · omega
  · omega

/-- A segment that has ended, and what the loop does behind it. -/
theorem Scheduled.completed_drained {until' : ℕ} {completed remaining : List MotionSegment}
    {base' : List AxisRuntime} {edges : List MotionEdge} {executor' : MotionExecutor}
    (h : Scheduled since (segment :: completed ++ remaining) base executor)
    (hended : segment.endNs ≤ until')
    (hdrained : Drained since until' completed remaining (playedAxes base segment segment.endNs)
      base' edges executor') :
    Drained since until' (segment :: completed) remaining base base'
      ((executor.play segment since segment.endNs).1 ++ edges) executor' := by
  have hleft := h.since_lt segment List.mem_cons_self
  obtain ⟨htimes, hsteps, -⟩ := h.play hleft.le
  have hbase : configsOf (playedAxes base segment segment.endNs) = configsOf base :=
    configsOf_playedAxes
  refine ⟨hdrained.scheduled, ?_, hdrained.configs.trans hbase, ?_, ?_, ?_, ?_⟩
  · intro segment' hmem
    rcases List.mem_cons.1 hmem with rfl | hmem
    · exact hended
    · exact hdrained.ended segment' hmem
  · intro config hconfig
    have hposition := positionOf_playedAxes (h.fits_base List.mem_cons_self) h.configured
      (h.startNs_pos segment List.mem_cons_self) hconfig segment.endNs
    have hmade := stepsMade_endNs (h.fits_base List.mem_cons_self) h.configured hconfig le_rfl
    rw [hdrained.position config (hbase ▸ hconfig), hposition, hmade, List.map_cons,
      List.sum_cons, add_assoc]
  -- The edges of the segment come first, and those of the others behind them.
  · intro edge hedge
    rcases List.mem_append.1 hedge with hedge | hedge
    · exact ⟨(htimes edge hedge).1, (htimes edge hedge).2.trans hended⟩
    · exact hdrained.times edge hedge
  · intro config hconfig
    have hrest := hdrained.steps config (hbase ▸ hconfig)
    have hfirst := between_stepEdges_of_le (h.fits_base List.mem_cons_self) h.configured hconfig
      hended since
    rw [List.cons_append, List.flatMap_cons, between_append, hfirst]
    unfold stepsOf
    rw [List.filter_append]
    exact (hsteps config hconfig).append hrest
  · intro edge hedge hdirection
    rcases List.mem_append.1 hedge with hedge | hedge
    · exact ⟨segment, List.mem_cons_self, time_of_direction hedge hdirection⟩
    · obtain ⟨segment', hmem, htime⟩ := hdrained.directions edge hedge hdirection
      exact ⟨segment', List.mem_cons_of_mem _ hmem, htime⟩

/-- The loop completes segments and begins the next one. -/
theorem drain_drained (h : Scheduled since segments base executor) {nowNs : UInt64}
    (hsince : since ≤ nowNs.toNat) :
    ∃ completed remaining base', segments = completed ++ remaining ∧
      Drained since nowNs.toNat completed remaining base base' (executor.drain nowNs).1
        (executor.drain nowNs).2 := by
  induction segments generalizing executor base with
  | nil =>
    rw [drain_nil h.queue]
    refine ⟨[], [], base, rfl, ⟨⟨h.queue, nofun, nofun⟩, h.configured, h.axes, .nil, nofun, h.low⟩,
      nofun, rfl, fun config _ => (add_zero _).symm, nofun, fun config _ => .nil, nofun⟩
  | cons segment rest ih =>
    have hqueue := h.queue
    rw [List.map_cons] at hqueue
    have hfits := h.fits segment List.mem_cons_self
    have hleft := h.since_lt segment List.mem_cons_self
    -- The segment has not started, has started, or has ended.
    rcases lt_or_ge nowNs.toNat segment.startNs with hwait | hstart
    · rw [drain_wait hqueue hwait]
      exact ⟨[], segment :: rest, base, rfl, h.wait hsince hwait⟩
    rw [drain_cons hqueue hfits hstart hsince hleft.le]
    by_cases hlt : nowNs.toNat < segment.endNs
    · rw [if_pos hlt]
      exact ⟨[], segment :: rest, base, rfl, h.begin hsince hlt⟩
    rw [if_neg hlt]
    have hended := not_lt.1 hlt
    have hcomplete := h.complete
    -- The rest of the loop completes some segments, and may stop the executor.
    have hfinish : ∃ completed remaining base', rest = completed ++ remaining ∧
        Drained since nowNs.toNat completed remaining (playedAxes base segment segment.endNs) base'
          ((executor.play segment since segment.endNs).2.finish nowNs segment
            (rest.map fun segment => playedSegment (configsOf executor.axes) segment since)).1
          ((executor.play segment since segment.endNs).2.finish nowNs segment
            (rest.map fun segment => playedSegment (configsOf executor.axes) segment since)).2 := by
      have hend := toNat_end hfits.end_lt
      unfold finish
      dsimp only
      cases rest with
      | nil =>
        split
        · obtain ⟨base', hdrained⟩ := hcomplete.stop (hend ▸ hleft) (hend ▸ hended) .none
          exact ⟨[], [], base', rfl, hdrained⟩
        · have hunderrun : Scheduled since [] (playedAxes base segment segment.endNs)
              (((executor.play segment since segment.endNs).2.completeSegment segment
                []).countUnderrun) := ⟨⟨rfl, nofun, nofun⟩, hcomplete.configured, hcomplete.axes,
                  .nil, nofun, hcomplete.low⟩
          obtain ⟨base', hdrained⟩ :=
            hunderrun.stop (hend ▸ hleft) (hend ▸ hended) .queueUnderrun
          exact ⟨[], [], base', rfl, hdrained⟩
      | cons next rest =>
        have hfinal := (h.endNs_le next List.mem_cons_self).2
        rw [hfinal, if_neg Bool.false_ne_true,
          if_neg (by rw [List.map_cons]; exact List.cons_ne_nil _ _)]
        exact ih hcomplete
    obtain ⟨completed, remaining, base', rfl, hdrained⟩ := hfinish
    exact ⟨segment :: completed, remaining, base', rfl, h.completed_drained hended hdrained⟩

/-! ## The order of the edges -/

/-- The edges come at a time or later, and the steps among them later. -/
def Behind (time : ℕ) (edges : List MotionEdge) : Prop :=
  ∀ edge ∈ edges, time ≤ edge.time ∧ (edge.signal = .step → time < edge.time)

/-- What comes behind a segment ties with no edge of it: at its end it only makes steps. -/
theorem noTies_behind {first more : List MotionEdge} {time : ℕ} (hfirst : NoTies EdgeLe first)
    (hmore : NoTies EdgeLe more) (hbehind : Behind time more)
    (huntil : ∀ edge ∈ first, edge.time ≤ time ∧ (edge.time = time → edge.signal = .step)) :
    NoTies EdgeLe (first ++ more) := by
  refine hfirst.append hmore fun a ha b hb hba hab => ?_
  obtain ⟨htime, horder, -⟩ := eq_of_edgeLe hab hba
  have htime : a.time = b.time := congrArg UInt64.toNat htime
  obtain ⟨hle, hstep⟩ := huntil a ha
  obtain ⟨hge, hlt⟩ := hbehind b hb
  -- The two edges would have to be steps at this time.
  have hsignal := hstep (by omega)
  rw [(of_edgeOrder_eq horder).1] at hsignal
  have := hlt hsignal
  omega

/-- The edges that a segment makes on its way have no ties, and only steps come behind its start. -/
theorem Scheduled.play_noTies (h : Scheduled since (segment :: rest) base executor) (t : ℕ) :
    NoTies EdgeLe (executor.play segment since t).1 ∧
      Behind segment.startNs (executor.play segment since t).1 ∧
      ∀ edge ∈ (executor.play segment since t).1,
        edge.time ≠ segment.startNs → edge.signal = .step := by
  have hfits := h.fits segment List.mem_cons_self
  have hedges : ∀ edge, edge ∈ (executor.play segment since t).1 ↔
      edge ∈ segmentEdges executor.axes segment since t := fun edge => mem_inOrder
  refine ⟨(noTies_segmentEdges hfits executor.axes since t).subset fun edge => (hedges edge).1, ?_⟩
  suffices hall : ∀ edge ∈ (executor.play segment since t).1,
      (segment.startNs ≤ edge.time ∧ (edge.signal = .step → segment.startNs < edge.time)) ∧
        (edge.time ≠ segment.startNs → edge.signal = .step) from
    ⟨fun edge hedge => (hall edge hedge).1, fun edge hedge => (hall edge hedge).2⟩
  intro edge hmem
  obtain ⟨move, hmove, axis, haxis, hplay⟩ := mem_segmentEdges.1 ((hedges edge).1 hmem)
  obtain ⟨config, hconfig, hsteps⟩ := hfits.moves move hmove
  rw [findConfig_configsOf, haxis] at hconfig
  obtain rfl := Option.some.inj hconfig
  have hconfigured : axis.config ∈ configsOf base := by
    rw [← h.configsOf_eq]
    exact List.mem_map_of_mem (List.mem_of_find?_eq_some haxis)
  have hsetup := (h.configured.pos hconfigured).2.2
  rcases mem_playMove.1 hplay with ⟨hcontrol, -⟩ | ⟨hstep, -⟩
  · obtain ⟨htime, -, -, ⟨hsignal, -⟩ | ⟨hsignal, -⟩⟩ := of_mem_controlEdges hcontrol
    · exact ⟨⟨htime.ge, fun h => by rw [hsignal] at h; cases h⟩, fun h => absurd htime h⟩
    · exact ⟨⟨htime.ge, fun h => by rw [hsignal] at h; cases h⟩, fun h => absurd htime h⟩
  · have hlow := (time_of_mem_steps hsteps hstep).1
    refine ⟨⟨by omega, fun _ => by omega⟩, fun _ => ?_⟩
    rcases hstep with hrise | hfall
    · obtain ⟨_, -, rfl⟩ := of_mem_rises hrise
      rfl
    · obtain ⟨_, -, rfl⟩ := of_mem_falls hfall
      rfl

/-- What comes behind a later time comes behind an earlier one. -/
theorem Behind.mono {time later : ℕ} {edges : List MotionEdge} (h : Behind later edges)
    (hle : time ≤ later) : Behind time edges := fun edge hmem =>
  ⟨hle.trans (h edge hmem).1, fun hstep => hle.trans_lt ((h edge hmem).2 hstep)⟩

/-- No edge comes behind any time. -/
theorem behind_nil {time : ℕ} : Behind time [] := fun _ hmem => absurd hmem List.not_mem_nil

/-- A stop with all step outputs low disables the axes, at its time and without a step. -/
theorem behind_stopSafely (hlow : ∀ axis ∈ executor.axes, axis.stepLevel = false) {atNs : UInt64}
    {time : ℕ} (hat : atNs.toNat = time) (fault : MotionFault) :
    Behind time (executor.stopSafely atNs fault).1 := by
  intro edge hedge
  obtain ⟨hsignal, htime⟩ := stopSafely_low hlow _ _ edge hedge
  exact ⟨by rw [htime, hat], fun hstep => by rw [hsignal] at hstep; cases hstep⟩

/-- The edges that the loop makes have no ties, so that every sort puts them in the same order. -/
theorem drain_noTies (h : Scheduled since segments base executor) {nowNs : UInt64}
    (hsince : since ≤ nowNs.toNat) :
    NoTies EdgeLe (executor.drain nowNs).1 ∧
      ∀ time, (∀ segment ∈ segments, time ≤ segment.startNs) →
        Behind time (executor.drain nowNs).1 := by
  induction segments generalizing executor base with
  | nil =>
    rw [drain_nil h.queue]
    exact ⟨fun a ha => absurd ha List.not_mem_nil, fun time _ => behind_nil⟩
  | cons segment rest ih =>
    have hqueue := h.queue
    rw [List.map_cons] at hqueue
    have hfits := h.fits segment List.mem_cons_self
    have hleft := h.since_lt segment List.mem_cons_self
    -- Before the start of the segment, the loop makes no edge.
    rcases lt_or_ge nowNs.toNat segment.startNs with hwait | hstart
    · rw [drain_wait hqueue hwait]
      exact ⟨fun a ha => absurd ha List.not_mem_nil, fun time _ => behind_nil⟩
    rw [drain_cons hqueue hfits hstart hsince hleft.le]
    by_cases hlt : nowNs.toNat < segment.endNs
    · rw [if_pos hlt]
      obtain ⟨hties, hplay, -⟩ := h.play_noTies nowNs.toNat
      exact ⟨hties, fun time hall => hplay.mono (hall segment List.mem_cons_self)⟩
    rw [if_neg hlt]
    obtain ⟨hties, hplay, hsteps⟩ := h.play_noTies segment.endNs
    have hcomplete := h.complete
    have hend := toNat_end hfits.end_lt
    -- What comes behind the segment comes at its end or later.
    have hfinish : NoTies EdgeLe ((executor.play segment since segment.endNs).2.finish nowNs segment
            (rest.map fun segment => playedSegment (configsOf executor.axes) segment since)).1 ∧
        Behind segment.endNs ((executor.play segment since segment.endNs).2.finish nowNs segment
            (rest.map fun segment => playedSegment (configsOf executor.axes) segment since)).1 := by
      unfold finish
      dsimp only
      cases rest with
      | nil =>
        have hlow : ∀ axis ∈ (((executor.play segment since segment.endNs).2).completeSegment
            segment []).axes, axis.stepLevel = false := by
          have haxes : _ = playedAxes base segment segment.endNs := hcomplete.axes
          rw [List.map_nil] at haxes
          rw [haxes]
          exact hcomplete.low
        split
        · exact ⟨noTies_stopSafely _ _ _, behind_stopSafely hlow hend .none⟩
        · exact ⟨noTies_stopSafely _ _ _, behind_stopSafely hlow hend .queueUnderrun⟩
      | cons next rest =>
        have hfinal := (h.endNs_le next List.mem_cons_self).2
        rw [hfinal, if_neg Bool.false_ne_true,
          if_neg (by rw [List.map_cons]; exact List.cons_ne_nil _ _)]
        obtain ⟨hrest, hlater⟩ := ih hcomplete
        exact ⟨hrest, hlater _ fun segment' hmem => (h.endNs_le segment' hmem).1⟩
    have hstarted := hfits.start_lt
    -- The edges of the segment come no later than its end, and its steps before it.
    constructor
    · refine noTies_behind hties hfinish.1 hfinish.2 fun edge hedge => ?_
      obtain ⟨-, hle⟩ := (h.play hleft.le).1 edge hedge
      exact ⟨hle, fun heq => hsteps edge hedge (by omega)⟩
    · intro time hall
      have hfirst := hall segment List.mem_cons_self
      intro edge hedge
      rcases List.mem_append.1 hedge with hedge | hedge
      · exact hplay.mono hfirst edge hedge
      · exact hfinish.2.mono (hfirst.trans hstarted.le) edge hedge

end RemoteBSP.MockMcu
