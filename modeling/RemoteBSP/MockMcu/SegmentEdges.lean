import RemoteBSP.MockMcu.Waveform

/-!
# The edges of a segment

The edges that the moves of a segment make between two times (`segmentEdges`), and a segment of
which the edges up to a time have been made (`playedSegment`). Sorted, the edges up to a time are
those up to an earlier time followed by the others (`inOrder_segmentEdges`), and
`collect_segment_edges` makes just these (`collectSegmentEdges_played`).
-/

namespace RemoteBSP.MockMcu

open MotionExecutor

/-- The configuration of the axis with a resource ID. -/
def findConfig (configs : List MotionAxisConfig) (id : UInt32) : Option MotionAxisConfig :=
  configs.find? fun config => config.resourceId = id

/-- The configurations of all axes, in order. -/
def configsOf (axes : List AxisRuntime) : List MotionAxisConfig := axes.map AxisRuntime.config

/-- An axis is found with its configuration. -/
theorem findConfig_configsOf (axes : List AxisRuntime) (id : UInt32) :
    findConfig (configsOf axes) id = (requireAxis axes id).map AxisRuntime.config := List.find?_map

/-- A change of the axes that keeps their configurations is seen by the search for an axis. -/
theorem requireAxis_map {f : AxisRuntime → AxisRuntime} (hf : ∀ axis, (f axis).config = axis.config)
    (axes : List AxisRuntime) (id : UInt32) :
    requireAxis (axes.map f) id = (requireAxis axes id).map f := by
  unfold requireAxis
  rw [List.find?_map]
  congr 2
  funext axis
  simp only [Function.comp_apply, hf]

/-- A change of each axis that keeps its configuration keeps the list of configurations. -/
theorem configsOf_map {f : AxisRuntime → AxisRuntime} (hf : ∀ axis, (f axis).config = axis.config)
    (axes : List AxisRuntime) : configsOf (axes.map f) = configsOf axes := by
  unfold configsOf
  rw [List.map_map]
  exact List.map_congr_left fun axis _ => hf axis

/-- What `enqueue` has checked of a segment, and the range of its steps. -/
structure SegmentFits (configs : List MotionAxisConfig) (segment : MotionSegment) : Prop where
  /-- A segment moves each axis at most once. -/
  nodup : (segment.axes.map MotionAxisMove.resourceId).Nodup
  /-- There are the axes, and there is time for their steps. -/
  moves : ∀ move ∈ segment.axes, ∃ config, findConfig configs move.resourceId = some config ∧
    (move.steps ≠ 0 → Fits config segment move.steps)
  /-- A segment has a move for every axis. -/
  covers : ∀ config ∈ configs, ∃ move ∈ segment.axes, move.resourceId = config.resourceId
  /-- A segment takes at least one nanosecond. -/
  start_lt : segment.startNs < segment.endNs
  /-- The end of the segment fits into 64 bits. -/
  end_lt : segment.endNs < 2^64

/-- A move of which the edges up to a time have been made. -/
def playedAxis (configs : List MotionAxisConfig) (segment : MotionSegment) (time : ℕ)
    (move : MotionAxisMove) : MoveRuntime :=
  match findConfig configs move.resourceId with
  | some config => playedMove config segment move time
  | none => { move := move, stepCount := absoluteSteps move.steps }

/-- A segment of which the edges up to a time have been made. -/
def playedSegment (configs : List MotionAxisConfig) (segment : MotionSegment) (time : ℕ) :
    SegmentRuntime where
  segment := segment
  moves := segment.axes.map (playedAxis configs segment time)

/-- The edges of a move between two times, on its axis. -/
def axisEdges (axes : List AxisRuntime) (segment : MotionSegment) (since until' : ℕ)
    (move : MotionAxisMove) : List MotionEdge :=
  match requireAxis axes move.resourceId with
  | some axis => playMove axis segment move since until'
  | none => []

/-- The edges of a segment between two times. -/
def segmentEdges (axes : List AxisRuntime) (segment : MotionSegment) (since until' : ℕ) :
    List MotionEdge := segment.axes.flatMap (axisEdges axes segment since until')

variable {axes : List AxisRuntime} {configs : List MotionAxisConfig} {segment : MotionSegment}
  {move : MotionAxisMove} {axis : AxisRuntime} {edge : MotionEdge} {since until' : ℕ}

/-! ## What the edges are like -/

/-- The two kinds of edges of a move. -/
theorem mem_playMove : edge ∈ playMove axis segment move since until' ↔
    (edge ∈ controlEdges axis segment move ∧ move.steps ≠ 0 ∧ since < segment.startNs ∧
      segment.startNs ≤ until') ∨
    ((edge ∈ rises axis.config segment move ∨ edge ∈ falls axis.config segment move) ∧
      since < edge.time ∧ edge.time ≤ until') := by
  unfold playMove between
  rw [List.mem_append, List.mem_append, List.mem_filter, List.mem_filter, decide_eq_true_iff]
  have hcontrols : edge ∈ (if move.steps ≠ 0 ∧ since < segment.startNs ∧ segment.startNs ≤ until'
      then controlEdges axis segment move else []) ↔
      edge ∈ controlEdges axis segment move ∧ move.steps ≠ 0 ∧ since < segment.startNs ∧
        segment.startNs ≤ until' := by
    split
    · next h => exact ⟨fun hmem => ⟨hmem, h⟩, fun hmem => hmem.1⟩
    · next h => exact ⟨fun hmem => absurd hmem List.not_mem_nil, fun hmem => absurd hmem.2 h⟩
  rw [hcontrols]
  tauto

/-- The edges with which a move begins. -/
theorem of_mem_controlEdges (h : edge ∈ controlEdges axis segment move) :
    edge.time = segment.startNs ∧ edge.localTick = edge.globalTimeNs ∧
      edge.axisResourceId = move.resourceId ∧
      (edge.signal = .enable ∧ edge.level = true ∨
        edge.signal = .direction ∧ edge.level = decide (0 ≤ move.steps) ∧
          axis.directionPositive ≠ decide (0 ≤ move.steps)) := by
  unfold controlEdges at h
  rcases List.mem_append.1 h with h | h
  · split at h
    · exact absurd h List.not_mem_nil
    · obtain rfl := List.mem_singleton.1 h
      exact ⟨rfl, rfl, rfl, .inl ⟨rfl, rfl⟩⟩
  · split at h
    · exact absurd h List.not_mem_nil
    · next hne =>
      obtain rfl := List.mem_singleton.1 h
      exact ⟨rfl, rfl, rfl, .inr ⟨rfl, rfl, hne⟩⟩

/-- A rising edge of a move is the beginning of one of its steps. -/
theorem of_mem_rises {config : MotionAxisConfig} (h : edge ∈ rises config segment move) :
    ∃ index < move.steps.natAbs,
      edge = stepEdge move.resourceId true (riseNs config segment move.steps.natAbs index) := by
  obtain ⟨index, hindex, rfl⟩ := List.mem_map.1 h
  exact ⟨index, List.mem_range.1 hindex, rfl⟩

/-- A falling edge of a move is the end of one of its steps. -/
theorem of_mem_falls {config : MotionAxisConfig} (h : edge ∈ falls config segment move) :
    ∃ index < move.steps.natAbs,
      edge = stepEdge move.resourceId false (fallNs config segment move.steps.natAbs index) := by
  obtain ⟨index, hindex, rfl⟩ := List.mem_map.1 h
  exact ⟨index, List.mem_range.1 hindex, rfl⟩

/-- An edge of a move is on its axis, and determined by its time, its kind and its level. -/
theorem of_mem_playMove (h : edge ∈ playMove axis segment move since until') :
    since < edge.time ∧ edge.time ≤ until' ∧ edge.localTick = edge.globalTimeNs ∧
      edge.axisResourceId = move.resourceId ∧
      (edge.signal = .enable → edge.level = true) ∧
      (edge.signal = .direction → edge.level = decide (0 ≤ move.steps)) := by
  rcases mem_playMove.1 h with ⟨h, -, hsince, huntil⟩ | ⟨h | h, hsince, huntil⟩
  · obtain ⟨htime, hlocal, hid, ⟨hsignal, hlevel⟩ | ⟨hsignal, hlevel, -⟩⟩ := of_mem_controlEdges h
    · rw [htime, hsignal]
      exact ⟨hsince, huntil, hlocal, hid, fun _ => hlevel, nofun⟩
    · rw [htime, hsignal]
      exact ⟨hsince, huntil, hlocal, hid, nofun, fun _ => hlevel⟩
  · obtain ⟨index, -, rfl⟩ := of_mem_rises h
    exact ⟨hsince, huntil, rfl, rfl, nofun, nofun⟩
  · obtain ⟨index, -, rfl⟩ := of_mem_falls h
    exact ⟨hsince, huntil, rfl, rfl, nofun, nofun⟩

/-- An edge of a segment belongs to one of its moves. -/
theorem mem_segmentEdges : edge ∈ segmentEdges axes segment since until' ↔
    ∃ move ∈ segment.axes, ∃ axis, requireAxis axes move.resourceId = some axis ∧
      edge ∈ playMove axis segment move since until' := by
  unfold segmentEdges
  rw [List.mem_flatMap]
  refine exists_congr fun move => and_congr_right fun _ => ?_
  unfold axisEdges
  split
  · next axis haxis =>
    exact ⟨fun h => ⟨axis, haxis, h⟩, fun ⟨axis', haxis', h⟩ =>
      Option.some.inj (haxis.symm.trans haxis') ▸ h⟩
  · next hnone =>
    exact ⟨fun h => absurd h List.not_mem_nil, fun ⟨axis, haxis, _⟩ => by
      rw [hnone] at haxis
      cases haxis⟩

/-- The edges lie between the two times. -/
theorem time_of_mem_segmentEdges (h : edge ∈ segmentEdges axes segment since until') :
    since < edge.time ∧ edge.time ≤ until' := by
  obtain ⟨move, -, axis, -, hmem⟩ := mem_segmentEdges.1 h
  obtain ⟨hsince, huntil, -⟩ := of_mem_playMove hmem
  exact ⟨hsince, huntil⟩

/-- A list without the same value twice has one element for each. -/
theorem eq_of_nodup_resourceId {moves : List MotionAxisMove}
    (h : (moves.map MotionAxisMove.resourceId).Nodup) {a b : MotionAxisMove} (ha : a ∈ moves)
    (hb : b ∈ moves) (hid : a.resourceId = b.resourceId) : a = b :=
  List.inj_on_of_nodup_map h ha hb hid

/-- No two edges of a segment take the same place. -/
theorem eq_of_mem_segmentEdges (hfits : SegmentFits configs segment) {a b : MotionEdge}
    (ha : a ∈ segmentEdges axes segment since until')
    (hb : b ∈ segmentEdges axes segment since until') (hab : EdgeLe a b) (hba : EdgeLe b a) :
    a = b := by
  obtain ⟨htime, horder, haxis⟩ := eq_of_edgeLe hab hba
  obtain ⟨move, hmove, _, -, hmem⟩ := mem_segmentEdges.1 ha
  obtain ⟨move', hmove', _, -, hmem'⟩ := mem_segmentEdges.1 hb
  obtain ⟨-, -, hlocal, hid, henable, hdirection⟩ := of_mem_playMove hmem
  obtain ⟨-, -, hlocal', hid', henable', hdirection'⟩ := of_mem_playMove hmem'
  obtain rfl : move = move' :=
    eq_of_nodup_resourceId hfits.nodup hmove hmove' (hid.symm.trans (haxis.trans hid'))
  obtain ⟨time, tick, id, signal, level⟩ := a
  obtain ⟨time', tick', id', signal', level'⟩ := b
  dsimp only at *
  obtain ⟨rfl, hstep⟩ := of_edgeOrder_eq horder
  have hlevel : level = level' := by
    cases signal with
    | enable => exact (henable rfl).trans (henable' rfl).symm
    | direction => exact (hdirection rfl).trans (hdirection' rfl).symm
    | step => exact hstep rfl
  rw [htime, hlocal, hlocal', htime, haxis, hlevel]

/-- The edges of a segment have no ties. -/
theorem noTies_segmentEdges (hfits : SegmentFits configs segment) (axes : List AxisRuntime)
    (s t : ℕ) : NoTies EdgeLe (segmentEdges axes segment s t) := fun _ ha _ hb =>
  eq_of_mem_segmentEdges hfits ha hb

/-! ## From one time to another -/

/-- The edges of a move, in two parts. -/
theorem playMove_perm (axis : AxisRuntime) (segment : MotionSegment) (move : MotionAxisMove)
    {s t u : ℕ} (hst : s ≤ t) (htu : t ≤ u) : (playMove axis segment move s u).Perm
      (playMove axis segment move s t ++ playMove axis segment move t u) := by
  have hrises := List.filter_between_perm (f := MotionEdge.time) hst htu
    (rises axis.config segment move)
  have hfalls := List.filter_between_perm (f := MotionEdge.time) hst htu
    (falls axis.config segment move)
  unfold playMove
  -- The move begins before the middle or after it.
  have hcontrols : (if move.steps ≠ 0 ∧ s < segment.startNs ∧ segment.startNs ≤ u then
      controlEdges axis segment move else []) =
      (if move.steps ≠ 0 ∧ s < segment.startNs ∧ segment.startNs ≤ t then
        controlEdges axis segment move else []) ++
      (if move.steps ≠ 0 ∧ t < segment.startNs ∧ segment.startNs ≤ u then
        controlEdges axis segment move else []) := by
    by_cases ht : segment.startNs ≤ t
    · have hlater : ¬(move.steps ≠ 0 ∧ t < segment.startNs ∧ segment.startNs ≤ u) :=
        fun h => not_lt.2 ht h.2.1
      rw [if_neg hlater, List.append_nil]
      refine if_congr ?_ rfl rfl
      exact ⟨fun h => ⟨h.1, h.2.1, ht⟩, fun h => ⟨h.1, h.2.1, ht.trans htu⟩⟩
    · have hearlier : ¬(move.steps ≠ 0 ∧ s < segment.startNs ∧ segment.startNs ≤ t) :=
        fun h => ht h.2.2
      rw [if_neg hearlier, List.nil_append]
      refine if_congr ?_ rfl rfl
      exact ⟨fun h => ⟨h.1, not_le.1 ht, h.2.2⟩, fun h => ⟨h.1, hst.trans_lt h.2.1, h.2.2⟩⟩
  rw [hcontrols]
  refine ((hrises.append_left _).append hfalls).trans ?_
  rw [← Multiset.coe_eq_coe]
  simp only [← Multiset.coe_add]
  unfold between
  abel

/-- The edges of a segment, in two parts. -/
theorem segmentEdges_perm (axes : List AxisRuntime) (segment : MotionSegment) {s t u : ℕ}
    (hst : s ≤ t) (htu : t ≤ u) : (segmentEdges axes segment s u).Perm
      (segmentEdges axes segment s t ++ segmentEdges axes segment t u) := by
  unfold segmentEdges
  refine (List.Perm.flatMap_left _ fun move _ => ?_).trans (List.flatMap_append_perm _ _ _).symm
  unfold axisEdges
  cases requireAxis axes move.resourceId with
  | none => exact .refl _
  | some axis => exact playMove_perm axis segment move hst htu

/-- The edges of a segment are sorted in two parts. -/
theorem inOrder_segmentEdges (hfits : SegmentFits configs segment) (axes : List AxisRuntime)
    {s t u : ℕ} (hst : s ≤ t) (htu : t ≤ u) :
    inOrder (segmentEdges axes segment s u) =
      inOrder (segmentEdges axes segment s t) ++ inOrder (segmentEdges axes segment t u) := by
  have hties := noTies_segmentEdges hfits axes
  have hearlier : ∀ a ∈ segmentEdges axes segment s t, ∀ b ∈ segmentEdges axes segment t u,
      a.time < b.time := fun a ha b hb =>
    (time_of_mem_segmentEdges ha).2.trans_lt (time_of_mem_segmentEdges hb).1
  calc inOrder (segmentEdges axes segment s u)
      = inOrder (segmentEdges axes segment s t ++ segmentEdges axes segment t u) :=
        Sorter.run_eq_of_perm (segmentEdges_perm axes segment hst htu) (hties s u)
    _ = _ := inOrder_append hearlier (hties s t) (hties t u)

/-! ## The steps of a segment -/

/-- The edges that a segment calls for on an axis are those of the move for this axis. -/
theorem filter_segmentEdges (hfits : SegmentFits configs segment) (hmove : move ∈ segment.axes)
    (haxis : requireAxis axes move.resourceId = some axis) (since until' : ℕ) :
    (segmentEdges axes segment since until').filter (·.axisResourceId = move.resourceId) =
      playMove axis segment move since until' := by
  have hnodup := hfits.nodup
  obtain ⟨before, behind, hsplit⟩ := List.append_of_mem hmove
  unfold segmentEdges
  rw [hsplit] at hnodup ⊢
  rw [List.map_append, List.map_cons] at hnodup
  -- The other moves are on other axes.
  have hother : ∀ moves : List MotionAxisMove, (∀ move' ∈ moves,
      move'.resourceId ≠ move.resourceId) →
      (moves.flatMap (axisEdges axes segment since until')).filter
        (·.axisResourceId = move.resourceId) = [] := by
    intro moves hne
    rw [List.filter_eq_nil_iff]
    intro edge hedge hid
    obtain ⟨move', hmove', hedge⟩ := List.mem_flatMap.1 hedge
    unfold axisEdges at hedge
    split at hedge
    · exact hne move' hmove' ((of_mem_playMove hedge).2.2.2.1.symm.trans (of_decide_eq_true hid))
    · exact absurd hedge List.not_mem_nil
  have hbefore : ∀ move' ∈ before, move'.resourceId ≠ move.resourceId := by
    intro move' hmem heq
    exact (List.nodup_append.1 hnodup).2.2 _ (List.mem_map_of_mem hmem) _ List.mem_cons_self heq
  have hbehind : ∀ move' ∈ behind, move'.resourceId ≠ move.resourceId := by
    intro move' hmem heq
    exact (List.nodup_cons.1 (List.nodup_append.1 hnodup).2.1).1 (heq ▸ List.mem_map_of_mem hmem)
  have hown : axisEdges axes segment since until' move =
      playMove axis segment move since until' := by
    unfold axisEdges
    rw [haxis]
  rw [List.flatMap_append, List.flatMap_cons, List.filter_append, List.filter_append,
    hother before hbefore, hother behind hbehind, List.nil_append, List.append_nil, hown,
    List.filter_eq_self]
  exact fun edge hedge => decide_eq_true (of_mem_playMove hedge).2.2.2.1

/-- The number of the rises of a move up to a time. -/
def riseCount (config : MotionAxisConfig) (segment : MotionSegment) (move : MotionAxisMove)
    (time : ℕ) : ℕ := (rises config segment move).countP (·.time ≤ time)

/-- The number of the falls of a move up to a time. -/
def fallCount (config : MotionAxisConfig) (segment : MotionSegment) (move : MotionAxisMove)
    (time : ℕ) : ℕ := (falls config segment move).countP (·.time ≤ time)

/-- A step edge counts for its level. -/
theorem stepsOn_between (id : UInt32) (level level' : Bool) (count : ℕ) (time : ℕ → ℕ) (s t : ℕ) :
    stepsOn id level (between s t ((List.range count).map fun index =>
        stepEdge id level' (time index))) =
      if level' = level then (between s t ((List.range count).map fun index =>
        stepEdge id level' (time index))).length else 0 := by
  have hmem : ∀ edge ∈ between s t ((List.range count).map fun index =>
      stepEdge id level' (time index)),
        edge.axisResourceId = id ∧ edge.signal = .step ∧ edge.level = level' := by
    intro edge hedge
    obtain ⟨index, -, rfl⟩ := List.mem_map.1 (List.mem_filter.1 hedge).1
    exact ⟨rfl, rfl, rfl⟩
  unfold stepsOn
  split
  · next heq =>
    rw [List.countP_eq_length]
    exact fun edge hedge => decide_eq_true (heq ▸ hmem edge hedge)
  · next hne =>
    rw [List.countP_eq_zero]
    exact fun edge hedge h => hne ((hmem edge hedge).2.2.symm.trans (of_decide_eq_true h).2.2)

/-- The steps of a move between two times. -/
theorem stepsOn_playMove (axis : AxisRuntime) (segment : MotionSegment) (move : MotionAxisMove)
    (s t : ℕ) :
    stepsOn move.resourceId true (playMove axis segment move s t) =
        (between s t (rises axis.config segment move)).length ∧
      stepsOn move.resourceId false (playMove axis segment move s t) =
        (between s t (falls axis.config segment move)).length := by
  have hcontrols : ∀ level, stepsOn move.resourceId level
      (if move.steps ≠ 0 ∧ s < segment.startNs ∧ segment.startNs ≤ t then
        controlEdges axis segment move else []) = 0 := by
    intro level
    unfold stepsOn
    rw [List.countP_eq_zero]
    intro edge hedge
    split at hedge
    · obtain ⟨-, -, -, ⟨hsignal, -⟩ | ⟨hsignal, -⟩⟩ := of_mem_controlEdges hedge <;>
        simp only [hsignal, reduceCtorEq, false_and, and_false, decide_false, Bool.false_eq_true,
          not_false_eq_true]
    · exact absurd hedge List.not_mem_nil
  have hsplit : ∀ level, stepsOn move.resourceId level (playMove axis segment move s t) =
      stepsOn move.resourceId level (between s t (rises axis.config segment move)) +
        stepsOn move.resourceId level (between s t (falls axis.config segment move)) := by
    intro level
    unfold playMove
    rw [stepsOn, List.countP_append, List.countP_append, ← stepsOn, hcontrols, Nat.zero_add]
    rfl
  constructor
  · rw [hsplit, rises, falls, stepsOn_between, stepsOn_between, if_pos rfl,
      if_neg Bool.false_ne_true, Nat.add_zero]
  · rw [hsplit, rises, falls, stepsOn_between, stepsOn_between, if_neg (by decide), if_pos rfl,
      Nat.zero_add]

/-- The steps of a segment on an axis are those of its move. -/
theorem stepsOn_segmentEdges (hfits : SegmentFits configs segment) (hmove : move ∈ segment.axes)
    (haxis : requireAxis axes move.resourceId = some axis) {s t : ℕ} (hst : s ≤ t) :
    riseCount axis.config segment move s +
        stepsOn move.resourceId true (inOrder (segmentEdges axes segment s t)) =
      riseCount axis.config segment move t ∧
    fallCount axis.config segment move s +
        stepsOn move.resourceId false (inOrder (segmentEdges axes segment s t)) =
      fallCount axis.config segment move t := by
  have hcount : ∀ level,
      stepsOn move.resourceId level (inOrder (segmentEdges axes segment s t)) =
        stepsOn move.resourceId level (playMove axis segment move s t) := by
    intro level
    have hperm := perm_inOrder (segmentEdges axes segment s t)
    rw [← filter_segmentEdges hfits hmove haxis s t]
    unfold stepsOn
    rw [List.countP_filter, hperm.countP_eq]
    refine List.countP_congr fun edge _ => ?_
    simp only [Bool.and_eq_true, decide_eq_true_eq]
    tauto
  obtain ⟨hrises, hfalls⟩ := stepsOn_playMove axis segment move s t
  rw [hcount, hcount, hrises, hfalls]
  exact ⟨List.countP_add_length_filter hst _, List.countP_add_length_filter hst _⟩

/-- The steps of a move lie within the segment, behind the time for the direction. -/
theorem time_of_mem_steps {config : MotionAxisConfig}
    (h : move.steps ≠ 0 → Fits config segment move.steps)
    (hmem : edge ∈ rises config segment move ∨ edge ∈ falls config segment move) :
    segment.startNs + config.directionSetupNs.toNat ≤ edge.time ∧ edge.time ≤ segment.endNs := by
  have hfits : move.steps.natAbs ≠ 0 → Fits config segment move.steps := fun hne =>
    h fun hzero => hne (Int.natAbs_eq_zero.2 hzero)
  rcases hmem with hmem | hmem
  · obtain ⟨index, hindex, rfl⟩ := of_mem_rises hmem
    obtain ⟨hlow, hhigh⟩ := riseNs_bounds (hfits (by omega)) hindex
    rw [time_rise (hfits (by omega)) hindex]
    unfold fallNs at hhigh
    exact ⟨hlow, by omega⟩
  · obtain ⟨index, hindex, rfl⟩ := of_mem_falls hmem
    obtain ⟨hlow, hhigh⟩ := riseNs_bounds (hfits (by omega)) hindex
    rw [time_fall (hfits (by omega)) hindex]
    unfold fallNs at hhigh ⊢
    exact ⟨by omega, hhigh⟩

/-- Nothing is made of a move before the segment begins. -/
theorem stepCounts_eq_zero {config : MotionAxisConfig}
    (h : move.steps ≠ 0 → Fits config segment move.steps)
    {time : ℕ} (htime : time < segment.startNs + config.directionSetupNs.toNat) :
    riseCount config segment move time = 0 ∧ fallCount config segment move time = 0 := by
  unfold riseCount fallCount
  rw [List.countP_eq_zero, List.countP_eq_zero]
  constructor
  · intro edge hedge hle
    have hlow := (time_of_mem_steps h (.inl hedge)).1
    have hle := of_decide_eq_true hle
    omega
  · intro edge hedge hle
    have hlow := (time_of_mem_steps h (.inr hedge)).1
    have hle := of_decide_eq_true hle
    omega

/-- All of a move is made when the segment ends. -/
theorem stepCounts_eq_natAbs {config : MotionAxisConfig}
    (h : move.steps ≠ 0 → Fits config segment move.steps) {time : ℕ}
    (htime : segment.endNs ≤ time) :
    riseCount config segment move time = move.steps.natAbs ∧
      fallCount config segment move time = move.steps.natAbs := by
  have hrises : (rises config segment move).length = move.steps.natAbs := by
    rw [rises, List.length_map, List.length_range]
  have hfalls : (falls config segment move).length = move.steps.natAbs := by
    rw [falls, List.length_map, List.length_range]
  unfold riseCount fallCount
  constructor
  · rw [← hrises, List.countP_eq_length]
    exact fun edge hedge => decide_eq_true ((time_of_mem_steps h (.inl hedge)).2.trans htime)
  · rw [← hfalls, List.countP_eq_length]
    exact fun edge hedge => decide_eq_true ((time_of_mem_steps h (.inr hedge)).2.trans htime)

/-! ## What a segment does to an axis -/

/-- An axis is found by its number. -/
theorem resourceId_of_requireAxis {id : UInt32} (h : requireAxis axes id = some axis) :
    axis.config.resourceId = id := by
  have hfound := List.find?_some h
  exact of_decide_eq_true hfound

/-- An edge of a segment on an axis stands among those of the move for this axis. -/
theorem mem_inOrder_segmentEdges (hfits : SegmentFits configs segment)
    (hmove : move ∈ segment.axes) (haxis : requireAxis axes move.resourceId = some axis)
    {s t : ℕ} : edge ∈ inOrder (segmentEdges axes segment s t) ∧
        edge.axisResourceId = axis.config.resourceId ↔ edge ∈ playMove axis segment move s t := by
  rw [← filter_segmentEdges hfits hmove haxis, List.mem_filter, mem_inOrder, decide_eq_true_iff,
    resourceId_of_requireAxis haxis]

/-- A segment whose steps begin points the axis in the direction of its move. -/
theorem playEdges_controls (hfits : SegmentFits configs segment) (hmove : move ∈ segment.axes)
    (haxis : requireAxis axes move.resourceId = some axis)
    (hsetup : 0 < axis.config.directionSetupNs.toNat)
    (h : move.steps ≠ 0 → Fits axis.config segment move.steps) {s : ℕ} (hs : s < segment.startNs) :
    (move.steps ≠ 0 → (playEdges (inOrder (segmentEdges axes segment s segment.startNs))
        axis).directionPositive = decide (0 ≤ move.steps)) ∧
      (playEdges (inOrder (segmentEdges axes segment s segment.startNs)) axis).stepLevel =
        axis.stepLevel ∧
      (playEdges (inOrder (segmentEdges axes segment s segment.startNs)) axis).positionSteps =
        axis.positionSteps := by
  -- There is no time for a step yet.
  have hcontrol : ∀ edge ∈ inOrder (segmentEdges axes segment s segment.startNs),
      edge.axisResourceId = axis.config.resourceId → edge ∈ controlEdges axis segment move := by
    intro edge hedge hid
    have hplay := (mem_inOrder_segmentEdges hfits hmove haxis).1 ⟨hedge, hid⟩
    rcases mem_playMove.1 hplay with ⟨hcontrol, -⟩ | ⟨hstep, -, hle⟩
    · exact hcontrol
    · have hlow := (time_of_mem_steps h hstep).1
      omega
  have hnostep : ∀ edge ∈ inOrder (segmentEdges axes segment s segment.startNs),
      edge.axisResourceId = axis.config.resourceId → edge.signal ≠ .step := by
    intro edge hedge hid hstep
    obtain ⟨-, -, -, ⟨hsignal, -⟩ | ⟨hsignal, -⟩⟩ :=
      of_mem_controlEdges (hcontrol edge hedge hid) <;>
      rw [hstep] at hsignal <;> cases hsignal
  refine ⟨fun hne => ?_, ?_, positionSteps_playEdges_eq hnostep⟩
  · show (playEdges _ axis).level .direction = _
    refine level_playEdges (fun edge hedge hid hsignal => ?_) ?_
    · obtain ⟨-, -, -, ⟨henable, -⟩ | ⟨-, hlevel, -⟩⟩ :=
        of_mem_controlEdges (hcontrol edge hedge hid)
      · rw [hsignal] at henable
        cases henable
      · exact hlevel
    · by_cases hset : axis.directionPositive = decide (0 ≤ move.steps)
      · exact .inl hset
      · right
        -- The direction is set at the start of the segment.
        have hedge : (⟨segment.startTimeNs, segment.startTimeNs, move.resourceId, .direction,
            decide (0 ≤ move.steps)⟩ : MotionEdge) ∈ playMove axis segment move s
              segment.startNs := by
          refine mem_playMove.2 (.inl ⟨?_, hne, hs, le_rfl⟩)
          unfold controlEdges
          rw [if_neg hset]
          exact List.mem_append_right _ List.mem_cons_self
        obtain ⟨hmem, hid⟩ := (mem_inOrder_segmentEdges hfits hmove haxis).2 hedge
        exact ⟨_, hmem, hid, rfl⟩
  · show (playEdges _ axis).level .step = axis.stepLevel
    exact level_playEdges (fun edge hedge hid hsignal => absurd hsignal (hnostep edge hedge hid))
      (.inl rfl)

/-- The steps of a move up to a time, negative backwards. -/
def stepsMade (config : MotionAxisConfig) (segment : MotionSegment) (move : MotionAxisMove)
    (time : ℕ) : ℤ :=
  (if 0 ≤ move.steps then 1 else -1) * riseCount config segment move time

/-- A segment moves an axis by the steps that it makes. -/
theorem positionSteps_playEdges_segment (hfits : SegmentFits configs segment)
    (hmove : move ∈ segment.axes) (haxis : requireAxis axes move.resourceId = some axis)
    (hsetup : 0 < axis.config.directionSetupNs.toNat)
    (h : move.steps ≠ 0 → Fits axis.config segment move.steps) {s t : ℕ}
    (hs : s < segment.startNs) :
    (playEdges (inOrder (segmentEdges axes segment s t)) axis).positionSteps =
      axis.positionSteps + stepsMade axis.config segment move t := by
  have hid := resourceId_of_requireAxis haxis
  unfold stepsMade
  rcases lt_or_ge t segment.startNs with hlt | hge
  · -- The segment does not begin.
    rw [(stepCounts_eq_zero h (by omega)).1, Nat.cast_zero, mul_zero, add_zero]
    refine positionSteps_playEdges_eq fun edge hedge hon hstep => ?_
    have hplay := (mem_inOrder_segmentEdges hfits hmove haxis).1 ⟨hedge, hon⟩
    rcases mem_playMove.1 hplay with ⟨-, -, -, hle⟩ | ⟨hmem, -, hle⟩
    · omega
    · have hlow := (time_of_mem_steps h hmem).1
      omega
  · -- First the direction is set, then there are only steps.
    obtain ⟨hdirection, -, hposition⟩ := playEdges_controls hfits hmove haxis hsetup h hs
    have hcount := (stepsOn_segmentEdges hfits hmove haxis hge).1
    rw [(stepCounts_eq_zero h (by omega)).1, Nat.zero_add, ← hid] at hcount
    rw [inOrder_segmentEdges hfits axes hs.le hge, playEdges_append, positionSteps_playEdges,
      hposition, config_playEdges, hcount]
    · by_cases hzero : move.steps = 0
      · have hnone : riseCount axis.config segment move t = 0 := by
          unfold riseCount rises
          rw [hzero]
          rfl
        rw [hnone, Nat.cast_zero, mul_zero, mul_zero]
      · rw [hdirection hzero]
        simp only [decide_eq_true_eq]
    · intro edge hedge hon hsignal
      rw [config_playEdges] at hon
      have hplay := (mem_inOrder_segmentEdges hfits hmove haxis).1 ⟨hedge, hon⟩
      rcases mem_playMove.1 hplay with ⟨-, -, hlt, -⟩ | ⟨hmem | hmem, -⟩
      · omega
      · obtain ⟨_, -, rfl⟩ := of_mem_rises hmem
        cases hsignal
      · obtain ⟨_, -, rfl⟩ := of_mem_falls hmem
        cases hsignal

/-- At its end a segment leaves the step output low. -/
theorem stepLevel_playEdges_segment (hfits : SegmentFits configs segment)
    (hmove : move ∈ segment.axes) (haxis : requireAxis axes move.resourceId = some axis)
    (hwidth : 0 < axis.config.stepPulseWidthNs.toNat)
    (h : move.steps ≠ 0 → Fits axis.config segment move.steps) {s t : ℕ} (hs : s < segment.startNs)
    (ht : segment.endNs ≤ t) (hlow : axis.stepLevel = false) :
    (playEdges (inOrder (segmentEdges axes segment s t)) axis).stepLevel = false := by
  by_cases hzero : move.steps = 0
  · -- There are no steps.
    show (playEdges _ axis).level .step = false
    refine level_playEdges (fun edge hedge hon hsignal => ?_) (.inl hlow)
    have hplay := (mem_inOrder_segmentEdges hfits hmove haxis).1 ⟨hedge, hon⟩
    rw [playMove_of_steps_eq_zero hzero] at hplay
    exact absurd hplay List.not_mem_nil
  · -- Behind the last rise there are only falls, and the last one is there.
    have hsteps := h hzero
    have hpos : 0 < move.steps.natAbs := Int.natAbs_pos.2 hzero
    obtain ⟨hfirst, hlast⟩ := riseNs_bounds hsteps (Nat.sub_lt hpos one_pos)
    have hfall : fallNs axis.config segment move.steps.natAbs (move.steps.natAbs - 1) =
        riseNs axis.config segment move.steps.natAbs (move.steps.natAbs - 1) +
          axis.config.stepPulseWidthNs.toNat := rfl
    rw [inOrder_segmentEdges hfits axes (show s ≤ riseNs axis.config segment move.steps.natAbs
      (move.steps.natAbs - 1) by omega) (by omega), playEdges_append]
    show (playEdges _ _).level .step = false
    refine level_playEdges (fun edge hedge hon hsignal => ?_) (.inr ?_)
    · rw [config_playEdges] at hon
      have hplay := (mem_inOrder_segmentEdges hfits hmove haxis).1 ⟨hedge, hon⟩
      rcases mem_playMove.1 hplay with ⟨-, -, hlt, -⟩ | ⟨hmem | hmem, hlt, -⟩
      · omega
      · obtain ⟨index, hindex, rfl⟩ := of_mem_rises hmem
        rw [time_rise hsteps hindex] at hlt
        have hmono := riseNs_mono axis.config segment move.steps.natAbs
          (show index ≤ move.steps.natAbs - 1 by omega)
        omega
      · obtain ⟨_, -, rfl⟩ := of_mem_falls hmem
        rfl
    · have hedge : stepEdge move.resourceId false
          (fallNs axis.config segment move.steps.natAbs (move.steps.natAbs - 1)) ∈
            playMove axis segment move (riseNs axis.config segment move.steps.natAbs
              (move.steps.natAbs - 1)) t := by
        refine mem_playMove.2 (.inr ⟨.inr ?_, ?_, ?_⟩)
        · exact List.mem_map.2 ⟨_, List.mem_range.2 (Nat.sub_lt hpos one_pos), rfl⟩
        · rw [time_fall hsteps (Nat.sub_lt hpos one_pos)]
          omega
        · rw [time_fall hsteps (Nat.sub_lt hpos one_pos)]
          exact hlast.trans ht
      obtain ⟨hmem, hid⟩ := (mem_inOrder_segmentEdges hfits hmove haxis).2 hedge
      rw [config_playEdges]
      exact ⟨_, hmem, hid, rfl⟩

/-! ## Making the edges -/

/-- A segment that has begun makes the same edges whatever the outputs are. -/
theorem segmentEdges_map {f : AxisRuntime → AxisRuntime}
    (hf : ∀ axis, (f axis).config = axis.config) (axes : List AxisRuntime)
    (hstart : segment.startNs ≤ since) (until' : ℕ) :
    segmentEdges (axes.map f) segment since until' = segmentEdges axes segment since until' := by
  unfold segmentEdges
  refine List.flatMap_congr fun move _ => ?_
  unfold axisEdges
  rw [requireAxis_map hf]
  cases requireAxis axes move.resourceId with
  | none => rfl
  | some axis =>
    rw [Option.map_some]
    dsimp only
    unfold playMove
    rw [hf, if_neg fun h => not_lt.2 hstart h.2.1, if_neg fun h => not_lt.2 hstart h.2.1]

/-- A segment that has not begun. -/
theorem playedSegment_of_lt (hfits : SegmentFits configs segment) {time : ℕ}
    (htime : time < segment.startNs) : playedSegment configs segment time =
      ⟨segment, segment.axes.map fun move =>
        { move := move, stepCount := absoluteSteps move.steps }⟩ := by
  unfold playedSegment
  congr 1
  refine List.map_congr_left fun move hmove => ?_
  obtain ⟨config, hconfig, hsteps⟩ := hfits.moves move hmove
  obtain ⟨hrises, hfalls⟩ := stepCounts_eq_zero hsteps (show time < _ by omega)
  unfold riseCount at hrises
  unfold fallCount at hfalls
  have hcontrols : ¬(move.steps ≠ 0 ∧ segment.startNs ≤ time) := fun h => not_le.2 htime h.2
  unfold playedAxis playedMove
  rw [hconfig]
  dsimp only
  rw [hrises, hfalls, decide_eq_false hcontrols]
  rfl

/-- The smaller of two 64-bit numbers is the smaller one as a number. -/
theorem toNat_min (a b : UInt64) : (min a b).toNat = min a.toNat b.toNat := by
  show (if a ≤ b then a else b).toNat = _
  rw [apply_ite UInt64.toNat, Nat.min_def]
  exact if_congr UInt64.le_iff_toNat_le rfl rfl

/-- The edges of a segment that are left, and the segment behind them. -/
theorem collectSegmentEdges_played (executor : MotionExecutor)
    (hfits : SegmentFits (configsOf executor.axes) segment) {untilNs : UInt64}
    (hsince : since ≤ min untilNs.toNat segment.endNs) :
    let edges :=
      inOrder (segmentEdges executor.axes segment since (min untilNs.toNat segment.endNs))
    executor.collectSegmentEdges (playedSegment (configsOf executor.axes) segment since) untilNs =
      (edges, playedSegment (configsOf executor.axes) segment (min untilNs.toNat segment.endNs),
        (executor.applyEdges edges).countEdges edges) := by
  intro edges
  have hmin : (min untilNs (segment.startTimeNs + segment.durationNs)).toNat =
      min untilNs.toNat segment.endNs := by
    rw [toNat_min, toNat_end hfits.end_lt]
  -- The loop over the moves.
  have hmoves : ∀ moves : List (List MotionEdge × MoveRuntime),
      moves = segment.axes.map (fun move =>
      (axisEdges executor.axes segment since (min untilNs.toNat segment.endNs) move,
        playedAxis (configsOf executor.axes) segment (min untilNs.toNat segment.endNs) move)) →
      (executor.sort.run (moves.flatMap Prod.fst), (⟨segment, moves.map Prod.snd⟩ : SegmentRuntime),
        (executor.applyEdges (executor.sort.run (moves.flatMap Prod.fst))).countEdges
          (executor.sort.run (moves.flatMap Prod.fst))) =
      (edges, playedSegment (configsOf executor.axes) segment (min untilNs.toNat segment.endNs),
        (executor.applyEdges edges).countEdges edges) := by
    rintro moves rfl
    rw [List.flatMap_map, List.map_map]
    -- The edges of a segment have no ties, so that every sort makes the same of them.
    have hsort := run_eq_inOrder executor.sort
      (noTies_segmentEdges hfits executor.axes since (min untilNs.toNat segment.endNs))
    unfold segmentEdges at hsort
    rw [hsort]
    rfl
  refine hmoves _ ?_
  unfold playedSegment
  rw [List.map_map]
  refine List.map_congr_left fun move hmove => ?_
  obtain ⟨config, hconfig, hsteps⟩ := hfits.moves move hmove
  rw [findConfig_configsOf] at hconfig
  obtain ⟨axis, haxis, rfl⟩ := Option.map_eq_some_iff.1 hconfig
  have hplayed := moveEdges_played hsteps (hmin ▸ hsince)
  rw [hmin] at hplayed
  unfold playedAxis axisEdges
  rw [Function.comp_apply, findConfig_configsOf, haxis]
  dsimp only [Option.map_some]
  have hid : (playedMove axis.config segment move since).move = move := rfl
  rw [hid, haxis]
  exact hplayed

end RemoteBSP.MockMcu
