import RemoteBSP.MockMcu.ExecutorRuns

/-!
# The steps are conserved

Two facts about `advance_to`. It does not matter how often the executor is polled, and a segment
that is completed makes its steps, neither more nor less (`polling_independent`). The account is
kept with the progress counters of the segments in the queue (`risesMade`, `fallsMade`,
`stepsTaken`).
-/

namespace RemoteBSP.MockMcu

namespace MotionExecutor

/-- `advance_to`, which does nothing if the time lies in the past. -/
def poll (executor : MotionExecutor) (nowNs : UInt64) : List MotionEdge × MotionExecutor :=
  match executor.advanceTo nowNs with
  | .ok (edges, executor') => (edges, executor')
  | .error _ => ([], executor)

/-- One `advance_to` after another: the edges that have been returned, and the executor. -/
def pollAll (executor : MotionExecutor) : List UInt64 → List MotionEdge × MotionExecutor
  | [] => ([], executor)
  | nowNs :: times =>
    ((executor.poll nowNs).1 ++ ((executor.poll nowNs).2.pollAll times).1,
      ((executor.poll nowNs).2.pollAll times).2)

/-- The progress of an axis in the segments of the queue. -/
def movesOn (executor : MotionExecutor) (id : UInt32) : List MoveRuntime :=
  executor.queue.flatMap fun runtime => runtime.moves.filter (·.move.resourceId = id)

/-- The rises that an axis has made for the segments in the queue. -/
def risesMade (executor : MotionExecutor) (id : UInt32) : ℕ :=
  ((executor.movesOn id).map (·.risesEmitted.toNat)).sum

/-- The falls that an axis has made for the segments in the queue. -/
def fallsMade (executor : MotionExecutor) (id : UInt32) : ℕ :=
  ((executor.movesOn id).map (·.fallsEmitted.toNat)).sum

/-- The steps that an axis has made for the segments in the queue, negative backwards. -/
def stepsTaken (executor : MotionExecutor) (id : UInt32) : ℤ :=
  ((executor.movesOn id).map fun runtime =>
    (if 0 ≤ runtime.move.steps then 1 else -1) * (runtime.risesEmitted.toNat : ℤ)).sum

variable {executor : MotionExecutor} {segments : List MotionSegment} {base : List AxisRuntime}

/-! ## Polling -/

/-- Polling at a time that has come. -/
theorem poll_of_le {nowNs : UInt64} (h : executor.nowNs ≤ nowNs) : executor.poll nowNs =
    (executor.sort.run (executor.drain nowNs).1, (executor.drain nowNs).2.settle nowNs) := by
  unfold poll
  rw [advanceTo_eq, if_neg (UInt64.not_lt.2 h)]

/-- The edges of a poll have no ties, so that it does not matter which sort puts them in order. -/
theorem Valid.poll_edges (h : Valid segments base executor) {nowNs : UInt64}
    (hnow : executor.nowNs ≤ nowNs) : NoTies EdgeLe (executor.drain nowNs).1 ∧
      (executor.poll nowNs).1 = inOrder (executor.drain nowNs).1 := by
  have hties := (drain_noTies h.toScheduled (UInt64.le_iff_toNat_le.1 hnow)).1
  rw [poll_of_le hnow]
  exact ⟨hties, run_eq_inOrder _ hties⟩

/-- Polling at a time that has passed. -/
theorem poll_of_lt {nowNs : UInt64} (h : nowNs < executor.nowNs) :
    executor.poll nowNs = ([], executor) := by
  unfold poll
  rw [advanceTo_eq, if_pos h]

/-- Polling leaves a valid executor, with the segments that are still to play. -/
theorem Valid.poll (h : Valid segments base executor) {nowNs : UInt64}
    (hnow : executor.nowNs ≤ nowNs) :
    ∃ completed remaining base', segments = completed ++ remaining ∧
      Drained executor.nowNs.toNat nowNs.toNat completed remaining base base'
        (executor.poll nowNs).1 (executor.poll nowNs).2 ∧
      Valid remaining base' (executor.poll nowNs).2 := by
  have hadvance : executor.advanceTo nowNs = .ok (executor.poll nowNs) := by
    rw [poll_of_le hnow, advanceTo_eq, if_neg (UInt64.not_lt.2 hnow)]
  exact h.advanceTo hadvance

/-- The executor settles at the later time. -/
theorem settle_settle (executor : MotionExecutor) (t u : UInt64) :
    (executor.settle t).settle u = executor.settle u := by
  unfold settle
  congr 1
  dsimp only
  by_cases hidle : executor.queue = [] ∧ executor.fault = .none ∧ executor.state ≠ .faulted
  · rw [if_pos hidle, if_pos ⟨hidle.1, hidle.2.1, nofun⟩]
  · rw [if_neg hidle, if_neg hidle]

/-- The loop goes on with an executor that has settled. -/
theorem drain_settle (executor : MotionExecutor) (t u : UInt64) :
    ((executor.settle t).drain u).1 = (executor.drain u).1 ∧
      ((executor.settle t).drain u).2.settle u = (executor.drain u).2.settle u := by
  by_cases hqueue : executor.queue = []
  · have hqueue' : (executor.settle t).queue = [] := hqueue
    rw [drain_nil hqueue, drain_nil hqueue']
    exact ⟨rfl, settle_settle executor t u⟩
  · have hset : executor.settle t = executor.setNow t := by
      unfold settle
      rw [if_neg fun h => hqueue h.1]
      rfl
    rw [hset, (unseen_setNow t).drain]
    exact ⟨rfl, rfl⟩

/-- To poll twice gives the edges that one poll at the later time gives. -/
theorem poll_poll (h : Valid segments base executor) {t u : UInt64} (htu : t ≤ u) :
    executor.poll u = ((executor.poll t).1 ++ ((executor.poll t).2.poll u).1,
      ((executor.poll t).2.poll u).2) := by
  rcases UInt64.lt_or_le t executor.nowNs with hpast | hnow
  · rw [poll_of_lt hpast]
    rfl
  · have hsince := UInt64.le_iff_toNat_le.1 hnow
    have hle := UInt64.le_iff_toNat_le.1 htu
    have hloop := drain_drain h.toPlaying hsince hle
    obtain ⟨_, _, _, -, hfirst, hvalid⟩ := h.poll hnow
    have hnow' : (executor.poll t).2.nowNs ≤ u := by
      rw [poll_of_le hnow]
      exact htu
    obtain ⟨_, _, _, -, hsecond, -⟩ := hvalid.poll hnow'
    have hclock : (executor.poll t).2.nowNs = t := by
      rw [poll_of_le hnow]
      rfl
    obtain ⟨hfirstTies, hfirstEdges⟩ := h.poll_edges hnow
    obtain ⟨hsecondTies, hsecondEdges⟩ := hvalid.poll_edges hnow'
    have hwhole := (h.poll_edges (UInt64.le_trans hnow htu)).2
    -- The loop goes on where it has stopped.
    have hsettled : (executor.poll t).2 = (executor.drain t).2.settle t := by rw [poll_of_le hnow]
    obtain ⟨hedges, hexecutor⟩ := drain_settle (executor.drain t).2 t u
    rw [← hsettled] at hedges hexecutor
    have hdrain : (executor.drain u).1 =
        (executor.drain t).1 ++ ((executor.poll t).2.drain u).1 := by rw [hloop, hedges]
    refine Prod.ext ?_ ?_
    · -- The edges of the second poll are later than those of the first.
      rw [hwhole, hdrain, hfirstEdges, hsecondEdges]
      refine inOrder_append (fun a ha b hb => ?_) hfirstTies hsecondTies
      have ha := hfirst.times a (hfirstEdges ▸ mem_inOrder.2 ha)
      have hb := hsecond.times b (hsecondEdges ▸ mem_inOrder.2 hb)
      exact ha.2.trans_lt (hclock ▸ hb.1)
    · rw [poll_of_le hnow', poll_of_le (UInt64.le_trans hnow htu), hloop]
      exact hexecutor.symm

/-- Polling leaves a valid executor at any time. -/
theorem Valid.poll_any (h : Valid segments base executor) (nowNs : UInt64) :
    ∃ segments base, Valid segments base (executor.poll nowNs).2 := by
  rcases UInt64.lt_or_le nowNs executor.nowNs with hpast | hnow
  · rw [poll_of_lt hpast]
    exact ⟨_, _, h⟩
  · obtain ⟨_, _, _, -, -, hvalid⟩ := h.poll hnow
    exact ⟨_, _, hvalid⟩

/-- Of several polls, the last time alone decides where the executor ends. -/
theorem pollAll_concat (h : Valid segments base executor) {times : List UInt64} {last : UInt64}
    (hle : ∀ t ∈ times, t ≤ last) : executor.pollAll (times ++ [last]) = executor.poll last := by
  induction times generalizing executor segments base with
  | nil =>
    refine Prod.ext (List.append_nil _) rfl
  | cons t times ih =>
    obtain ⟨_, _, hvalid⟩ := h.poll_any t
    rw [poll_poll h (hle t List.mem_cons_self), List.cons_append]
    unfold pollAll
    rw [ih hvalid fun t' hmem => hle t' (List.mem_cons_of_mem _ hmem)]

/-! ## The account of the steps -/

/-- A valid executor has exactly its segments in the queue. -/
theorem Valid.segments_eq (h : Valid segments base executor) : executor.segments = segments := by
  unfold MotionExecutor.segments
  rw [h.queue, List.map_map]
  exact List.map_id segments

/-- A list without the same number twice has one move for each. -/
theorem filter_resourceId {moves : List MotionAxisMove} {move : MotionAxisMove}
    (hnodup : (moves.map MotionAxisMove.resourceId).Nodup) (hmem : move ∈ moves) :
    moves.filter (·.resourceId = move.resourceId) = [move] := by
  induction moves with
  | nil => exact absurd hmem List.not_mem_nil
  | cons first moves ih =>
    obtain ⟨hfresh, hrest⟩ := List.nodup_cons.1 hnodup
    rcases List.mem_cons.1 hmem with rfl | hmem
    · have hnone : moves.filter (·.resourceId = move.resourceId) = [] := by
        rw [List.filter_eq_nil_iff]
        intro move' hmem' hid
        exact hfresh (of_decide_eq_true hid ▸ List.mem_map_of_mem hmem')
      rw [List.filter_cons, if_pos (decide_eq_true rfl), hnone]
    · have hne : first.resourceId ≠ move.resourceId := fun heq =>
        hfresh (heq ▸ List.mem_map_of_mem hmem)
      rw [List.filter_cons, if_neg (by rwa [decide_eq_true_eq]), ih hrest hmem]

/-- The progress in a segment on one axis. -/
theorem filter_playedSegment {configs : List MotionAxisConfig} {config : MotionAxisConfig}
    {segment : MotionSegment} (hfits : SegmentFits configs segment)
    (hconfigured : Configured configs) (hconfig : config ∈ configs) (time : ℕ) :
    (playedSegment configs segment time).moves.filter
        (·.move.resourceId = config.resourceId) =
      [playedMove config segment (moveOf segment config.resourceId) time] := by
  obtain ⟨hmem, hid⟩ := moveOf_mem hfits hconfig
  have hmove : ∀ move, (playedAxis configs segment time move).move = move := by
    intro move
    unfold playedAxis
    split <;> rfl
  have hfilter := filter_resourceId hfits.nodup hmem
  rw [hid] at hfilter
  unfold playedSegment
  dsimp only
  rw [List.filter_map]
  have hcomp : (fun runtime : MoveRuntime => decide (runtime.move.resourceId = config.resourceId)) ∘
      playedAxis configs segment time = fun move => decide (move.resourceId = config.resourceId) :=
    funext fun move => by rw [Function.comp_apply, hmove]
  rw [hcomp, hfilter, List.map_singleton]
  unfold playedAxis
  rw [hid, findConfig_of_mem hconfigured hconfig]

/-- The progress of an axis in the queue. -/
theorem Valid.movesOn (h : Valid segments base executor) {config : MotionAxisConfig}
    (hconfig : config ∈ configsOf base) : executor.movesOn config.resourceId =
      segments.map fun segment =>
        playedMove config segment (moveOf segment config.resourceId) executor.nowNs.toNat := by
  unfold MotionExecutor.movesOn
  rw [h.queue, List.flatMap_map, List.map_eq_flatMap]
  refine List.flatMap_congr fun segment hmem => ?_
  have hfilter := filter_playedSegment (h.fits_base hmem) h.configured hconfig
    executor.nowNs.toNat
  rw [h.configsOf_eq]
  exact hfilter

/-- The counters of a move do not overflow. -/
theorem toNat_emitted {config : MotionAxisConfig} {segment : MotionSegment} {move : MotionAxisMove}
    (h : move.steps ≠ 0 → Fits config segment move.steps) (time : ℕ) :
    (playedMove config segment move time).risesEmitted.toNat = riseCount config segment move time ∧
      (playedMove config segment move time).fallsEmitted.toNat =
        fallCount config segment move time := by
  have hsmall : move.steps.natAbs ≤ 2^31 := by
    by_cases hzero : move.steps = 0
    · rw [hzero]
      exact Nat.zero_le _
    · exact (h hzero).steps_le
  have hrises : riseCount config segment move time ≤ (rises config segment move).length :=
    List.countP_le_length
  have hfalls : fallCount config segment move time ≤ (falls config segment move).length :=
    List.countP_le_length
  rw [rises, List.length_map, List.length_range] at hrises
  rw [falls, List.length_map, List.length_range] at hfalls
  exact ⟨UInt64.toNat_ofNat_of_lt' (show riseCount config segment move time < 2^64 by omega),
    UInt64.toNat_ofNat_of_lt' (show fallCount config segment move time < 2^64 by omega)⟩

/-- The steps of segments between two times. -/
theorem stepsOn_flatMap_stepEdges {config : MotionAxisConfig} {configs : List MotionAxisConfig}
    (hfits : ∀ segment ∈ segments, SegmentFits configs segment) (hconfig : config ∈ configs)
    {s t : ℕ} (hst : s ≤ t) :
    (segments.map fun segment =>
        riseCount config segment (moveOf segment config.resourceId) s).sum +
        stepsOn config.resourceId true (between s t (segments.flatMap (stepEdges config))) =
      (segments.map fun segment =>
        riseCount config segment (moveOf segment config.resourceId) t).sum ∧
    (segments.map fun segment =>
        fallCount config segment (moveOf segment config.resourceId) s).sum +
        stepsOn config.resourceId false (between s t (segments.flatMap (stepEdges config))) =
      (segments.map fun segment =>
        fallCount config segment (moveOf segment config.resourceId) t).sum := by
  induction segments with
  | nil => exact ⟨rfl, rfl⟩
  | cons segment segments ih =>
    obtain ⟨hrises, hfalls⟩ := ih fun segment' hmem => hfits segment' (List.mem_cons_of_mem _ hmem)
    have hid := (moveOf_mem (hfits segment List.mem_cons_self) hconfig).2
    -- The steps of the first segment are counted apart from those of the others.
    have hsplit : ∀ level, stepsOn config.resourceId level
        (between s t ((segment :: segments).flatMap (stepEdges config))) =
        stepsOn config.resourceId level (between s t
            (rises config segment (moveOf segment config.resourceId))) +
          stepsOn config.resourceId level (between s t
            (falls config segment (moveOf segment config.resourceId))) +
          stepsOn config.resourceId level (between s t (segments.flatMap (stepEdges config))) := by
      intro level
      rw [List.flatMap_cons, stepEdges, between_append, between_append]
      unfold stepsOn
      rw [List.countP_append, List.countP_append]
    -- Each move makes its rises and falls one by one.
    have hfirst := List.countP_add_length_filter (f := MotionEdge.time) hst
      (rises config segment (moveOf segment config.resourceId))
    have hsecond := List.countP_add_length_filter (f := MotionEdge.time) hst
      (falls config segment (moveOf segment config.resourceId))
    have hrise : ∀ level, stepsOn config.resourceId level (between s t
        (rises config segment (moveOf segment config.resourceId))) = if true = level then
          (between s t (rises config segment (moveOf segment config.resourceId))).length
          else 0 := by
      intro level
      unfold rises
      rw [hid]
      exact stepsOn_between _ _ _ _ _ _ _
    have hfall : ∀ level, stepsOn config.resourceId level (between s t
        (falls config segment (moveOf segment config.resourceId))) = if false = level then
          (between s t (falls config segment (moveOf segment config.resourceId))).length
          else 0 := by
      intro level
      unfold falls
      rw [hid]
      exact stepsOn_between _ _ _ _ _ _ _
    -- What is counted between the times is the difference of the counts up to them.
    rw [hsplit, hsplit, hrise, hrise, hfall, hfall, if_pos rfl, if_pos rfl, if_neg (by decide),
      if_neg (by decide)]
    simp only [List.map_cons, List.sum_cons]
    unfold riseCount fallCount between at *
    omega

/-- The steps of an axis are counted among its steps. -/
theorem stepsOn_stepsOf (id : UInt32) (level : Bool) (edges : List MotionEdge) :
    stepsOn id level (stepsOf id edges) = stepsOn id level edges := by
  unfold stepsOn stepsOf
  rw [List.countP_filter]
  refine List.countP_congr fun edge _ => ?_
  simp only [Bool.and_eq_true, decide_eq_true_eq]
  tauto

/-- The counters of the queue say which part of its steps has been made. -/
theorem Valid.made (h : Valid segments base executor) {config : MotionAxisConfig}
    (hconfig : config ∈ configsOf base) :
    executor.risesMade config.resourceId = (segments.map fun segment =>
        riseCount config segment (moveOf segment config.resourceId) executor.nowNs.toNat).sum ∧
      executor.fallsMade config.resourceId = (segments.map fun segment =>
        fallCount config segment (moveOf segment config.resourceId) executor.nowNs.toNat).sum ∧
      executor.stepsTaken config.resourceId = (segments.map fun segment =>
        stepsMade config segment (moveOf segment config.resourceId) executor.nowNs.toNat).sum := by
  have hfits : ∀ segment ∈ segments, _ := fun segment hmem =>
    toNat_emitted (fits_moveOf (h.fits_base hmem) h.configured hconfig) executor.nowNs.toNat
  unfold MotionExecutor.risesMade MotionExecutor.fallsMade MotionExecutor.stepsTaken
  rw [h.movesOn hconfig, List.map_map, List.map_map, List.map_map]
  refine ⟨congrArg List.sum (List.map_congr_left fun segment hmem => (hfits segment hmem).1),
    congrArg List.sum (List.map_congr_left fun segment hmem => (hfits segment hmem).2),
    congrArg List.sum (List.map_congr_left fun segment hmem => ?_)⟩
  rw [Function.comp_apply, (hfits segment hmem).1]
  rfl

/-- An axis stands where it stood before the segment that has begun, and the steps of that. -/
theorem Valid.position (h : Valid segments base executor) {config : MotionAxisConfig}
    (hconfig : config ∈ configsOf base) : positionOf executor.axes config.resourceId =
      positionOf base config.resourceId + executor.stepsTaken config.resourceId := by
  rw [(h.made hconfig).2.2, h.axes]
  cases segments with
  | nil => exact (add_zero _).symm
  | cons segment rest =>
    have hposition := positionOf_playedAxes (h.fits_base List.mem_cons_self) h.configured
      (h.startNs_pos segment List.mem_cons_self) hconfig executor.nowNs.toNat
    have hrest : (rest.map fun segment => stepsMade config segment
        (moveOf segment config.resourceId) executor.nowNs.toNat).sum = 0 := by
      refine List.sum_eq_zero fun steps hsteps => ?_
      obtain ⟨segment', hmem, rfl⟩ := List.mem_map.1 hsteps
      have hleft := h.since_lt segment List.mem_cons_self
      have hlate := (h.endNs_le segment' hmem).1
      have hfits := fits_moveOf (h.fits_base (List.mem_cons_of_mem _ hmem)) h.configured hconfig
      unfold RemoteBSP.MockMcu.stepsMade
      rw [(stepCounts_eq_zero hfits (by omega)).1, Nat.cast_zero, mul_zero]
    rw [List.map_cons, List.sum_cons, hrest, add_zero]
    exact hposition

/-- A segment that is completed makes its steps. -/
theorem Valid.account (h : Valid segments base executor) {nowNs : UInt64}
    (hnow : executor.nowNs ≤ nowNs) :
    ∃ completed remaining base', segments = completed ++ remaining ∧
      (∀ segment ∈ completed, segment.endNs ≤ nowNs.toNat) ∧
      Valid remaining base' (executor.poll nowNs).2 ∧ configsOf base' = configsOf base ∧
      ∀ config ∈ configsOf base,
        positionOf (executor.poll nowNs).2.axes config.resourceId -
            (executor.poll nowNs).2.stepsTaken config.resourceId =
          positionOf executor.axes config.resourceId - executor.stepsTaken config.resourceId +
            (completed.map fun segment => (moveOf segment config.resourceId).steps).sum ∧
        stepsOn config.resourceId true (executor.poll nowNs).1 +
            executor.risesMade config.resourceId =
          (executor.poll nowNs).2.risesMade config.resourceId +
            (completed.map fun segment => (moveOf segment config.resourceId).steps.natAbs).sum ∧
        stepsOn config.resourceId false (executor.poll nowNs).1 +
            executor.fallsMade config.resourceId =
          (executor.poll nowNs).2.fallsMade config.resourceId +
            (completed.map fun segment => (moveOf segment config.resourceId).steps.natAbs).sum := by
  obtain ⟨completed, remaining, base', rfl, hdrained, hvalid⟩ := h.poll hnow
  have hnow' : (executor.poll nowNs).2.nowNs = nowNs := by
    rw [poll_of_le hnow]
    rfl
  refine ⟨completed, remaining, base', rfl, hdrained.ended, hvalid, hdrained.configs,
    fun config hconfig => ?_⟩
  have hconfig' : config ∈ configsOf base' := hdrained.configs ▸ hconfig
  have hposition := hdrained.position config hconfig
  have hbefore := h.position hconfig
  have hbehind := hvalid.position hconfig'
  obtain ⟨hrises, hfalls, -⟩ := h.made hconfig
  obtain ⟨hrises', hfalls', -⟩ := hvalid.made hconfig'
  rw [hnow'] at hrises' hfalls'
  have hcounts := stepsOn_flatMap_stepEdges (fun segment hmem => h.fits_base hmem) hconfig
    (UInt64.le_iff_toNat_le.1 hnow)
  have hedges : ∀ level, stepsOn config.resourceId level (executor.poll nowNs).1 =
      stepsOn config.resourceId level (between executor.nowNs.toNat nowNs.toNat
        ((completed ++ remaining).flatMap (stepEdges config))) := fun level => by
    rw [← stepsOn_stepsOf]
    exact (hdrained.steps config hconfig).countP_eq _
  -- The completed segments have made all of their steps.
  have hcompleted : ∀ segment ∈ completed,
      riseCount config segment (moveOf segment config.resourceId) nowNs.toNat =
          (moveOf segment config.resourceId).steps.natAbs ∧
        fallCount config segment (moveOf segment config.resourceId) nowNs.toNat =
          (moveOf segment config.resourceId).steps.natAbs := fun segment hmem =>
    stepCounts_eq_natAbs (fits_moveOf (h.fits_base (List.mem_append_left _ hmem)) h.configured
      hconfig) (hdrained.ended segment hmem)
  obtain ⟨hrise, hfall⟩ := hcounts
  rw [← hrises, ← hedges, List.map_append, List.sum_append, ← hrises',
    List.map_congr_left fun segment hmem => (hcompleted segment hmem).1] at hrise
  rw [← hfalls, ← hedges, List.map_append, List.sum_append, ← hfalls',
    List.map_congr_left fun segment hmem => (hcompleted segment hmem).2] at hfall
  exact ⟨by omega, by omega, by omega⟩

/-- Segments that have not begun have made nothing. -/
theorem Valid.made_eq_zero (h : Valid segments base executor) {config : MotionAxisConfig}
    (hconfig : config ∈ configsOf base)
    (hwait : ∀ segment ∈ segments, executor.nowNs.toNat ≤ segment.startNs) :
    executor.risesMade config.resourceId = 0 ∧ executor.fallsMade config.resourceId = 0 ∧
      executor.stepsTaken config.resourceId = 0 := by
  have hzero : ∀ segment ∈ segments,
      riseCount config segment (moveOf segment config.resourceId) executor.nowNs.toNat = 0 ∧
        fallCount config segment (moveOf segment config.resourceId) executor.nowNs.toNat = 0 := by
    intro segment hmem
    have hsetup := (h.configured.pos hconfig).2.2
    have hle := hwait segment hmem
    exact stepCounts_eq_zero (fits_moveOf (h.fits_base hmem) h.configured hconfig) (by omega)
  obtain ⟨hrises, hfalls, hsteps⟩ := h.made hconfig
  rw [hrises, hfalls, hsteps]
  refine ⟨List.sum_eq_zero fun count hcount => ?_, List.sum_eq_zero fun count hcount => ?_,
    List.sum_eq_zero fun steps hsteps => ?_⟩
  · obtain ⟨segment, hmem, rfl⟩ := List.mem_map.1 hcount
    exact (hzero segment hmem).1
  · obtain ⟨segment, hmem, rfl⟩ := List.mem_map.1 hcount
    exact (hzero segment hmem).2
  · obtain ⟨segment, hmem, rfl⟩ := List.mem_map.1 hsteps
    unfold RemoteBSP.MockMcu.stepsMade
    rw [(hzero segment hmem).1, Nat.cast_zero, mul_zero]

/-- What has ended by a time comes first. -/
theorem split_by_endNs {before behind completed remaining : List MotionSegment} {time : ℕ}
    (hsplit : before ++ behind = completed ++ remaining)
    (hbefore : ∀ segment ∈ before, segment.endNs ≤ time)
    (hbehind : ∀ segment ∈ behind, time < segment.endNs)
    (hcompleted : ∀ segment ∈ completed, segment.endNs ≤ time)
    (hremaining : ∀ segment ∈ remaining, time < segment.endNs) :
    before = completed ∧ behind = remaining := by
  have hfilter : ∀ {early late : List MotionSegment}, (∀ segment ∈ early, segment.endNs ≤ time) →
      (∀ segment ∈ late, time < segment.endNs) →
        (early ++ late).filter (·.endNs ≤ time) = early := by
    intro early late hearly hlate
    rw [List.filter_append, List.filter_eq_self.2 fun segment hmem =>
        decide_eq_true (hearly segment hmem),
      List.filter_eq_nil_iff.2 fun segment hmem hle =>
        not_le.2 (hlate segment hmem) (of_decide_eq_true hle),
      List.append_nil]
  have hfirst : before = completed := by
    rw [← hfilter hbefore hbehind, hsplit, hfilter hcompleted hremaining]
  subst hfirst
  exact ⟨rfl, List.append_cancel_left hsplit⟩

/-- From its start to its end a segment makes its steps. -/
theorem Valid.segment_account (h : Valid segments base executor) {segment : MotionSegment}
    (hmem : segment ∈ segments) (hnow : executor.nowNs ≤ segment.startTimeNs)
    {config : MotionAxisConfig} (hconfig : config ∈ configsOf base) :
    let started := (executor.poll segment.startTimeNs).2
    let ended := started.poll (segment.startTimeNs + segment.durationNs)
    positionOf ended.2.axes config.resourceId = positionOf started.axes config.resourceId +
        (moveOf segment config.resourceId).steps ∧
      stepsOn config.resourceId true ended.1 = (moveOf segment config.resourceId).steps.natAbs ∧
      stepsOn config.resourceId false ended.1 =
        (moveOf segment config.resourceId).steps.natAbs := by
  intro started ended
  obtain ⟨before, behind, rfl⟩ := List.append_of_mem hmem
  have hfits := h.fits_base hmem
  have hend := toNat_end hfits.end_lt
  obtain ⟨-, hordered, hbefore⟩ := List.pairwise_append.1 h.ordered
  have hbehind := (List.pairwise_cons.1 hordered).1
  -- At its start the segment is the first one, and it has made nothing.
  obtain ⟨completed, remaining, base', hsplit, hcompleted, hstarted, hconfigs, -⟩ := h.account hnow
  have hnow' : started.nowNs = segment.startTimeNs := by
    show (executor.poll segment.startTimeNs).2.nowNs = _
    rw [poll_of_le hnow]
    rfl
  have hlate : ∀ segment' ∈ segment :: behind, segment.startNs < segment'.endNs := by
    intro segment' hmem'
    have hstart := hfits.start_lt
    rcases List.mem_cons.1 hmem' with rfl | hmem'
    · exact hstart
    · exact hstart.trans_le ((hbehind segment' hmem').1.trans (Nat.le_add_right _ _))
  have hleft : ∀ segment' ∈ remaining, segment.startNs < segment'.endNs := by
    intro segment' hmem'
    have hlt := hstarted.since_lt segment' hmem'
    rw [hnow'] at hlt
    exact hlt
  obtain ⟨rfl, rfl⟩ := split_by_endNs hsplit
    (fun segment' hmem' => (hbefore segment' hmem' segment List.mem_cons_self).1) hlate hcompleted
    hleft
  have hconfig' : config ∈ configsOf base' := hconfigs ▸ hconfig
  have hnone := hstarted.made_eq_zero hconfig' fun segment' hmem' => by
    rw [hnow']
    rcases List.mem_cons.1 hmem' with rfl | hmem'
    · exact le_rfl
    · exact hfits.start_lt.le.trans (hbehind segment' hmem').1
  -- At its end it is the only one that has been completed.
  have hlong : started.nowNs ≤ segment.startTimeNs + segment.durationNs := by
    rw [hnow', UInt64.le_iff_toNat_le, hend]
    exact hfits.start_lt.le
  obtain ⟨completed, remaining, base'', hsplit', hcompleted', hended, hconfigs', haccount⟩ :=
    hstarted.account hlong
  have hnow'' : ended.2.nowNs = segment.startTimeNs + segment.durationNs := by
    show (started.poll _).2.nowNs = _
    rw [poll_of_le hlong]
    rfl
  rw [hend] at hcompleted'
  have hsingle : ∀ segment' ∈ [segment], segment'.endNs ≤ segment.endNs := by
    intro segment' hmem'
    rw [List.mem_singleton.1 hmem']
  have hleft' : ∀ segment' ∈ remaining, segment.endNs < segment'.endNs := by
    intro segment' hmem'
    have hlt := hended.since_lt segment' hmem'
    rwa [hnow'', hend] at hlt
  have hlate' : ∀ segment' ∈ behind, segment.endNs < segment'.endNs := by
    intro segment' hmem'
    have hfits' := h.fits_base (List.mem_append_right before (List.mem_cons_of_mem segment hmem'))
    exact (hbehind segment' hmem').1.trans_lt hfits'.start_lt
  obtain ⟨rfl, rfl⟩ := split_by_endNs hsplit' hsingle hlate' hcompleted' hleft'
  have hnone' := hended.made_eq_zero (hconfigs' ▸ hconfig') fun segment' hmem' => by
    rw [hnow'', hend]
    exact (hbehind segment' hmem').1
  obtain ⟨hposition, hrises, hfalls⟩ := haccount config hconfig'
  rw [hnone.1, hnone'.1, List.map_singleton, List.sum_singleton, Nat.add_zero, Nat.zero_add]
    at hrises
  rw [hnone.2.1, hnone'.2.1, List.map_singleton, List.sum_singleton, Nat.add_zero, Nat.zero_add]
    at hfalls
  rw [hnone.2.2, hnone'.2.2, List.map_singleton, List.sum_singleton, sub_zero, sub_zero]
    at hposition
  exact ⟨hposition, hrises, hfalls⟩

/-- The axes of a valid executor. -/
theorem Valid.exists_config (h : Valid segments base executor) {id : UInt32}
    (hid : id ∈ executor.axisIds) : ∃ config ∈ configsOf base, config.resourceId = id := by
  obtain ⟨axis, haxis, rfl⟩ := List.mem_map.1 hid
  rw [← h.configsOf_eq]
  exact ⟨axis.config, List.mem_map_of_mem haxis, rfl⟩

/-- Polling at some times and then at a last one has the effect of polling at the last one, and
returns the same edges. A segment that is completed moves each axis by its steps and makes as many
rises and falls, less those that it had made before. A segment that had not begun makes them from
its start to its end. -/
theorem polling_independent (h : Reachable executor) :
    (∀ (times : List UInt64) (last : UInt64), (times ++ [last]).Pairwise (· ≤ ·) →
      executor.pollAll (times ++ [last]) = executor.poll last) ∧
    (∀ nowNs, executor.nowNs ≤ nowNs → ∃ completed,
      executor.segments = completed ++ (executor.poll nowNs).2.segments ∧
      (∀ segment ∈ completed, segment.endNs ≤ nowNs.toNat) ∧
      (∀ segment ∈ (executor.poll nowNs).2.segments, nowNs.toNat < segment.endNs) ∧
      ∀ id ∈ executor.axisIds,
        positionOf (executor.poll nowNs).2.axes id - (executor.poll nowNs).2.stepsTaken id =
          positionOf executor.axes id - executor.stepsTaken id +
            (completed.map fun segment => (moveOf segment id).steps).sum ∧
        stepsOn id true (executor.poll nowNs).1 + executor.risesMade id =
          (executor.poll nowNs).2.risesMade id +
            (completed.map fun segment => (moveOf segment id).steps.natAbs).sum ∧
        stepsOn id false (executor.poll nowNs).1 + executor.fallsMade id =
          (executor.poll nowNs).2.fallsMade id +
            (completed.map fun segment => (moveOf segment id).steps.natAbs).sum) ∧
    ∀ segment ∈ executor.segments, executor.nowNs ≤ segment.startTimeNs →
      ∀ id ∈ executor.axisIds,
        let started := (executor.poll segment.startTimeNs).2
        let ended := started.poll (segment.startTimeNs + segment.durationNs)
        positionOf ended.2.axes id = positionOf started.axes id + (moveOf segment id).steps ∧
          stepsOn id true ended.1 = (moveOf segment id).steps.natAbs ∧
          stepsOn id false ended.1 = (moveOf segment id).steps.natAbs := by
  obtain ⟨segments, base, hvalid⟩ := reachable_valid h
  have hsegments := hvalid.segments_eq
  refine ⟨fun times last hsorted => ?_, fun nowNs hnow => ?_, fun segment hmem hnow id hid => ?_⟩
  · refine pollAll_concat hvalid fun t hmem => ?_
    exact (List.pairwise_append.1 hsorted).2.2 t hmem last List.mem_cons_self
  · obtain ⟨completed, remaining, base', rfl, hended, hpolled, -, haccount⟩ := hvalid.account hnow
    have hnow' : (executor.poll nowNs).2.nowNs = nowNs := by
      rw [poll_of_le hnow]
      rfl
    refine ⟨completed, ?_, hended, fun segment hmem => ?_, fun id hid => ?_⟩
    · rw [hsegments, hpolled.segments_eq]
    · rw [hpolled.segments_eq] at hmem
      have hlt := hpolled.since_lt segment hmem
      rwa [hnow'] at hlt
    · obtain ⟨config, hconfig, rfl⟩ := hvalid.exists_config hid
      exact haccount config hconfig
  · obtain ⟨config, hconfig, rfl⟩ := hvalid.exists_config hid
    exact hvalid.segment_account (hsegments ▸ hmem) hnow hconfig

/-- An executor with one axis that is to make two steps. -/
def twoSteps : MotionExecutor :=
  machine.run
    { sort := stableSort
      axes := [{ config := ⟨1, 500000, 1000, 1000, 2000⟩ }]
      queueCapacity := 4
      minimumLeadTimeNs := 1 }
    [.enqueue ⟨1, 0, 8000, true, [⟨1, 2⟩]⟩ 0]

/-- The executor of the example is reached by calls. -/
theorem reachable_twoSteps : Reachable twoSteps :=
  ⟨stableSort, [⟨1, 500000, 1000, 1000, 2000⟩], 4, 1, _,
    [.enqueue ⟨1, 0, 8000, true, [⟨1, 2⟩]⟩ 0], rfl,
    by decide, rfl⟩

/-- Two steps, polled in the middle. -/
theorem polling_independent_two_steps :
    twoSteps.pollAll ([3500] ++ [9001]) = twoSteps.poll 9001 :=
  (polling_independent reachable_twoSteps).1 [3500] 9001 (by decide)

end MotionExecutor

end RemoteBSP.MockMcu
