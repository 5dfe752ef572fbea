import RemoteBSP.Lib.Sort
import RemoteBSP.MockMcu.MotionExecutor

/-!
# The waveform of a segment

When the edges of a segment lie, as numbers, and what the executor has made of a segment by a time.
A move of a segment has a rise and a fall for each of its steps (`rises`, `falls`), with times that
`interpolate_offset` spreads over the segment without overflow (`riseTime_eq`), and the executor's
progress in a move is the number of the edges up to a time (`playedMove`). `moveEdges_played` says
that going on from one time to another makes the edges between the two.
-/

namespace RemoteBSP.MockMcu

open MotionExecutor

/-! ## The order of the edges -/

/-- The time of an edge as a number. -/
def MotionEdge.time (edge : MotionEdge) : ℕ := edge.globalTimeNs.toNat

/-- What `edge_less` compares: the time, the kind of the edge and the axis. -/
def MotionEdge.key (edge : MotionEdge) : ℕ ×ₗ ℕ ×ₗ ℕ :=
  toLex (edge.time, toLex (edgeOrder edge, edge.axisResourceId.toNat))

/-- The order of the edges is that of their keys. -/
theorem edgeLe_iff {a b : MotionEdge} : EdgeLe a b ↔ a.key ≤ b.key := by
  unfold EdgeLe edgeLess MotionEdge.key MotionEdge.time
  rw [Prod.Lex.toLex_le_toLex, Prod.Lex.toLex_le_toLex]
  dsimp only
  rw [UInt64.toNat_inj, ← UInt64.lt_iff_toNat_lt]
  by_cases htime : b.globalTimeNs = a.globalTimeNs
  · rw [if_neg (not_not.2 htime)]
    have hlt : ¬a.globalTimeNs < a.globalTimeNs := UInt64.lt_irrefl _
    by_cases horder : edgeOrder b = edgeOrder a
    · rw [if_neg (not_not.2 horder), decide_eq_false_iff_not, UInt32.not_lt,
        UInt32.le_iff_toNat_le]
      simp only [hlt, htime, horder, lt_irrefl, true_and, false_or]
    · rw [if_pos horder, decide_eq_false_iff_not, not_lt]
      simp only [hlt, htime, true_and, false_or, Ne.symm horder, false_and, or_false]
      omega
  · rw [if_pos htime, decide_eq_false_iff_not, UInt64.not_lt, UInt64.le_iff_toNat_le,
      UInt64.lt_iff_toNat_lt]
    have hne : a.globalTimeNs.toNat ≠ b.globalTimeNs.toNat :=
      fun h => htime (UInt64.toNat_inj.1 h).symm
    simp only [Ne.symm htime, false_and, or_false]
    omega

/-- Any two edges are in order. -/
instance : Std.Total EdgeLe := ⟨fun a b => by
  rw [edgeLe_iff, edgeLe_iff]
  exact le_total _ _⟩

/-- The order by which edges are sorted is transitive. -/
instance : IsTrans MotionEdge EdgeLe := ⟨fun a b c hab hbc => by
  rw [edgeLe_iff] at hab hbc ⊢
  exact hab.trans hbc⟩

/-- Edges of different times are in the order of their times. -/
theorem edgeLe_of_time_lt {a b : MotionEdge} (h : a.time < b.time) : EdgeLe a b :=
  edgeLe_iff.2 (Prod.Lex.toLex_le_toLex.2 (.inl h))

/-- Edges that take the same place agree in time, kind and axis. -/
theorem eq_of_edgeLe {a b : MotionEdge} (hab : EdgeLe a b) (hba : EdgeLe b a) :
    a.globalTimeNs = b.globalTimeNs ∧ edgeOrder a = edgeOrder b ∧
      a.axisResourceId = b.axisResourceId := by
  have hkey := le_antisymm (edgeLe_iff.1 hab) (edgeLe_iff.1 hba)
  obtain ⟨htime, hrest⟩ := Prod.mk.inj (toLex.injective hkey)
  obtain ⟨horder, haxis⟩ := Prod.mk.inj (toLex.injective hrest)
  exact ⟨UInt64.toNat_inj.1 htime, horder, UInt32.toNat_inj.1 haxis⟩

/-- The kind of an edge is the output, with the level if it is the step output. -/
theorem of_edgeOrder_eq {a b : MotionEdge} (h : edgeOrder a = edgeOrder b) :
    a.signal = b.signal ∧ (a.signal = .step → a.level = b.level) := by
  obtain ⟨_, _, _, signal, level⟩ := a
  obtain ⟨_, _, _, signal', level'⟩ := b
  unfold edgeOrder at h
  cases signal <;> cases signal' <;> cases level <;> cases level' <;> simp at h ⊢

/-- Two groups of edges without ties have none together if the first ones are earlier. -/
theorem noTies_append {l m : List MotionEdge} (h : ∀ a ∈ l, ∀ b ∈ m, a.time < b.time)
    (hl : NoTies EdgeLe l) (hm : NoTies EdgeLe m) : NoTies EdgeLe (l ++ m) := by
  refine hl.append hm fun a ha b hb hba _ => ?_
  have htime := Prod.Lex.monotone_fst _ _ (edgeLe_iff.1 hba)
  exact absurd (h a ha b hb) (not_lt.2 htime)

/-- A sort by `edge_less` that keeps equal edges in their order. -/
def stableSort : Sorter EdgeLe := .insertion EdgeLe

/-- The edges in order. Every sort makes this of edges without ties (`run_eq_inOrder`). -/
def inOrder (edges : List MotionEdge) : List MotionEdge := stableSort.run edges

/-- Without ties it does not matter which sort it is. -/
theorem run_eq_inOrder (sort : Sorter EdgeLe) {edges : List MotionEdge}
    (h : NoTies EdgeLe edges) : sort.run edges = inOrder edges := Sorter.run_eq_of_perm (.refl _) h

/-- To put edges in order neither loses nor adds one. -/
theorem perm_inOrder (edges : List MotionEdge) : (inOrder edges).Perm edges := Sorter.perm _ _

/-- The edges in order are the same edges. -/
@[simp]
theorem mem_inOrder {l : List MotionEdge} {a : MotionEdge} : a ∈ inOrder l ↔ a ∈ l :=
  Sorter.mem_run

/-- Two groups of edges are put in order one after the other if the first ones are earlier. -/
theorem inOrder_append {l m : List MotionEdge} (h : ∀ a ∈ l, ∀ b ∈ m, a.time < b.time)
    (hl : NoTies EdgeLe l) (hm : NoTies EdgeLe m) : inOrder (l ++ m) = inOrder l ++ inOrder m :=
  Sorter.run_append (fun a ha b hb => edgeLe_of_time_lt (h a ha b hb)) (noTies_append h hl hm)

/-! ## Edges on an axis -/

/-- One edge, if it is on the axis. -/
def playEdge (axis : AxisRuntime) (edge : MotionEdge) : AxisRuntime :=
  if axis.config.resourceId = edge.axisResourceId then MotionExecutor.applyEdge edge axis else axis

/-- Edges, in order, those on the axis. -/
def playEdges (edges : List MotionEdge) (axis : AxisRuntime) : AxisRuntime :=
  edges.foldl playEdge axis

/-- The number of the rising edges. -/
def countRises (edges : List MotionEdge) : ℕ :=
  edges.countP fun edge => edge.signal = .step ∧ edge.level = true

/-- One group of edges after another. -/
theorem playEdges_append (l m : List MotionEdge) (axis : AxisRuntime) :
    playEdges (l ++ m) axis = playEdges m (playEdges l axis) := List.foldl_append

/-- The edges do not change which axis it is. -/
@[simp]
theorem config_playEdges (edges : List MotionEdge) (axis : AxisRuntime) :
    (playEdges edges axis).config = axis.config := by
  unfold playEdges
  induction edges generalizing axis with
  | nil => rfl
  | cons edge edges ih =>
    rw [List.foldl_cons, ih]
    unfold playEdge
    split
    · exact MotionExecutor.config_applyEdge edge axis
    · rfl

/-- The level on which an output of an axis stands. -/
def AxisRuntime.level (axis : AxisRuntime) : MotionSignal → Bool
  | .enable => axis.enabled
  | .direction => axis.directionPositive
  | .step => axis.stepLevel

/-- An edge on an axis, or on another one. -/
theorem level_playEdge (axis : AxisRuntime) (edge : MotionEdge) (signal : MotionSignal) :
    (playEdge axis edge).level signal =
      if edge.axisResourceId = axis.config.resourceId ∧ edge.signal = signal then edge.level
      else axis.level signal := by
  obtain ⟨_, _, id, edgeSignal, level⟩ := edge
  unfold playEdge applyEdge AxisRuntime.level
  by_cases hid : axis.config.resourceId = id
  · cases edgeSignal <;> cases signal <;> cases level <;> simp [hid]
  · simp [hid, Ne.symm hid]

/-- An edge does not change which axis it is. -/
theorem config_playEdge (axis : AxisRuntime) (edge : MotionEdge) :
    (playEdge axis edge).config = axis.config := config_playEdges [edge] axis

/-- Edges that agree on the level of an output leave it at that level. -/
theorem level_playEdges {axis : AxisRuntime} {edges : List MotionEdge} {signal : MotionSignal}
    {level : Bool}
    (hall : ∀ edge ∈ edges, edge.axisResourceId = axis.config.resourceId → edge.signal = signal →
      edge.level = level)
    (hsome : axis.level signal = level ∨ ∃ edge ∈ edges,
      edge.axisResourceId = axis.config.resourceId ∧ edge.signal = signal) :
    (playEdges edges axis).level signal = level := by
  induction edges generalizing axis with
  | nil => exact hsome.resolve_right fun ⟨_, hmem, _⟩ => List.not_mem_nil hmem
  | cons edge edges ih =>
    have hconfig := config_playEdge axis edge
    show (playEdges edges (playEdge axis edge)).level signal = level
    refine ih (fun edge' hmem => ?_) ?_
    · rw [hconfig]
      exact hall edge' (List.mem_cons_of_mem _ hmem)
    · rw [level_playEdge, hconfig]
      by_cases hon : edge.axisResourceId = axis.config.resourceId ∧ edge.signal = signal
      · rw [if_pos hon]
        exact .inl (hall edge List.mem_cons_self hon.1 hon.2)
      · rw [if_neg hon]
        refine hsome.imp_right fun ⟨edge', hmem, hon'⟩ => ⟨edge', ?_, hon'⟩
        refine (List.mem_cons.1 hmem).resolve_left fun heq => ?_
        exact hon (heq ▸ hon')

/-- The number of the edges of the step output of an axis to a level. -/
def stepsOn (id : UInt32) (level : Bool) (edges : List MotionEdge) : ℕ :=
  edges.countP fun edge => edge.axisResourceId = id ∧ edge.signal = .step ∧ edge.level = level

/-- A rise moves the axis in its direction. -/
theorem positionSteps_playEdges {axis : AxisRuntime} {edges : List MotionEdge}
    (h : ∀ edge ∈ edges, edge.axisResourceId = axis.config.resourceId →
      edge.signal ≠ .direction) :
    (playEdges edges axis).positionSteps = axis.positionSteps +
      (if axis.directionPositive then 1 else -1) * stepsOn axis.config.resourceId true edges := by
  induction edges generalizing axis with
  | nil => exact (by simp [playEdges, stepsOn])
  | cons edge edges ih =>
    have hconfig := config_playEdge axis edge
    have hdirection : (playEdge axis edge).directionPositive = axis.directionPositive := by
      have hlevel := level_playEdge axis edge .direction
      rw [if_neg fun hon => h edge List.mem_cons_self hon.1 hon.2] at hlevel
      exact hlevel
    have hrest : (playEdges edges (playEdge axis edge)).positionSteps = _ :=
      ih fun edge' hmem => by
        rw [hconfig]
        exact h edge' (List.mem_cons_of_mem _ hmem)
    have hfirst : (playEdge axis edge).positionSteps = axis.positionSteps +
        (if axis.directionPositive then 1 else -1) *
          stepsOn axis.config.resourceId true [edge] := by
      obtain ⟨_, _, id, signal, level⟩ := edge
      unfold playEdge applyEdge stepsOn
      by_cases hid : axis.config.resourceId = id
      · cases signal <;> cases level <;> simp [hid]
      · simp [hid, Ne.symm hid]
    have hcount : stepsOn axis.config.resourceId true (edge :: edges) =
        stepsOn axis.config.resourceId true [edge] + stepsOn axis.config.resourceId true edges := by
      unfold stepsOn
      rw [← List.countP_append, List.singleton_append]
    calc (playEdges (edge :: edges) axis).positionSteps
        = (playEdges edges (playEdge axis edge)).positionSteps := rfl
      _ = _ := by
        rw [hrest, hfirst, hdirection, hconfig, hcount]
        push_cast
        ring

/-- Without steps an axis stays where it is. -/
theorem positionSteps_playEdges_eq {axis : AxisRuntime} {edges : List MotionEdge}
    (h : ∀ edge ∈ edges, edge.axisResourceId = axis.config.resourceId → edge.signal ≠ .step) :
    (playEdges edges axis).positionSteps = axis.positionSteps := by
  induction edges generalizing axis with
  | nil => rfl
  | cons edge edges ih =>
    have hrest : (playEdges edges (playEdge axis edge)).positionSteps = _ :=
      ih fun edge' hmem => by
        rw [config_playEdge]
        exact h edge' (List.mem_cons_of_mem _ hmem)
    have hfirst : (playEdge axis edge).positionSteps = axis.positionSteps := by
      have hstep := h edge List.mem_cons_self
      obtain ⟨_, _, id, signal, level⟩ := edge
      unfold playEdge applyEdge
      by_cases hid : axis.config.resourceId = id
      · cases signal <;> simp_all
      · simp [hid]
    exact hrest.trans hfirst

/-- `apply_edges` plays the edges on each axis, and counts the rises. -/
theorem applyEdges_eq_play (executor : MotionExecutor) (edges : List MotionEdge) :
    executor.applyEdges edges = { executor with
      axes := executor.axes.map (playEdges edges)
      metrics := { executor.metrics with
        emittedSteps := executor.metrics.emittedSteps + UInt64.ofNat (countRises edges) } } := by
  unfold MotionExecutor.applyEdges
  induction edges generalizing executor with
  | nil =>
    rw [List.foldl_nil, show playEdges [] = id from rfl, List.map_id]
    show executor = { executor with
      metrics := { executor.metrics with emittedSteps := executor.metrics.emittedSteps + 0 } }
    rw [UInt64.add_zero]
  | cons edge edges ih =>
    rw [List.foldl_cons, ih]
    dsimp only
    rw [List.map_map]
    have haxes : (playEdges edges ∘ fun axis => if axis.config.resourceId = edge.axisResourceId then
        MotionExecutor.applyEdge edge axis else axis) = playEdges (edge :: edges) := rfl
    rw [haxes]
    unfold countRises
    rw [List.countP_cons]
    split
    · next hrise =>
      rw [if_pos (decide_eq_true hrise), Nat.add_comm, UInt64.ofNat_add]
      dsimp only
      rw [UInt64.add_assoc]
      rfl
    · next hother =>
      rw [if_neg (by rwa [decide_eq_true_eq]), Nat.add_zero]

/-! ## The times of the edges of a move -/

/-- The time at which a segment starts, as a number. -/
def MotionSegment.startNs (segment : MotionSegment) : ℕ := segment.startTimeNs.toNat

/-- The time at which a segment ends, as a number that does not wrap around. -/
def MotionSegment.endNs (segment : MotionSegment) : ℕ :=
  segment.startNs + segment.durationNs.toNat

/-- The time in a segment over which the rises are spread. -/
def spanNs (config : MotionAxisConfig) (segment : MotionSegment) : ℕ :=
  segment.durationNs.toNat - config.directionSetupNs.toNat - config.stepPulseWidthNs.toNat

/-- When a step of a move rises. -/
def riseNs (config : MotionAxisConfig) (segment : MotionSegment) (count index : ℕ) : ℕ :=
  segment.startNs + config.directionSetupNs.toNat + spanNs config segment * index / (count - 1)

/-- When a step of a move falls. -/
def fallNs (config : MotionAxisConfig) (segment : MotionSegment) (count index : ℕ) : ℕ :=
  riseNs config segment count index + config.stepPulseWidthNs.toNat

/-- An edge of the step output. -/
def stepEdge (id : UInt32) (level : Bool) (time : ℕ) : MotionEdge :=
  ⟨UInt64.ofNat time, UInt64.ofNat time, id, .step, level⟩

/-- The rising edges of STEP that a move calls for, in order. -/
def rises (config : MotionAxisConfig) (segment : MotionSegment) (move : MotionAxisMove) :
    List MotionEdge :=
  (List.range move.steps.natAbs).map fun index =>
    stepEdge move.resourceId true (riseNs config segment move.steps.natAbs index)

/-- The falling edges of STEP that a move calls for, in order. -/
def falls (config : MotionAxisConfig) (segment : MotionSegment) (move : MotionAxisMove) :
    List MotionEdge :=
  (List.range move.steps.natAbs).map fun index =>
    stepEdge move.resourceId false (fallNs config segment move.steps.natAbs index)

/-- What `enqueue` has checked of a move, and the range of its steps, which are an `int32_t`. -/
structure Fits (config : MotionAxisConfig) (segment : MotionSegment) (steps : ℤ) : Prop where
  /-- A move has no more steps than its signed counter can hold. -/
  steps_le : steps.natAbs ≤ 2^31
  /-- There is time for the direction and a pulse. -/
  room : config.directionSetupNs.toNat + config.stepPulseWidthNs.toNat ≤ segment.durationNs.toNat
  /-- The end of the segment fits into 64 bits. -/
  end_lt : segment.endNs < 2^64

variable {config : MotionAxisConfig} {segment : MotionSegment} {move : MotionAxisMove}

/-- The product in `interpolate_offset` fits into 64 bits. -/
theorem toNat_interpolateOffset {span index denominator : UInt64}
    (hindex : index.toNat ≤ denominator.toNat) (hsmall : denominator.toNat ≤ 2^31) :
    (interpolateOffset span index denominator).toNat =
      span.toNat * index.toNat / denominator.toNat := by
  unfold interpolateOffset
  by_cases hzero : denominator = 0
  · rw [if_pos hzero, hzero]
    exact (Nat.div_zero _).symm
  · rw [if_neg hzero]
    have hpos : 0 < denominator.toNat := by
      rw [Nat.pos_iff_ne_zero]
      exact fun h => hzero (UInt64.toNat_inj.1 h)
    generalize hs : span.toNat = s at *
    generalize hi : index.toNat = i at *
    generalize hd : denominator.toNat = d at *
    have hspan : s < 2^64 := hs ▸ span.toNat_lt
    have hwhole : s / d * i ≤ s := (Nat.mul_le_mul_left _ hindex).trans (Nat.div_mul_le_self s d)
    have hpart : s % d * i < 2^64 := by
      have hmod : s % d < 2^31 := (Nat.mod_lt s hpos).trans_le hsmall
      calc s % d * i ≤ 2^31 * 2^31 := Nat.mul_le_mul hmod.le (hindex.trans hsmall)
        _ < 2^64 := by norm_num
    -- The quotient in two parts.
    have hsplit : s * i / d = s / d * i + s % d * i / d := by
      calc s * i / d = ((s / d * i) * d + s % d * i) / d := by
            congr 1
            nth_rewrite 1 [← Nat.div_add_mod s d]
            ring
        _ = s / d * i + s % d * i / d := by
            rw [Nat.add_comm, Nat.add_mul_div_right _ _ hpos, Nat.add_comm]
    have htotal : s * i / d ≤ s := by
      calc s * i / d ≤ s * d / d := Nat.div_le_div_right (Nat.mul_le_mul_left s hindex)
        _ = s := Nat.mul_div_cancel s hpos
    rw [UInt64.toNat_add, UInt64.toNat_mul, UInt64.toNat_div, UInt64.toNat_div, UInt64.toNat_mul,
      UInt64.toNat_mod, hs, hi, hd, Nat.mod_eq_of_lt (hwhole.trans_lt hspan),
      Nat.mod_eq_of_lt hpart, hsplit, Nat.mod_eq_of_lt]
    omega

/-- The rises lie behind the time for the direction, and before the time for the last pulse. -/
theorem riseNs_bounds (h : Fits config segment move.steps) {count index : ℕ}
    (hindex : index < count) :
    segment.startNs + config.directionSetupNs.toNat ≤ riseNs config segment count index ∧
      fallNs config segment count index ≤ segment.endNs := by
  have hspread : spanNs config segment * index / (count - 1) ≤ spanNs config segment := by
    rcases Nat.eq_zero_or_pos (count - 1) with hzero | hpos
    · rw [hzero, Nat.div_zero]
      exact Nat.zero_le _
    · calc spanNs config segment * index / (count - 1)
          ≤ spanNs config segment * (count - 1) / (count - 1) :=
            Nat.div_le_div_right (Nat.mul_le_mul_left _ (by omega))
        _ = spanNs config segment := Nat.mul_div_cancel _ hpos
  have hroom := h.room
  unfold fallNs riseNs MotionSegment.endNs
  generalize spanNs config segment * index / (count - 1) = offset at *
  unfold spanNs at hspread
  omega

/-- The rises of a move are in order. -/
theorem riseNs_mono (config : MotionAxisConfig) (segment : MotionSegment) (count : ℕ) :
    Monotone (riseNs config segment count) := by
  intro i j hij
  unfold riseNs
  have hle : spanNs config segment * i / (count - 1) ≤ spanNs config segment * j / (count - 1) :=
    Nat.div_le_div_right (Nat.mul_le_mul_left _ hij)
  exact Nat.add_le_add_left hle _

/-- An edge of the step output has its time. -/
theorem time_stepEdge {id : UInt32} {level : Bool} {time : ℕ} (h : time < 2^64) :
    (stepEdge id level time).time = time := UInt64.toNat_ofNat_of_lt h

/-- A step of a move rises within the segment. -/
theorem time_rise (h : Fits config segment move.steps) {index : ℕ}
    (hindex : index < move.steps.natAbs) :
    (stepEdge move.resourceId true (riseNs config segment move.steps.natAbs index)).time =
      riseNs config segment move.steps.natAbs index := by
  obtain ⟨-, hend⟩ := riseNs_bounds h hindex
  have hlt := h.end_lt
  unfold fallNs at hend
  exact time_stepEdge (by omega)

/-- A step of a move falls within the segment. -/
theorem time_fall (h : Fits config segment move.steps) {index : ℕ}
    (hindex : index < move.steps.natAbs) :
    (stepEdge move.resourceId false (fallNs config segment move.steps.natAbs index)).time =
      fallNs config segment move.steps.natAbs index :=
  time_stepEdge ((riseNs_bounds h hindex).2.trans_lt h.end_lt)

/-- A list of edges whose times do not decrease is in order. -/
theorem pairwise_map_range {count : ℕ} {edge : ℕ → MotionEdge} {time : ℕ → ℕ}
    (hmono : Monotone time) (htime : ∀ index < count, (edge index).time = time index) :
    ((List.range count).map edge).Pairwise fun a b => a.time ≤ b.time := by
  rw [List.pairwise_map]
  refine List.pairwise_lt_range.imp_of_mem fun {i j} hi hj hij => ?_
  rw [htime i (List.mem_range.1 hi), htime j (List.mem_range.1 hj)]
  exact hmono hij.le

/-! ## The times as the code computes them -/

/-- The number of steps is kept in a word. -/
theorem toNat_absoluteSteps (h : Fits config segment move.steps) :
    (absoluteSteps move.steps).toNat = move.steps.natAbs := by
  have hle := h.steps_le
  exact UInt64.toNat_ofNat_of_lt (show _ < 2^64 by omega)

/-- The end of a segment, as a word. -/
theorem toNat_end (h : segment.endNs < 2^64) :
    (segment.startTimeNs + segment.durationNs).toNat = segment.endNs := by
  rw [UInt64.toNat_add]
  exact Nat.mod_eq_of_lt h

/-- The first rise and the time from it to the last one, as words. -/
theorem toNat_span (h : Fits config segment move.steps) :
    (segment.startTimeNs + config.directionSetupNs.toUInt64).toNat =
        segment.startNs + config.directionSetupNs.toNat ∧
      (segment.startTimeNs + segment.durationNs - config.stepPulseWidthNs.toUInt64 -
        (segment.startTimeNs + config.directionSetupNs.toUInt64)).toNat =
          spanNs config segment := by
  have hend := toNat_end h.end_lt
  have hroom := h.room
  have hlt := h.end_lt
  have hends : segment.endNs = segment.startNs + segment.durationNs.toNat := rfl
  have hwidth : config.stepPulseWidthNs.toUInt64.toNat = config.stepPulseWidthNs.toNat := rfl
  have hfirst : (segment.startTimeNs + config.directionSetupNs.toUInt64).toNat =
      segment.startNs + config.directionSetupNs.toNat := by
    rw [UInt64.toNat_add]
    exact Nat.mod_eq_of_lt (show segment.startNs + config.directionSetupNs.toNat < 2^64 by omega)
  have hlast : (segment.startTimeNs + segment.durationNs -
      config.stepPulseWidthNs.toUInt64).toNat =
        segment.endNs - config.stepPulseWidthNs.toNat := by
    rw [UInt64.toNat_sub_of_le _ _ (by rw [UInt64.le_iff_toNat_le, hend, hwidth]; omega), hend,
      hwidth]
  refine ⟨hfirst, ?_⟩
  rw [UInt64.toNat_sub_of_le _ _ (by rw [UInt64.le_iff_toNat_le, hlast, hfirst]; omega), hlast,
    hfirst]
  unfold spanNs
  omega

/-- The time at which the code lets a step rise. -/
def riseTime (config : MotionAxisConfig) (segment : MotionSegment) (stepCount index : UInt64) :
    UInt64 :=
  segment.startTimeNs + config.directionSetupNs.toUInt64 +
    (if stepCount = 1 then 0
    else interpolateOffset (segment.startTimeNs + segment.durationNs -
      config.stepPulseWidthNs.toUInt64 -
        (segment.startTimeNs + config.directionSetupNs.toUInt64)) index (stepCount - 1))

/-- The code lets a step rise at its time. -/
theorem riseTime_eq (h : Fits config segment move.steps) {index : UInt64}
    (hindex : index.toNat < move.steps.natAbs) :
    riseTime config segment (absoluteSteps move.steps) index =
      UInt64.ofNat (riseNs config segment move.steps.natAbs index.toNat) := by
  obtain ⟨hfirst, hspan⟩ := toNat_span h
  have hcount := toNat_absoluteSteps h
  have hone : (1 : UInt64).toNat = 1 := rfl
  have hle := h.steps_le
  have hdenominator : (absoluteSteps move.steps - 1).toNat = move.steps.natAbs - 1 := by
    rw [UInt64.toNat_sub_of_le _ _ (by rw [UInt64.le_iff_toNat_le, hcount, hone]; omega), hcount,
      hone]
  have hoffset : (if absoluteSteps move.steps = 1 then 0
      else interpolateOffset (segment.startTimeNs + segment.durationNs -
        config.stepPulseWidthNs.toUInt64 -
          (segment.startTimeNs + config.directionSetupNs.toUInt64)) index
        (absoluteSteps move.steps - 1)).toNat =
      spanNs config segment * index.toNat / (move.steps.natAbs - 1) := by
    split
    · next hsingle =>
      have hnat : move.steps.natAbs = 1 := by rw [← hcount, hsingle, hone]
      have hzero : index.toNat = 0 := by omega
      rw [hzero, Nat.mul_zero, Nat.zero_div]
      rfl
    · rw [toNat_interpolateOffset (by rw [hdenominator]; omega) (by rw [hdenominator]; omega),
        hspan, hdenominator]
  have hrise : riseNs config segment move.steps.natAbs index.toNat < 2^64 := by
    obtain ⟨-, hhigh⟩ := riseNs_bounds h hindex
    have hlt := h.end_lt
    unfold fallNs at hhigh
    omega
  unfold riseTime
  rw [← UInt64.toNat_inj, UInt64.toNat_add, hfirst, hoffset, UInt64.toNat_ofNat_of_lt' hrise]
  exact Nat.mod_eq_of_lt hrise

/-- The edges of some that lie between two times. -/
def between (since until' : ℕ) (edges : List MotionEdge) : List MotionEdge :=
  edges.filter fun edge => since < edge.time ∧ edge.time ≤ until'

/-- A loop that goes on with the steps of a move makes their edges between two times, and counts
them. -/
theorem due_played (id : UInt32) (level : Bool) {stepCount : UInt64} {count : ℕ}
    {time : UInt64 → UInt64} {timeNs : ℕ → ℕ} {since : ℕ} {untilNs : UInt64}
    (hcount : stepCount.toNat = count) (hmono : Monotone timeNs)
    (hlt : ∀ index < count, timeNs index < 2^64)
    (htime : ∀ index : UInt64, index.toNat < count →
      time index = UInt64.ofNat (timeNs index.toNat)) (hsince : since ≤ untilNs.toNat)
    {edges : List MotionEdge}
    (hedges : edges = (List.range count).map fun index => stepEdge id level (timeNs index))
    {emitted : UInt64} (hemitted : emitted = UInt64.ofNat (edges.countP (·.time ≤ since)))
    {due : List UInt64} (hdue : due = ((List.range (stepCount - emitted).toNat).map
      fun k => time (emitted + UInt64.ofNat k)).takeWhile (· ≤ untilNs)) :
    due.map (fun time => (⟨time, time, id, .step, level⟩ : MotionEdge)) =
        between since untilNs.toNat edges ∧
      emitted + UInt64.ofNat due.length =
        UInt64.ofNat (edges.countP (·.time ≤ untilNs.toNat)) := by
  have hcount64 := stepCount.toNat_lt
  have hlength : edges.length = count := by rw [hedges, List.length_map, List.length_range]
  have hcountP : edges.countP (·.time ≤ since) ≤ edges.length := List.countP_le_length
  have hword : emitted.toNat = edges.countP (·.time ≤ since) := by
    rw [hemitted]
    exact UInt64.toNat_ofNat_of_lt' (show _ < 2^64 by omega)
  have hleft : (stepCount - emitted).toNat = count - edges.countP (·.time ≤ since) := by
    rw [UInt64.toNat_sub_of_le _ _ (by rw [UInt64.le_iff_toNat_le]; omega), hcount, hword]
  -- The steps that are left.
  have hdrop : (List.range count).drop (edges.countP (·.time ≤ since)) =
      (List.range (count - edges.countP (·.time ≤ since))).map
        fun k => edges.countP (·.time ≤ since) + k := by
    rw [List.range_eq_range', List.drop_range', List.range'_eq_map_range, Nat.zero_add]
    simp only [Nat.mul_one]
  have htimes : (List.range (stepCount - emitted).toNat).map
        (fun k => time (emitted + UInt64.ofNat k)) =
      (edges.drop (edges.countP (·.time ≤ since))).map MotionEdge.globalTimeNs := by
    conv_rhs => rw [hedges]
    rw [hleft, ← List.map_drop, ← hedges, hdrop, List.map_map, List.map_map]
    refine List.map_congr_left fun k hk => ?_
    have hk := List.mem_range.1 hk
    have hindex : (emitted + UInt64.ofNat k).toNat = edges.countP (·.time ≤ since) + k := by
      rw [UInt64.toNat_add, hword, UInt64.toNat_ofNat_of_lt' (show _ < 2^64 by omega)]
      exact Nat.mod_eq_of_lt (by omega)
    rw [htime _ (by omega), hindex]
    rfl
  have hsorted : edges.Pairwise fun a b => a.time ≤ b.time := by
    rw [hedges]
    exact pairwise_map_range hmono fun index hindex => time_stepEdge (hlt index hindex)
  have hbetween : due.map (fun time => (⟨time, time, id, .step, level⟩ : MotionEdge)) =
      between since untilNs.toNat edges := by
    unfold between
    rw [← List.takeWhile_drop_countP hsorted, hdue, htimes, List.takeWhile_map, List.map_map]
    -- The edges are given by their times, and words are compared as numbers.
    refine (List.map_congr_left fun edge hedge => ?_).trans (List.map_id _)
    have hmem := List.mem_of_mem_drop ((List.takeWhile_sublist _).subset hedge)
    rw [hedges] at hmem
    obtain ⟨index, -, rfl⟩ := List.mem_map.1 hmem
    rfl
  refine ⟨hbetween, ?_⟩
  have htotal := List.countP_add_length_filter (f := MotionEdge.time) hsince edges
  have hdueLength : due.length = (between since untilNs.toNat edges).length := by
    rw [← hbetween, List.length_map]
  rw [hemitted, hdueLength, ← UInt64.ofNat_add]
  exact congrArg UInt64.ofNat htotal

/-! ## The progress in a move -/

/-- The progress in a move by a time. -/
def playedMove (config : MotionAxisConfig) (segment : MotionSegment) (move : MotionAxisMove)
    (time : ℕ) : MoveRuntime where
  move := move
  stepCount := absoluteSteps move.steps
  risesEmitted := UInt64.ofNat ((rises config segment move).countP (·.time ≤ time))
  fallsEmitted := UInt64.ofNat ((falls config segment move).countP (·.time ≤ time))
  controlsEmitted := move.steps ≠ 0 ∧ segment.startNs ≤ time

/-- The edges with which a move begins: the driver is enabled and the direction set. -/
def controlEdges (axis : AxisRuntime) (segment : MotionSegment) (move : MotionAxisMove) :
    List MotionEdge :=
  (if axis.enabled then []
    else [⟨segment.startTimeNs, segment.startTimeNs, move.resourceId, .enable, true⟩]) ++
  (if axis.directionPositive = decide (0 ≤ move.steps) then []
    else [⟨segment.startTimeNs, segment.startTimeNs, move.resourceId, .direction,
      decide (0 ≤ move.steps)⟩])

/-- The edges of a move between two times. -/
def playMove (axis : AxisRuntime) (segment : MotionSegment) (move : MotionAxisMove)
    (since until' : ℕ) : List MotionEdge :=
  (if move.steps ≠ 0 ∧ since < segment.startNs ∧ segment.startNs ≤ until' then
    controlEdges axis segment move else []) ++
  between since until' (rises axis.config segment move) ++
  between since until' (falls axis.config segment move)

/-- The progress in a move that has none. -/
theorem playedMove_of_steps_eq_zero (hzero : move.steps = 0) (time : ℕ) :
    playedMove config segment move time = { move := move, stepCount := 0 } := by
  have hrises : rises config segment move = [] := by
    unfold rises
    rw [hzero]
    rfl
  have hfalls : falls config segment move = [] := by
    unfold falls
    rw [hzero]
    rfl
  unfold playedMove
  rw [hrises, hfalls, hzero]
  simp only [ne_eq, not_true_eq_false, false_and, decide_false]
  rfl

/-- A move of no steps makes no edges. -/
theorem playMove_of_steps_eq_zero {axis : AxisRuntime} (hzero : move.steps = 0)
    (since until' : ℕ) : playMove axis segment move since until' = [] := by
  unfold playMove rises falls
  rw [if_neg fun h => h.1 hzero, hzero]
  rfl

/-- The edges of a move that are left, and the progress behind them. -/
theorem moveEdges_played {axis : AxisRuntime}
    (h : move.steps ≠ 0 → Fits axis.config segment move.steps) {since : ℕ}
    {untilNs : UInt64} (hsince : since ≤ untilNs.toNat) :
    moveEdges axis segment.startTimeNs (segment.startTimeNs + segment.durationNs) untilNs
        (playedMove axis.config segment move since) =
      (playMove axis segment move since untilNs.toNat,
        playedMove axis.config segment move untilNs.toNat) := by
  -- A move without steps makes no edges.
  by_cases hzero : move.steps = 0
  · rw [playedMove_of_steps_eq_zero hzero, playedMove_of_steps_eq_zero hzero,
      playMove_of_steps_eq_zero hzero]
    rfl
  · have hfits := h hzero
    have hcount := toNat_absoluteSteps hfits
    have hne : absoluteSteps move.steps ≠ 0 := by
      intro h
      rw [h] at hcount
      exact hzero (Int.natAbs_eq_zero.1 hcount.symm)
    -- The times of the rises and falls are those of the code, which do not wrap around.
    have hfallTime : ∀ index : UInt64, index.toNat < move.steps.natAbs →
        riseTime axis.config segment (absoluteSteps move.steps) index +
          axis.config.stepPulseWidthNs.toUInt64 =
            UInt64.ofNat (fallNs axis.config segment move.steps.natAbs index.toNat) := by
      intro index hindex
      rw [riseTime_eq hfits hindex]
      unfold fallNs
      rw [UInt64.ofNat_add, ← UInt32.toNat_toUInt64, UInt64.ofNat_toNat]
    have hend := hfits.end_lt
    -- The rises that are due, and then the falls.
    obtain ⟨hrises, hriseCount⟩ := due_played move.resourceId true hcount
      (riseNs_mono axis.config segment move.steps.natAbs)
      (fun index hindex => by
        have hbound := (riseNs_bounds hfits hindex).2
        unfold fallNs at hbound
        omega)
      (fun index hindex => riseTime_eq hfits hindex) hsince rfl rfl rfl
    obtain ⟨hfalls, hfallCount⟩ := due_played move.resourceId false hcount
      (fun _ _ hij => Nat.add_le_add_right (riseNs_mono axis.config segment _ hij) _)
      (fun index hindex => (riseNs_bounds hfits hindex).2.trans_lt hend)
      hfallTime hsince rfl rfl rfl
    have hstart : segment.startTimeNs ≤ untilNs ↔ segment.startNs ≤ untilNs.toNat :=
      UInt64.le_iff_toNat_le
    -- Together with the edges of the control outputs, these are the edges of the move.
    unfold moveEdges playedMove
    rw [if_neg hne]
    refine Prod.ext ?_ ?_
    · unfold playMove
      refine congrArg₂ (· ++ ·) (congrArg₂ (· ++ ·) ?_ hrises) hfalls
      unfold controlEdges
      dsimp only
      refine if_congr ?_ rfl rfl
      rw [Bool.and_eq_true, Bool.not_eq_true', decide_eq_false_iff_not, decide_eq_true_iff,
        hstart, not_and_or, not_not, not_le, or_iff_right hzero]
      exact ⟨fun h => ⟨hzero, h⟩, fun h => h.2⟩
    -- The counters and the mark of the control outputs stand behind them.
    · refine MoveRuntime.mk.injEq .. |>.mpr ⟨rfl, rfl, hriseCount, hfallCount, ?_⟩
      rw [Bool.eq_iff_iff, Bool.or_eq_true, Bool.and_eq_true, Bool.not_eq_true',
        decide_eq_false_iff_not, decide_eq_true_iff, decide_eq_true_iff, decide_eq_true_iff, hstart]
      constructor
      · rintro (⟨-, hle⟩ | ⟨-, hle⟩)
        · exact ⟨hzero, hle.trans hsince⟩
        · exact ⟨hzero, hle⟩
      · intro h
        by_cases hle : move.steps ≠ 0 ∧ segment.startNs ≤ since
        · exact .inl hle
        · exact .inr ⟨hle, h.2⟩

end RemoteBSP.MockMcu
