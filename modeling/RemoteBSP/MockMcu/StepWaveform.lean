import RemoteBSP.MockMcu.ExecutorRuns

/-!
# The waveform of the step outputs

Whether the edges that an executor returns keep to the times of an axis (`WellTimed`). Every rise is
followed by a fall after the width of a pulse, and the directions are set in time, in every run. But
`enqueue` compares the steps of a segment with its time as if the last pulse could begin when the
segment ends, and does not compare one segment with the next, so that the output may be low for less
than it should be (`low_too_short`). If the segments leave time for that (`Spaced`, `Apart`), the
edges are well timed (`waveform_well_timed`).
-/

namespace RemoteBSP.MockMcu

open MotionExecutor

variable {configs : List MotionAxisConfig} {config : MotionAxisConfig} {segment : MotionSegment}
  {segments queued : List MotionSegment} {base : List AxisRuntime}

/-! ## Pulses -/

/-- A pulse that rises at a time. -/
def pulse (config : MotionAxisConfig) (time : ℕ) : List MotionEdge :=
  [stepEdge config.resourceId true time,
    stepEdge config.resourceId false (time + config.stepPulseWidthNs.toNat)]

/-- One edge of the step output after another: a fall when the pulse has its width, and a rise when
the output has been low for long enough. -/
def Follows (config : MotionAxisConfig) (a b : MotionEdge) : Prop :=
  a.level = true ∧ b.level = false ∧ b.time = a.time + config.stepPulseWidthNs.toNat ∨
    a.level = false ∧ b.level = true ∧ a.time + config.minimumStepLowNs.toNat ≤ b.time
deriving Decidable

/-- Pulses that are far enough apart follow one another. -/
theorem isChain_pulses {times : List ℕ}
    (hlt : ∀ time ∈ times, time + config.stepPulseWidthNs.toNat < 2^64)
    (hapart : times.Pairwise fun a b =>
      a + config.stepPulseWidthNs.toNat + config.minimumStepLowNs.toNat ≤ b) :
    (times.flatMap (pulse config)).IsChain (Follows config) := by
  induction times with
  | nil => exact .nil
  | cons time times ih =>
    obtain ⟨hfirst, hrest⟩ := List.pairwise_cons.1 hapart
    have htime := hlt time List.mem_cons_self
    have hchain := ih (fun time' hmem => hlt time' (List.mem_cons_of_mem _ hmem)) hrest
    have hrise : (stepEdge config.resourceId true time).time = time := time_stepEdge (by omega)
    have hfall : (stepEdge config.resourceId false
        (time + config.stepPulseWidthNs.toNat)).time = time + config.stepPulseWidthNs.toNat :=
      time_stepEdge htime
    have hpulse : Follows config (stepEdge config.resourceId true time)
        (stepEdge config.resourceId false (time + config.stepPulseWidthNs.toNat)) :=
      .inl ⟨rfl, rfl, by rw [hfall, hrise]⟩
    rw [List.flatMap_cons]
    cases times with
    | nil => exact .cons_cons hpulse (.singleton _)
    | cons next times =>
      have hnext := hlt next (List.mem_cons_of_mem _ List.mem_cons_self)
      have hlow := hfirst next List.mem_cons_self
      have hrise' : (stepEdge config.resourceId true next).time = next := time_stepEdge (by omega)
      refine .cons_cons hpulse (.cons_cons (.inr ⟨rfl, rfl, ?_⟩) hchain)
      rw [hfall, hrise']
      exact hlow

/-- Edges that follow one another are later and later. -/
theorem pairwise_of_isChain {edges : List MotionEdge} (hwidth : 0 < config.stepPulseWidthNs.toNat)
    (hlow : 0 < config.minimumStepLowNs.toNat) (h : edges.IsChain (Follows config)) :
    edges.Pairwise fun a b => a.time < b.time := by
  have : Trans (fun a b : MotionEdge => a.time < b.time) (fun a b : MotionEdge => a.time < b.time)
      (fun a b : MotionEdge => a.time < b.time) := ⟨fun h h' => lt_trans h h'⟩
  refine List.isChain_iff_pairwise.1 (h.imp fun a b hab => ?_)
  rcases hab with ⟨-, -, htime⟩ | ⟨-, -, htime⟩ <;> omega

/-! ## Segments that leave time for the step outputs -/

/-- The number of the steps of a segment on an axis. -/
def stepCountOf (config : MotionAxisConfig) (segment : MotionSegment) : ℕ :=
  (moveOf segment config.resourceId).steps.natAbs

/-- There is time for the steps of a segment, with the output low between them. -/
def Spaced (config : MotionAxisConfig) (segment : MotionSegment) : Prop :=
  (stepCountOf config segment - 1) *
      (config.stepPulseWidthNs.toNat + config.minimumStepLowNs.toNat) ≤
    segment.durationNs.toNat - config.directionSetupNs.toNat - config.stepPulseWidthNs.toNat
deriving Decidable

/-- When the output is low after the steps of a segment: at its end, or behind the pulse if there
is only one. -/
def lowFromNs (config : MotionAxisConfig) (segment : MotionSegment) : ℕ :=
  if stepCountOf config segment = 1 then
    segment.startNs + config.directionSetupNs.toNat + config.stepPulseWidthNs.toNat
  else segment.endNs

/-- There is time between the steps of a segment and those of a later one. -/
def Apart (config : MotionAxisConfig) (segment later : MotionSegment) : Prop :=
  stepCountOf config segment ≠ 0 → stepCountOf config later ≠ 0 →
    lowFromNs config segment + config.minimumStepLowNs.toNat ≤
      later.startNs + config.directionSetupNs.toNat
deriving Decidable

/-- When the steps of a segment rise. -/
def riseTimes (config : MotionAxisConfig) (segment : MotionSegment) : List ℕ :=
  (List.range (stepCountOf config segment)).map
    (riseNs config segment (stepCountOf config segment))

/-- The steps of a segment are its pulses. -/
theorem stepEdges_perm (hfits : SegmentFits configs segment) (hconfig : config ∈ configs) :
    (stepEdges config segment).Perm ((riseTimes config segment).flatMap (pulse config)) := by
  have hid := (moveOf_mem hfits hconfig).2
  unfold stepEdges rises falls riseTimes
  rw [hid, List.flatMap_map, List.map_eq_flatMap, List.map_eq_flatMap]
  exact List.flatMap_append_perm _ _ _

/-- The rises of a segment are far enough apart. -/
theorem pairwise_riseTimes (hspaced : Spaced config segment) :
    (riseTimes config segment).Pairwise fun a b =>
      a + config.stepPulseWidthNs.toNat + config.minimumStepLowNs.toNat ≤ b := by
  unfold riseTimes
  rw [List.pairwise_map]
  refine List.pairwise_lt_range.imp_of_mem fun {i j} hi hj hij => ?_
  have hmono := riseNs_mono config segment (stepCountOf config segment) (show i + 1 ≤ j from hij)
  refine le_trans ?_ hmono
  have hj := List.mem_range.1 hj
  have hpos : 0 < stepCountOf config segment - 1 := by omega
  -- One more step takes at least the time for a pulse and the low level.
  have hstep : spanNs config segment * i / (stepCountOf config segment - 1) +
      (config.stepPulseWidthNs.toNat + config.minimumStepLowNs.toNat) ≤
        spanNs config segment * (i + 1) / (stepCountOf config segment - 1) := by
    rw [← Nat.add_mul_div_left _ _ hpos]
    refine Nat.div_le_div_right ?_
    rw [Nat.mul_add_one]
    exact Nat.add_le_add_left hspaced _
  unfold riseNs
  omega

/-- The last pulse of a segment. -/
theorem riseTimes_le (hfits : SegmentFits configs segment) (hconfigured : Configured configs)
    (hconfig : config ∈ configs) {time : ℕ} (hmem : time ∈ riseTimes config segment) :
    stepCountOf config segment ≠ 0 ∧
      segment.startNs + config.directionSetupNs.toNat ≤ time ∧
      time + config.stepPulseWidthNs.toNat ≤ lowFromNs config segment ∧
      lowFromNs config segment ≤ segment.endNs := by
  obtain ⟨index, hindex, rfl⟩ := List.mem_map.1 hmem
  have hindex := List.mem_range.1 hindex
  have hne : (moveOf segment config.resourceId).steps ≠ 0 := by
    intro hzero
    unfold stepCountOf at hindex
    rw [hzero] at hindex
    exact absurd hindex (Nat.not_lt_zero _)
  have hsteps := fits_moveOf hfits hconfigured hconfig hne
  obtain ⟨hlow, hhigh⟩ := riseNs_bounds hsteps hindex
  have hroom := hsteps.room
  unfold fallNs at hhigh
  unfold lowFromNs
  refine ⟨by omega, hlow, ?_, ?_⟩
  · split
    · next hone =>
      have hzero : index = 0 := by omega
      unfold riseNs
      rw [hzero, Nat.mul_zero, Nat.zero_div, Nat.add_zero]
    · exact hhigh
  · unfold MotionSegment.endNs
    split <;> omega

/-- The rises of segments are far enough apart. -/
theorem pairwise_flatMap_riseTimes (hfits : ∀ segment ∈ segments, SegmentFits configs segment)
    (hconfigured : Configured configs) (hconfig : config ∈ configs)
    (hspaced : ∀ segment ∈ segments, Spaced config segment)
    (hapart : segments.Pairwise (Apart config)) :
    (segments.flatMap (riseTimes config)).Pairwise fun a b =>
      a + config.stepPulseWidthNs.toNat + config.minimumStepLowNs.toNat ≤ b := by
  induction segments with
  | nil => exact .nil
  | cons segment segments ih =>
    obtain ⟨hfirst, hrest⟩ := List.pairwise_cons.1 hapart
    rw [List.flatMap_cons, List.pairwise_append]
    refine ⟨pairwise_riseTimes (hspaced segment List.mem_cons_self),
      ih (fun segment' hmem => hfits segment' (List.mem_cons_of_mem _ hmem))
        (fun segment' hmem => hspaced segment' (List.mem_cons_of_mem _ hmem)) hrest,
      fun a ha b hb => ?_⟩
    obtain ⟨later, hlater, hb⟩ := List.mem_flatMap.1 hb
    obtain ⟨hmoves, -, hlow, -⟩ :=
      riseTimes_le (hfits segment List.mem_cons_self) hconfigured hconfig ha
    obtain ⟨hmoves', hstart, -⟩ :=
      riseTimes_le (hfits later (List.mem_cons_of_mem _ hlater)) hconfigured hconfig hb
    have hbetween := hfirst later hlater hmoves hmoves'
    omega

/-! ## Runs -/

/-- An executor, the edges that it has returned and the segments that it has accepted. -/
structure History where
  /-- The executor behind the calls. -/
  executor : MotionExecutor
  /-- The edges that the calls have returned. -/
  edges : List MotionEdge := []
  /-- The segments, each with its start. -/
  accepted : List MotionSegment := []

/-- The segment that a call adds to the queue. -/
def acceptedBy (executor : MotionExecutor) : ExecutorCall → List MotionSegment
  | .enqueue segment nowNs => (executor.enqueue segment nowNs).1.toOption.toList
  | .advanceTo _ | .abort _ _ | .triggerLimit _ _ | .clearFault => []

/-- A call, with its edges and the segment that it accepts written down. -/
def History.call (history : History) (call : ExecutorCall) : History where
  executor := (history.executor.call call).1
  edges := history.edges ++ (history.executor.call call).2.toOption.getD []
  accepted := history.accepted ++ acceptedBy history.executor call

/-- Calls one after the other, each written down. -/
def History.run (history : History) (calls : List ExecutorCall) : History :=
  calls.foldl History.call history

/-- The calls without `abort`, a limit and `clear_fault`. -/
def ExecutorCall.Forward : ExecutorCall → Prop
  | .enqueue _ _ | .advanceTo _ => True
  | .abort _ _ | .triggerLimit _ _ | .clearFault => False

/-- Whether a call is a stop can be checked. -/
instance : DecidablePred ExecutorCall.Forward
  | .enqueue _ _ => inferInstanceAs (Decidable True)
  | .advanceTo _ => inferInstanceAs (Decidable True)
  | .abort _ _ => inferInstanceAs (Decidable False)
  | .triggerLimit _ _ => inferInstanceAs (Decidable False)
  | .clearFault => inferInstanceAs (Decidable False)

/-- The edges of an axis keep to its times: the edges of the step output follow one another, the
first of which is a rise, and each lies within its segment. A direction is set some time before the
rises that come after it. -/
structure WellTimed (config : MotionAxisConfig) (history : History) : Prop where
  /-- Pulses have their width, and the output is low between them. -/
  follows : (stepsOf config.resourceId history.edges).IsChain (Follows config)
  /-- The first edge is a rise. -/
  first : ∀ edge ∈ (stepsOf config.resourceId history.edges).head?, edge.level = true
  /-- The edges lie within their segments. -/
  within : ∀ edge ∈ stepsOf config.resourceId history.edges, ∃ segment ∈ history.accepted,
    edge ∈ stepEdges config segment ∧ segment.startNs ≤ edge.time ∧ edge.time ≤ segment.endNs
  /-- The directions are set in time. -/
  setup : history.edges.Pairwise fun a b =>
    a.axisResourceId = config.resourceId → a.signal = .direction →
      b.axisResourceId = config.resourceId → b.signal = .step → b.level = true →
        a.time + config.directionSetupNs.toNat ≤ b.time

/-- What a run without a stop has done: the steps of the accepted segments up to the time. -/
structure Recorded (queued : List MotionSegment) (base : List AxisRuntime) (history : History) :
    Prop extends Valid queued base history.executor where
  /-- The segments that are not in the queue have ended. -/
  accepted : ∃ ended, history.accepted = ended ++ queued ∧
    ∀ segment ∈ ended, segment.endNs ≤ history.executor.nowNs.toNat
  /-- The segments have passed the checks of `enqueue`. -/
  checked : ∀ segment ∈ history.accepted, SegmentFits (configsOf base) segment
  /-- The segments follow each other in time without overlapping. -/
  disjoint : history.accepted.Pairwise fun a b => a.endNs ≤ b.startNs
  /-- The edges are in the order of their times. -/
  sorted : history.edges.Pairwise fun a b => a.time ≤ b.time
  /-- The edges have been made in time. -/
  past : ∀ edge ∈ history.edges, edge.time ≤ history.executor.nowNs.toNat
  /-- The rising edges of an axis are the steps of the segments that have been accepted and reached.
  -/
  steps : ∀ config ∈ configsOf base, (stepsOf config.resourceId history.edges).Perm
    (between 0 history.executor.nowNs.toNat (history.accepted.flatMap (stepEdges config)))
  /-- A direction changes at the start of a segment only. -/
  directions : ∀ edge ∈ history.edges, edge.signal = .direction →
    ∃ segment ∈ history.accepted, edge.time = segment.startNs

/-- Segments that have ended make no more steps. -/
theorem between_stepEdges_ended {s t : ℕ}
    (hfits : ∀ segment ∈ segments, SegmentFits configs segment)
    (hconfigured : Configured configs) (hconfig : config ∈ configs)
    (hended : ∀ segment ∈ segments, segment.endNs ≤ s) :
    between s t (segments.flatMap (stepEdges config)) = [] := by
  unfold between
  rw [List.filter_eq_nil_iff]
  intro edge hedge hkeep
  obtain ⟨segment, hsegment, hedge⟩ := List.mem_flatMap.1 hedge
  have hlate := (time_of_mem_stepEdges (hfits segment hsegment) hconfigured hconfig hedge).2
  have hafter := (of_decide_eq_true hkeep).1
  have hend := hended segment hsegment
  omega

/-- Sorted edges are in the order of their times. -/
theorem pairwise_sorted (sort : Sorter EdgeLe) (edges : List MotionEdge) :
    (sort.run edges).Pairwise fun a b => a.time ≤ b.time := by
  refine (sort.sorted edges).imp fun {a b} hle => ?_
  have hkey := Prod.Lex.toLex_le_toLex.1 (edgeLe_iff.1 hle)
  rcases hkey with hlt | ⟨heq, -⟩
  · exact hlt.le
  · exact heq.le

/-- A new executor has done nothing. -/
theorem Recorded.create {sort : Sorter EdgeLe} {axes : List MotionAxisConfig} {capacity : ℕ}
    {lead : UInt64} {executor : MotionExecutor}
    (h : create sort axes capacity lead = .ok executor) :
    Recorded [] executor.axes { executor := executor } :=
  ⟨(create_valid h).1, ⟨[], rfl, nofun⟩, nofun, .nil, .nil, nofun, fun _ _ => .nil, nofun⟩

variable {history : History}

/-- `advance_to` keeps the record right: the edges come from the segments. -/
theorem Recorded.advanceTo (h : Recorded queued base history) {nowNs : UInt64}
    {edges : List MotionEdge} {executor : MotionExecutor}
    (hadvance : history.executor.advanceTo nowNs = .ok (edges, executor)) :
    ∃ remaining base', configsOf base' = configsOf base ∧
      Recorded remaining base' { history with
        executor := executor
        edges := history.edges ++ edges } := by
  obtain ⟨completed, remaining, base', rfl, hdrained, hvalid⟩ := h.toValid.advanceTo hadvance
  obtain ⟨ended, haccepted, hended⟩ := h.accepted
  have hnow : history.executor.nowNs.toNat ≤ nowNs.toNat ∧ executor.nowNs = nowNs ∧
      edges.Pairwise fun a b => a.time ≤ b.time := by
    rw [advanceTo_eq] at hadvance
    split at hadvance
    · cases hadvance
    · next hnow =>
      obtain ⟨rfl, rfl⟩ := Prod.mk.inj (Except.ok.inj hadvance)
      exact ⟨UInt64.le_iff_toNat_le.1 (UInt64.not_lt.1 hnow), rfl, pairwise_sorted _ _⟩
  obtain ⟨hle, hnow', hsorted⟩ := hnow
  refine ⟨remaining, base', hdrained.configs, hvalid, ⟨ended ++ completed, ?_, ?_⟩, ?_, h.disjoint,
    ?_, ?_, fun config hconfig => ?_, ?_⟩
  -- Each conjunct joins the record so far and what the call has added to it.
  · rw [List.append_assoc]
    exact haccepted
  · intro segment hmem
    rw [hnow']
    rcases List.mem_append.1 hmem with hmem | hmem
    · exact (hended segment hmem).trans hle
    · exact hdrained.ended segment hmem
  · rw [hdrained.configs]
    exact h.checked
  · refine List.pairwise_append.2 ⟨h.sorted, hsorted, fun a ha b hb => ?_⟩
    exact (h.past a ha).trans (hdrained.times b hb).1.le
  · intro edge hmem
    rw [hnow']
    rcases List.mem_append.1 hmem with hmem | hmem
    · exact (h.past edge hmem).trans hle
    · exact (hdrained.times edge hmem).2
  -- The steps up to the call have been recorded, and the call adds those up to its time.
  · have hconfig' : config ∈ configsOf base := hdrained.configs ▸ hconfig
    have hnone := between_stepEdges_ended (t := nowNs.toNat)
      (fun segment hmem => h.checked segment (haccepted ▸ List.mem_append_left _ hmem)) h.configured
      hconfig' hended
    have hsplit := List.filter_between_perm (f := MotionEdge.time)
      (Nat.zero_le history.executor.nowNs.toNat) hle
      (history.accepted.flatMap (stepEdges config))
    have hnew : between history.executor.nowNs.toNat nowNs.toNat
        (history.accepted.flatMap (stepEdges config)) =
        between history.executor.nowNs.toNat nowNs.toNat
          ((completed ++ remaining).flatMap (stepEdges config)) := by
      rw [haccepted, List.flatMap_append, between_append, hnone, List.nil_append]
    rw [hnow']
    refine List.Perm.trans ?_ hsplit.symm
    unfold stepsOf
    rw [List.filter_append]
    have hsteps := hdrained.steps config hconfig'
    rw [← hnew] at hsteps
    exact (h.steps config hconfig').append hsteps
  · intro edge hmem hdirection
    rcases List.mem_append.1 hmem with hmem | hmem
    · exact h.directions edge hmem hdirection
    · obtain ⟨segment, hsegment, htime⟩ := hdrained.directions edge hmem hdirection
      exact ⟨segment, haccepted ▸ List.mem_append_right _ hsegment, htime⟩

/-- A segment that is accepted keeps the record right. -/
theorem Recorded.push (h : Recorded queued base history) (htyped : segment.Typed) {nowNs : UInt64}
    {runtime : SegmentRuntime}
    (hcheck : history.executor.checkSegment segment nowNs = .ok runtime) :
    Recorded (queued ++ [runtime.segment]) base { history with
      executor := history.executor.push runtime
      accepted := history.accepted ++ [runtime.segment] } := by
  have hvalid := h.toValid.push htyped hcheck
  have hfits := h.toValid.segmentFits htyped hcheck
  obtain ⟨ended, haccepted, hended⟩ := h.accepted
  -- The segment starts behind the time up to which edges have been recorded.
  have hlater : history.executor.nowNs.toNat < runtime.segment.startNs := by
    obtain ⟨hnow, -, hduration, startTimeNs, moves, hstart, -, hend, -, rfl⟩ :=
      checkSegment_spec hcheck
    exact (UInt64.le_iff_toNat_le.1 hnow).trans_lt
      (lt_startTime h.lead hstart hduration hend).1
  rw [h.configsOf_eq] at hfits
  refine ⟨hvalid, ⟨ended, ?_, hended⟩, ?_, ?_, h.sorted, h.past, fun config hconfig => ?_, ?_⟩
  · rw [← List.append_assoc, ← haccepted]
  · intro segment' hmem
    rcases List.mem_append.1 hmem with hmem | hmem
    · exact h.checked segment' hmem
    · rw [List.mem_singleton.1 hmem]
      exact hfits
  · refine List.pairwise_append.2 ⟨h.disjoint, List.pairwise_singleton _ _, fun a ha b hb => ?_⟩
    rw [List.mem_singleton.1 hb]
    rw [haccepted] at ha
    rcases List.mem_append.1 ha with ha | ha
    · exact (hended a ha).trans hlater.le
    · exact ((List.pairwise_append.1 hvalid.ordered).2.2 a ha _ List.mem_cons_self).1
  -- So it adds no edge to those up to this time.
  · have hnone : between 0 history.executor.nowNs.toNat
        ([runtime.segment].flatMap (stepEdges config)) = [] :=
      between_stepEdges_eq_nil (fun segment' hmem => List.mem_singleton.1 hmem ▸ hfits)
        h.configured hconfig (fun segment' hmem => List.mem_singleton.1 hmem ▸ hlater.le) 0
    show (stepsOf config.resourceId history.edges).Perm (between 0 history.executor.nowNs.toNat _)
    rw [List.flatMap_append, between_append, hnone, List.append_nil]
    exact h.steps config hconfig
  · intro edge hmem hdirection
    obtain ⟨segment', hsegment, htime⟩ := h.directions edge hmem hdirection
    exact ⟨segment', List.mem_append_left _ hsegment, htime⟩

/-- A call that is no stop. -/
theorem Recorded.call (h : Recorded queued base history) {call : ExecutorCall}
    (htyped : call.Typed) (hforward : call.Forward) :
    ∃ queued' base', configsOf base' = configsOf base ∧
      Recorded queued' base' (history.call call) := by
  obtain ⟨executor, edges, accepted⟩ := history
  cases call with
  | enqueue segment nowNs =>
    -- A rejected segment is recorded nowhere.
    cases hcheck : executor.checkSegment segment nowNs with
    | error e =>
      have henqueue : executor.enqueue segment nowNs = (.error e, executor.reject) := by
        unfold MotionExecutor.enqueue
        rw [hcheck]
      refine ⟨queued, base, rfl, ?_⟩
      unfold History.call MotionExecutor.call acceptedBy
      dsimp only
      rw [henqueue]
      dsimp only [Except.map, Except.toOption, Option.getD, Option.toList]
      rw [List.append_nil, List.append_nil]
      exact ⟨⟨h.toScheduled.congr rfl rfl, h.available, h.lead, h.stopped⟩, h.accepted, h.checked,
        h.disjoint, h.sorted, h.past, h.steps, h.directions⟩
    -- An accepted one is queued behind the others.
    | ok runtime =>
      have henqueue : executor.enqueue segment nowNs =
          (.ok runtime.segment, executor.push runtime) := by
        unfold MotionExecutor.enqueue
        rw [hcheck]
      refine ⟨queued ++ [runtime.segment], base, rfl, ?_⟩
      unfold History.call MotionExecutor.call acceptedBy
      dsimp only
      rw [henqueue]
      dsimp only [Except.map, Except.toOption, Option.getD, Option.toList]
      rw [List.append_nil]
      exact h.push htyped hcheck
  | advanceTo nowNs =>
    unfold History.call MotionExecutor.call acceptedBy
    dsimp only
    -- The edges are recorded if the time has not gone backwards.
    cases hadvance : executor.advanceTo nowNs with
    | error e =>
      dsimp only [Except.toOption, Option.getD]
      rw [List.append_nil, List.append_nil]
      exact ⟨queued, base, rfl, h⟩
    | ok advanced =>
      dsimp only [Except.toOption, Option.getD]
      rw [List.append_nil]
      obtain ⟨remaining, base', hconfigs, hrecorded⟩ := h.advanceTo hadvance
      exact ⟨remaining, base', hconfigs, hrecorded⟩
  | abort nowNs fault => exact absurd hforward id
  | triggerLimit axisResourceId nowNs => exact absurd hforward id
  | clearFault => exact absurd hforward id

/-- Calls that are no stops keep the record right. -/
theorem Recorded.run (h : Recorded queued base history) {calls : List ExecutorCall}
    (hcalls : ∀ call ∈ calls, call.Typed ∧ call.Forward) :
    ∃ queued' base', configsOf base' = configsOf base ∧
      Recorded queued' base' (history.run calls) := by
  induction calls generalizing queued base history with
  | nil => exact ⟨queued, base, rfl, h⟩
  | cons call calls ih =>
    obtain ⟨htyped, hforward⟩ := hcalls call List.mem_cons_self
    obtain ⟨_, _, hconfigs, hnext⟩ := h.call htyped hforward
    obtain ⟨queued', base', hconfigs', hrun⟩ :=
      ih hnext fun call' hmem => hcalls call' (List.mem_cons_of_mem _ hmem)
    exact ⟨queued', base', hconfigs'.trans hconfigs, hrun⟩

/-- The steps that have been made are the first pulses of the segments. -/
theorem Recorded.stepsOf_eq (h : Recorded queued base history) (hconfig : config ∈ configsOf base)
    (hspaced : ∀ segment ∈ history.accepted, Spaced config segment)
    (hapart : history.accepted.Pairwise (Apart config)) :
    ((history.accepted.flatMap (riseTimes config)).flatMap (pulse config)).IsChain
        (Follows config) ∧
      stepsOf config.resourceId history.edges =
        ((history.accepted.flatMap (riseTimes config)).flatMap (pulse config)).takeWhile
          (·.time ≤ history.executor.nowNs.toNat) := by
  obtain ⟨hwidth, hlow, -⟩ := h.configured.pos hconfig
  have htimes := pairwise_flatMap_riseTimes h.checked h.configured hconfig hspaced hapart
  have hlt : ∀ time ∈ history.accepted.flatMap (riseTimes config),
      time + config.stepPulseWidthNs.toNat < 2^64 := by
    intro time hmem
    obtain ⟨segment, hsegment, htime⟩ := List.mem_flatMap.1 hmem
    obtain ⟨-, -, hend, hle⟩ :=
      riseTimes_le (h.checked segment hsegment) h.configured hconfig htime
    exact hend.trans_lt (hle.trans_lt (h.checked segment hsegment).end_lt)
  have hchain := isChain_pulses hlt htimes
  have hsorted := pairwise_of_isChain hwidth hlow hchain
  have hperm : (history.accepted.flatMap (stepEdges config)).Perm
      ((history.accepted.flatMap (riseTimes config)).flatMap (pulse config)) := by
    rw [List.flatMap_assoc]
    exact List.Perm.flatMap_left _ fun segment hsegment =>
      stepEdges_perm (h.checked segment hsegment) hconfig
  refine ⟨hchain, ?_⟩
  generalize (history.accepted.flatMap (riseTimes config)).flatMap (pulse config) = pulses at *
  -- No pulse begins at the time zero.
  have hnone : pulses.countP (·.time ≤ 0) = 0 := by
    rw [List.countP_eq_zero]
    intro edge hmem hzero
    obtain ⟨segment, hsegment, hedge⟩ := List.mem_flatMap.1 (hperm.mem_iff.2 hmem)
    have hstart := (time_of_mem_stepEdges (h.checked segment hsegment) h.configured hconfig hedge).1
    have hzero := of_decide_eq_true hzero
    omega
  have htaken := List.takeWhile_drop_countP (f := MotionEdge.time) (hsorted.imp le_of_lt) 0
    history.executor.nowNs.toNat
  rw [hnone, List.drop_zero] at htaken
  rw [htaken]
  have hsteps := (h.steps config hconfig).trans (hperm.filter _)
  have hnodup : (pulses.map MotionEdge.time).Nodup :=
    List.pairwise_map.2 (hsorted.imp fun hlt => ne_of_lt hlt)
  refine List.Perm.eq_of_pairwise
    (fun (a b : MotionEdge) ha hb (hab : a.time ≤ b.time) (hba : b.time ≤ a.time) => ?_)
    (h.sorted.filter _) ((hsorted.imp le_of_lt).filter _) hsteps
  exact List.inj_on_of_nodup_map hnodup (List.mem_of_mem_filter (hsteps.mem_iff.1 ha))
    (List.mem_of_mem_filter hb) (le_antisymm hab hba)

/-- The rise of a step comes after the direction has been set. -/
theorem rise_of_mem_stepEdges (hfits : SegmentFits configs segment)
    (hconfigured : Configured configs) (hconfig : config ∈ configs) {edge : MotionEdge}
    (hmem : edge ∈ stepEdges config segment)
    (hlevel : edge.level = true) :
    segment.startNs + config.directionSetupNs.toNat ≤ edge.time ∧ edge.time < segment.endNs := by
  have hpulses := (stepEdges_perm hfits hconfig).mem_iff.1 hmem
  obtain ⟨time, htime, hedge⟩ := List.mem_flatMap.1 hpulses
  obtain ⟨-, hlow, hend, hle⟩ := riseTimes_le hfits hconfigured hconfig htime
  have hlt := hfits.end_lt
  have hwidth := (hconfigured.pos hconfig).1
  rcases List.mem_cons.1 hedge with rfl | hedge
  · have hrise : (stepEdge config.resourceId true time).time = time := time_stepEdge (by omega)
    rw [hrise]
    omega
  · rw [List.mem_singleton.1 hedge] at hlevel
    exact absurd hlevel Bool.false_ne_true

/-- Two members of a list that are related one way or the other. -/
theorem eq_or_of_pairwise {R : MotionSegment → MotionSegment → Prop} (h : segments.Pairwise R)
    {a b : MotionSegment} (ha : a ∈ segments) (hb : b ∈ segments) : a = b ∨ R a b ∨ R b a := by
  induction h with
  | nil => cases ha
  | cons hfirst _ ih =>
    rcases List.mem_cons.1 ha with rfl | ha' <;> rcases List.mem_cons.1 hb with rfl | hb'
    · exact .inl rfl
    · exact .inr (.inl (hfirst b hb'))
    · exact .inr (.inr (hfirst a ha'))
    · exact ih ha' hb'

/-- The directions have been set in time. -/
theorem Recorded.setup (h : Recorded queued base history) (hconfig : config ∈ configsOf base) :
    history.edges.Pairwise fun a b =>
      a.axisResourceId = config.resourceId → a.signal = .direction →
        b.axisResourceId = config.resourceId → b.signal = .step → b.level = true →
          a.time + config.directionSetupNs.toNat ≤ b.time := by
  refine h.sorted.imp_of_mem fun {a b} ha hb hab _ hdirection haxis hstep hlevel => ?_
  obtain ⟨segment, hsegment, htime⟩ := h.directions a ha hdirection
  have hmem : b ∈ stepsOf config.resourceId history.edges :=
    List.mem_filter.2 ⟨hb, decide_eq_true ⟨haxis, hstep⟩⟩
  obtain ⟨hmade, -⟩ := List.mem_filter.1 ((h.steps config hconfig).mem_iff.1 hmem)
  obtain ⟨segment', hsegment', hedge⟩ := List.mem_flatMap.1 hmade
  obtain ⟨hlow, hhigh⟩ :=
    rise_of_mem_stepEdges (h.checked segment' hsegment') h.configured hconfig hedge hlevel
  rcases eq_or_of_pairwise h.disjoint hsegment hsegment' with rfl | hbefore | hbehind
  · omega
  · have hend : segment.endNs = segment.startNs + segment.durationNs.toNat := rfl
    omega
  · -- The segment of the rise would have ended before the direction is set.
    omega

/-- The edges of every run are well timed if the segments leave time for the step outputs. -/
theorem waveform_well_timed {sort : Sorter EdgeLe} {axes : List MotionAxisConfig} {capacity : ℕ}
    {lead : UInt64} {executor : MotionExecutor} {calls : List ExecutorCall}
    (hcreate : create sort axes capacity lead = .ok executor)
    (hcalls : ∀ call ∈ calls, call.Typed ∧ call.Forward) (hconfig : config ∈ axes)
    (hspaced : ∀ segment ∈ (History.run { executor := executor } calls).accepted,
      Spaced config segment)
    (hapart : (History.run { executor := executor } calls).accepted.Pairwise (Apart config)) :
    WellTimed config (History.run { executor := executor } calls) := by
  obtain ⟨queued, base, hconfigs, h⟩ := (Recorded.create hcreate).run hcalls
  have hconfig' : config ∈ configsOf base := by
    rw [hconfigs, (create_valid hcreate).2]
    exact hconfig
  obtain ⟨hchain, hsteps⟩ := h.stepsOf_eq hconfig' hspaced hapart
  refine ⟨?_, ?_, fun edge hmem => ?_, h.setup hconfig'⟩
  · rw [hsteps]
    exact hchain.prefix (List.takeWhile_prefix _)
  · rw [hsteps]
    cases (History.run { executor := executor } calls).accepted.flatMap (riseTimes config) with
    | nil => nofun
    | cons time times =>
      intro edge hhead
      rw [List.flatMap_cons] at hhead
      unfold pulse at hhead
      rw [List.cons_append, List.takeWhile_cons] at hhead
      split at hhead
      · rw [← Option.some.inj hhead]
        rfl
      · cases hhead
  · obtain ⟨hmade, -⟩ := List.mem_filter.1 ((h.steps config hconfig').mem_iff.1 hmem)
    obtain ⟨segment, hsegment, hedge⟩ := List.mem_flatMap.1 hmade
    obtain ⟨hlow, hhigh⟩ :=
      time_of_mem_stepEdges (h.checked segment hsegment) h.configured hconfig' hedge
    exact ⟨segment, hsegment, hedge, hlow.le, hhigh⟩

/-- An axis with a pulse of 1000 ns and a low level of 1000 ns, and the calls that give it a
segment for two steps and play it. -/
def lowConfig : MotionAxisConfig := ⟨1, 500000, 1000, 1000, 2000⟩

/-- The calls for a segment with two steps that takes some time. -/
def lowCalls (durationNs : UInt64) : List ExecutorCall :=
  [.enqueue ⟨1, 0, durationNs, true, [⟨1, 2⟩]⟩ 0, .advanceTo 9001]

/-- An executor that the constructor makes for the axis. -/
def lowExecutor : MotionExecutor :=
  { sort := stableSort
    axes := [{ config := lowConfig }]
    queueCapacity := 4
    minimumLeadTimeNs := 1 }

/-- The constructor accepts the configuration. -/
theorem create_lowExecutor : create stableSort [lowConfig] 4 1 = .ok lowExecutor := rfl

/-- A segment that has time for its steps. -/
theorem waveform_well_timed_two_steps :
    WellTimed lowConfig (History.run { executor := lowExecutor } (lowCalls 8000)) :=
  waveform_well_timed create_lowExecutor (by decide) List.mem_cons_self (by decide +kernel)
    (by decide +kernel)

/-- In 4000 ns the second step rises when the first one falls, although the segment is accepted. -/
theorem low_too_short :
    ¬ ∀ (sort : Sorter EdgeLe) (axes : List MotionAxisConfig) (capacity : ℕ) (lead : UInt64)
        (executor : MotionExecutor) (calls : List ExecutorCall),
      create sort axes capacity lead = .ok executor →
      (∀ call ∈ calls, call.Typed ∧ call.Forward) → ∀ config ∈ axes,
        WellTimed config (History.run { executor := executor } calls) := by
  intro h
  have hlow := (h stableSort [lowConfig] 4 1 lowExecutor (lowCalls 4000) create_lowExecutor
    (by decide)
    lowConfig List.mem_cons_self).follows
  revert hlow
  decide +kernel

end RemoteBSP.MockMcu
