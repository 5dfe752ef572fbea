import RemoteBSP.Lib.Timeline
import RemoteBSP.MockMcu.Conservation
import RemoteBSP.MockMcu.Handlers

/-!
# The queue of the mock motion executor

The queued segments form a timeline, which ends at the last accepted number and the next available
time. It grows at its end, when a segment is accepted (`QueueOrder.push`), and loses segments at its
front, when they are completed (`QueueOrder.advanceTo`); what the other operations do to the queue
is that they empty it.

`QueueOrder` adds the bounds on the depth and on the number of the axes, which only an accepted
segment changes (`bounds_advanceTo`, `bounds_abort`), and `reachable_queueInvariant` is the
invariant of all executors that can be reached. With it the status of an executor can always be sent
(`QueueInvariant.encodes`).
-/

namespace RemoteBSP.MockMcu

open MotionExecutor

variable {executor executor' executor'' : MotionExecutor} {segment : MotionSegment}
  {segments : List MotionSegment}

/-- A segment as a piece of a timeline. -/
def MotionSegment.slot (segment : MotionSegment) : Slot :=
  ⟨segment.sequence.toNat, segment.startNs, segment.endNs, segment.finalSegment⟩

/-- The falls of a move do not run ahead of its rises, nor the rises of its steps. -/
structure MoveRuntime.Counted (move : MoveRuntime) : Prop where
  /-- A move has emitted no fall without the rise before it. -/
  falls_le : move.fallsEmitted ≤ move.risesEmitted
  /-- A move emits at most one rise for each of its steps. -/
  rises_le : move.risesEmitted ≤ move.stepCount

namespace MotionExecutor

/-! ## What the calls do not change -/

/-- The last accepted number, the longest queue, the room in the queue and the number of axes. -/
def bounds (executor : MotionExecutor) : UInt32 × ℕ × ℕ × ℕ :=
  (executor.lastAcceptedSequence, executor.metrics.maximumQueueDepth, executor.queueCapacity,
    executor.axes.length)

/-- Edges count themselves and change the axes, not how many there are. -/
theorem bounds_applyEdges (executor : MotionExecutor) (edges : List MotionEdge) :
    (executor.applyEdges edges).bounds = executor.bounds := by
  unfold applyEdges
  induction edges generalizing executor with
  | nil => rfl
  | cons edge edges ih =>
    rw [List.foldl_cons, ih]
    unfold bounds
    dsimp only
    rw [List.length_map]
    split <;> rfl

/-- A stop does not change them. -/
theorem bounds_stopSafely (executor : MotionExecutor) (atNs : UInt64) (fault : MotionFault) :
    (executor.stopSafely atNs fault).2.bounds = executor.bounds := by
  refine (bounds_applyEdges (executor.enterSafeState atNs fault).2
    (executor.sort.run (executor.enterSafeState atNs fault).1)).trans ?_
  unfold enterSafeState
  dsimp only
  split <;> rfl

/-- The edges of a segment do not change them. -/
theorem bounds_collectSegmentEdges (executor : MotionExecutor) (runtime : SegmentRuntime)
    (untilNs : UInt64) :
    (executor.collectSegmentEdges runtime untilNs).2.2.bounds = executor.bounds :=
  bounds_applyEdges executor (executor.collectSegmentEdges runtime untilNs).1

/-- The loop of `advance_to` does not change them. -/
theorem bounds_drain (executor : MotionExecutor) (nowNs : UInt64) :
    (executor.drain nowNs).2.bounds = executor.bounds := by
  generalize hqueue : executor.queue = queue
  induction queue generalizing executor with
  | nil => rw [drain_nil hqueue]
  | cons current rest ih =>
    by_cases hbegun : nowNs < current.segment.startTimeNs
    · rw [drain_wait hqueue (UInt64.lt_iff_toNat_lt.1 hbegun)]
    · rw [drain_begun hqueue hbegun]
      have hcollect := bounds_collectSegmentEdges executor.running current nowNs
      generalize executor.running.collectSegmentEdges current nowNs = collected at hcollect ⊢
      obtain ⟨edges, current', collected⟩ := collected
      have hfinish : (collected.finish nowNs current.segment rest).2.bounds = collected.bounds := by
        unfold finish
        dsimp only
        split
        · exact bounds_stopSafely _ _ _
        · split
          · exact bounds_stopSafely _ _ _
          · exact ih (collected.completeSegment current.segment rest) rfl
      dsimp only
      split
      · exact hcollect
      · exact hfinish.trans hcollect

/-- `advance_to` leaves the bounds of the constructor as they are. -/
theorem bounds_advanceTo {nowNs : UInt64} {edges : List MotionEdge}
    (h : executor.advanceTo nowNs = .ok (edges, executor')) :
    executor'.bounds = executor.bounds := by
  rw [advanceTo_eq] at h
  split at h
  · cases h
  · obtain rfl := (Prod.mk.inj (Except.ok.inj h)).2
    exact bounds_drain executor nowNs

/-- `abort` leaves the bounds of the constructor as they are. -/
theorem bounds_abort {nowNs : UInt64} {fault : MotionFault} {edges : List MotionEdge}
    (h : executor.abort nowNs fault = .ok (edges, executor')) :
    executor'.bounds = executor.bounds := by
  unfold abort at h
  split at h
  · cases h
  split at h
  · cases h
  split at h
  · cases h
  next hadvance =>
  obtain rfl := (Prod.mk.inj (Except.ok.inj h)).2
  exact (bounds_stopSafely _ _ _).trans (bounds_advanceTo hadvance)

/-! ## The invariant of the queue -/

/-- A segment is accepted when there is room and its number is the next one. -/
theorem order_of_checkSegment {nowNs : UInt64} {runtime : SegmentRuntime}
    (h : executor.checkSegment segment nowNs = .ok runtime) :
    executor.queue.length < executor.queueCapacity ∧
      segment.sequence.toNat = executor.lastAcceptedSequence.toNat + 1 := by
  unfold checkSegment at h
  split at h
  · cases h
  split at h
  · cases h
  split at h
  · cases h
  next hroom =>
  split at h
  · cases h
  split at h
  · cases h
  next hsequence =>
  obtain ⟨hne, hnext⟩ := not_or.1 hsequence
  have hnext := not_not.1 hnext
  refine ⟨not_le.1 hroom, ?_⟩
  -- The number behind the largest one is zero, and no segment has it.
  have hlt := executor.lastAcceptedSequence.toNat_lt
  have hword : segment.sequence.toNat = (executor.lastAcceptedSequence.toNat + 1) % 2^32 := by
    rw [hnext, UInt32.toNat_add]
    rfl
  have hpos : segment.sequence.toNat ≠ 0 := fun hzero => hne (UInt32.toNat_inj.1 hzero)
  omega

/-- The queue is a timeline, and there is room for it. -/
structure QueueOrder (executor : MotionExecutor) : Prop where
  /-- The queued segments follow each other in number and in time. -/
  timeline : Timeline (2^64) (executor.segments.map MotionSegment.slot)
    executor.lastAcceptedSequence.toNat executor.nextAvailableTimeNs.toNat
  /-- The longest queue so far is at least as long as the queue. -/
  depth : executor.queue.length ≤ executor.metrics.maximumQueueDepth
  /-- No queue was longer than there is room. -/
  maximum : executor.metrics.maximumQueueDepth ≤ executor.queueCapacity
  /-- The constructor admits at most 1024 segments. -/
  capacity : executor.queueCapacity ≤ 1024
  /-- The constructor admits no executor without axes. -/
  axes_pos : 0 < executor.axes.length
  /-- The constructor admits at most eight axes. -/
  axes_le : executor.axes.length ≤ kMaximumMotionAxes

/-- A call that changes nothing but the queue, which it shortens. -/
theorem QueueOrder.of_bounds (h : QueueOrder executor)
    (hbounds : executor'.bounds = executor.bounds)
    (htimeline : Timeline (2^64) (executor'.segments.map MotionSegment.slot)
      executor.lastAcceptedSequence.toNat executor'.nextAvailableTimeNs.toNat)
    (hlength : executor'.queue.length ≤ executor.queue.length) : QueueOrder executor' := by
  unfold bounds at hbounds
  simp only [Prod.mk.injEq] at hbounds
  obtain ⟨hsequence, hdepth, hcapacity, haxes⟩ := hbounds
  exact ⟨hsequence ▸ htimeline, hdepth ▸ hlength.trans h.depth, hdepth ▸ hcapacity ▸ h.maximum,
    hcapacity ▸ h.capacity, haxes ▸ h.axes_pos, haxes ▸ h.axes_le⟩

/-- A call that empties the queue. -/
theorem QueueOrder.of_empty (h : QueueOrder executor) (hbounds : executor'.bounds = executor.bounds)
    (hempty : executor'.queue = []) : QueueOrder executor' := by
  have hsegments : executor'.segments = [] := congrArg (List.map SegmentRuntime.segment) hempty
  refine h.of_bounds hbounds (hsegments ▸ Timeline.nil _ _ _) ?_
  rw [hempty]
  exact Nat.zero_le _

/-- A segment that is accepted follows the last one of the queue. -/
theorem QueueOrder.push (h : QueueOrder executor) {nowNs : UInt64} {runtime : SegmentRuntime}
    (hcheck : executor.checkSegment segment nowNs = .ok runtime)
    (hend : runtime.segment.endNs < 2^64) :
    QueueOrder (executor.push runtime) := by
  obtain ⟨hroom, hsequence⟩ := order_of_checkSegment hcheck
  obtain ⟨-, hlast, -, startTimeNs, moves, -, hjoined, -, -, rfl⟩ := checkSegment_spec hcheck
  have hne : executor.segments.map MotionSegment.slot ≠ [] → executor.queue ≠ [] := by
    rintro hslots hnil
    exact hslots (by rw [MotionExecutor.segments, hnil]; rfl)
  -- The last segment is not final, and the new one starts where it ends.
  have hfinal : ∀ last ∈ (executor.segments.map MotionSegment.slot).getLast?,
      last.final = false := by
    intro last hmem
    rw [MotionExecutor.segments, List.map_map, List.getLast?_map] at hmem
    obtain ⟨runtime, hruntime, rfl⟩ := Option.map_eq_some_iff.1 hmem
    exact hlast runtime hruntime
  have hstart : executor.segments.map MotionSegment.slot ≠ [] →
      startTimeNs.toNat = executor.nextAvailableTimeNs.toNat :=
    fun hslots => congrArg UInt64.toNat (hjoined (hne hslots))
  have hdepth := h.depth
  have hmaximum := h.maximum
  have hlength : (executor.queue ++ [(⟨{ segment with startTimeNs := startTimeNs }, moves⟩ :
      SegmentRuntime)]).length = executor.queue.length + 1 := by
    rw [List.length_append, List.length_singleton]
  refine ⟨?_, le_max_right _ _, max_le hmaximum ?_, h.capacity, h.axes_pos, h.axes_le⟩
  -- The slots of the queue are the old ones and the new one.
  · have hsegments : (executor.push ⟨{ segment with startTimeNs := startTimeNs }, moves⟩).segments =
        executor.segments ++ [{ segment with startTimeNs := startTimeNs }] := List.map_append
    have hstop : (startTimeNs + segment.durationNs).toNat =
        startTimeNs.toNat + segment.durationNs.toNat := toNat_end hend
    have hslot : Timeline _ (_ ++ [MotionSegment.slot { segment with startTimeNs := startTimeNs }])
        _ _ := h.timeline.concat (fun _ => hsequence) hstart hfinal hend
    rw [hsegments, List.map_append, List.map_singleton]
    show Timeline _ _ _ (startTimeNs + segment.durationNs).toNat
    rw [hstop]
    exact hslot
  · rw [hlength]
    exact hroom

/-- `advance_to` takes segments from the front of the timeline. -/
theorem QueueOrder.advanceTo (h : QueueOrder executor) {base : List AxisRuntime}
    (hvalid : Valid segments base executor) {nowNs : UInt64} {edges : List MotionEdge}
    (hadvance : executor.advanceTo nowNs = .ok (edges, executor')) : QueueOrder executor' := by
  obtain ⟨completed, remaining, base', hsplit, -, hvalid'⟩ := hvalid.advanceTo hadvance
  have hsegments : executor.segments = completed ++ executor'.segments := by
    rw [hvalid.segments_eq, hvalid'.segments_eq, hsplit]
  have hbounds := bounds_advanceTo hadvance
  by_cases hempty : executor'.queue = []
  · exact h.of_empty hbounds hempty
  have havailable : executor'.nextAvailableTimeNs = executor.nextAvailableTimeNs := by
    rw [advanceTo_eq] at hadvance
    split at hadvance
    · cases hadvance
    · obtain rfl := (Prod.mk.inj (Except.ok.inj hadvance)).2
      exact (drain_keeps executor nowNs).2 hempty
  have htimeline := h.timeline
  rw [hsegments, List.map_append] at htimeline
  refine h.of_bounds hbounds (havailable ▸ htimeline.suffix) ?_
  have hlength := congrArg List.length hsegments
  rw [List.length_append, MotionExecutor.segments, MotionExecutor.segments, List.length_map,
    List.length_map] at hlength
  omega

/-- A refused segment is not in the queue. -/
theorem QueueOrder.reject (h : QueueOrder executor) : QueueOrder executor.reject :=
  ⟨h.timeline, h.depth, h.maximum, h.capacity, h.axes_pos, h.axes_le⟩

/-- Every call of the executor keeps its queue in order. -/
theorem QueueOrder.call (h : QueueOrder executor) {base : List AxisRuntime}
    (hvalid : Valid segments base executor) {call : ExecutorCall} (htyped : call.Typed) :
    QueueOrder (executor.call call).1 := by
  cases call with
  -- A segment that is accepted follows the last one.
  | enqueue segment nowNs =>
    have hcases : (executor.enqueue segment nowNs).2 = executor.reject ∨ _ :=
      enqueue_cases segment nowNs
    rcases hcases with hreject | ⟨runtime, hcheck, hpush⟩
    · show QueueOrder (executor.enqueue segment nowNs).2
      rw [hreject]
      exact h.reject
    · show QueueOrder (executor.enqueue segment nowNs).2
      rw [hpush]
      exact h.push hcheck (hvalid.segmentFits htyped hcheck).end_lt
  | advanceTo nowNs =>
    unfold MotionExecutor.call
    dsimp only
    split
    · next hadvance => exact h.advanceTo hvalid hadvance
    · exact h
  -- A stop empties the queue.
  | abort nowNs fault =>
    unfold MotionExecutor.call
    dsimp only
    split
    · next habort => exact h.of_empty (bounds_abort habort) (abort_spec habort).1
    · exact h
  | triggerLimit axisResourceId nowNs =>
    show QueueOrder (executor.triggerLimit axisResourceId nowNs).2
    unfold triggerLimit
    split
    · exact h.reject
    · have hcounted : QueueOrder { executor with metrics :=
          { executor.metrics with limitStops := executor.metrics.limitStops + 1 } } :=
        ⟨h.timeline, h.depth, h.maximum, h.capacity, h.axes_pos, h.axes_le⟩
      dsimp only
      split
      · exact hcounted
      · next habort => exact hcounted.of_empty (bounds_abort habort) (abort_spec habort).1
  -- A fault is cleared only with an empty queue.
  | clearFault =>
    unfold MotionExecutor.call
    dsimp only
    split
    · next hclear =>
      obtain ⟨hempty, rfl⟩ := clearFault_eq_ok_iff.1 hclear
      refine ⟨?_, h.depth, h.maximum, h.capacity, h.axes_pos, h.axes_le⟩
      have hsegments : executor.segments = [] := congrArg (List.map SegmentRuntime.segment) hempty
      show Timeline _ (executor.segments.map MotionSegment.slot) _ _
      rw [hsegments]
      exact .nil _ _ _
    · exact h

/-- A new executor has an empty queue. -/
theorem create_queueOrder {sort : Sorter EdgeLe} {axes : List MotionAxisConfig} {capacity : ℕ}
    {lead : UInt64} (h : create sort axes capacity lead = .ok executor) : QueueOrder executor := by
  have hconfigs := (create_valid h).2
  have hlength : executor.axes.length = axes.length := by
    rw [← hconfigs, configsOf, List.length_map]
  have hbudget : axes ≠ [] ∧ axes.length ≤ kMaximumMotionAxes ∧ capacity ≤ 1024 := by
    unfold create at h
    split at h
    · cases h
    · next hbudget =>
      rw [not_or, not_or, not_or, not_or] at hbudget
      exact ⟨hbudget.1, not_lt.1 hbudget.2.1, not_lt.1 hbudget.2.2.2.1⟩
  obtain ⟨hne, hle, hcapacity⟩ := hbudget
  obtain ⟨runtimes, -, rfl⟩ := create_eq_ok h
  exact ⟨.nil _ _ _, le_rfl, Nat.zero_le _, hcapacity, hlength ▸ List.length_pos_iff.2 hne,
    hlength ▸ hle⟩

/-! ## Every reachable executor -/

/-- The counters of a move in the middle of its segment. -/
theorem counted_playedMove {config : MotionAxisConfig} {move : MotionAxisMove}
    (hfits : Fits config segment move.steps) (time : ℕ) :
    (playedMove config segment move time).Counted := by
  have hcount := toNat_absoluteSteps hfits
  have hsmall := hfits.steps_le
  have hlength : (rises config segment move).length = move.steps.natAbs := by
    rw [rises, List.length_map, List.length_range]
  have hrises : (rises config segment move).countP (·.time ≤ time) ≤ move.steps.natAbs :=
    hlength ▸ List.countP_le_length
  -- The rise of a step lies before its fall.
  have hfalls : (falls config segment move).countP (·.time ≤ time) ≤
      (rises config segment move).countP (·.time ≤ time) := by
    unfold falls rises
    rw [List.countP_map, List.countP_map]
    refine List.countP_mono_left fun index hindex hdue => ?_
    have hindex := List.mem_range.1 hindex
    simp only [Function.comp_apply, decide_eq_true_eq] at hdue ⊢
    rw [time_fall hfits hindex] at hdue
    rw [time_rise hfits hindex]
    exact (Nat.le_add_right _ _).trans hdue
  refine ⟨UInt64.le_iff_toNat_le.2 ?_, UInt64.le_iff_toNat_le.2 ?_⟩
  · show (UInt64.ofNat _).toNat ≤ (UInt64.ofNat _).toNat
    rw [UInt64.toNat_ofNat_of_lt' (show _ < 2^64 by omega),
      UInt64.toNat_ofNat_of_lt' (show _ < 2^64 by omega)]
    exact hfalls
  · show (UInt64.ofNat _).toNat ≤ (absoluteSteps move.steps).toNat
    rw [UInt64.toNat_ofNat_of_lt' (show _ < 2^64 by omega), hcount]
    exact hrises

/-- The counters of a move that makes no step. -/
theorem counted_playedAxis {configs : List MotionAxisConfig} (hfits : SegmentFits configs segment)
    {move : MotionAxisMove} (hmove : move ∈ segment.axes) (time : ℕ) :
    (playedAxis configs segment time move).Counted := by
  obtain ⟨config, hconfig, hsteps⟩ := hfits.moves move hmove
  unfold playedAxis
  rw [hconfig]
  by_cases hzero : move.steps = 0
  · show (playedMove config segment move time).Counted
    rw [playedMove_of_steps_eq_zero hzero]
    exact ⟨UInt64.le_refl _, UInt64.le_refl _⟩
  · exact counted_playedMove (hsteps hzero) time

/-- What holds of the queue of an executor. -/
structure QueueInvariant (executor : MotionExecutor) : Prop extends QueueOrder executor where
  /-- The counters of every move are in order. -/
  counted : ∀ runtime ∈ executor.queue, ∀ move ∈ runtime.moves, move.Counted
  /-- A latched fault has emptied the queue. -/
  stopped : executor.fault ≠ .none → executor.queue = []
  /-- The resource ID of an axis is never zero. -/
  named : ∀ axis ∈ executor.axes, axis.config.resourceId ≠ 0

/-- A valid executor with an ordered queue satisfies the invariant. -/
theorem Valid.queueInvariant {base : List AxisRuntime} (h : Valid segments base executor)
    (horder : QueueOrder executor) : QueueInvariant executor := by
  refine ⟨horder, fun runtime hruntime move hmove => ?_, fun hfault => (h.stopped hfault).1,
    fun axis haxis => ?_⟩
  · rw [h.queue] at hruntime
    obtain ⟨segment, hsegment, rfl⟩ := List.mem_map.1 hruntime
    obtain ⟨move', hmove', rfl⟩ := List.mem_map.1 hmove
    exact counted_playedAxis (h.fits segment hsegment) hmove' _
  · have hconfig : axis.config ∈ configsOf executor.axes := List.mem_map_of_mem haxis
    rw [h.configsOf_eq] at hconfig
    exact (h.configured.axis axis.config hconfig).1

/-- The status of an executor that satisfies the invariant is encoded. -/
theorem QueueInvariant.encodes (h : QueueInvariant executor) :
    ∃ bytes, encodeMotionStatus (RemoteCore.motionStatus executor) = .ok bytes := by
  have hcapacity := h.capacity
  have hmaximum := h.maximum
  have hdepth := h.depth
  have haxes : ¬ ((RemoteCore.motionStatus executor).axes.length = 0 ∨
      (RemoteCore.motionStatus executor).axes.length > kMaximumMotionAxes) := by
    rw [RemoteCore.motionStatus, List.length_map]
    have hpos := h.axes_pos
    have hle := h.axes_le
    omega
  -- The three numbers fit in their fields.
  have hroom : ¬ ((RemoteCore.motionStatus executor).queueDepth >
        (RemoteCore.motionStatus executor).queueCapacity ∨
      (RemoteCore.motionStatus executor).metrics.maximumQueueDepth >
        (RemoteCore.motionStatus executor).queueCapacity) := by
    have hqueue : (UInt16.ofNat executor.queue.length).toNat = executor.queue.length :=
      UInt16.toNat_ofNat_of_lt' (show _ < 2^16 by omega)
    have hlongest : (UInt16.ofNat executor.metrics.maximumQueueDepth).toNat =
        executor.metrics.maximumQueueDepth :=
      UInt16.toNat_ofNat_of_lt' (show _ < 2^16 by omega)
    have hroom : (UInt16.ofNat executor.queueCapacity).toNat = executor.queueCapacity :=
      UInt16.toNat_ofNat_of_lt' (show _ < 2^16 by omega)
    rw [not_or, gt_iff_lt, gt_iff_lt, UInt16.not_lt, UInt16.not_lt, UInt16.le_iff_toNat_le,
      UInt16.le_iff_toNat_le]
    unfold RemoteCore.motionStatus
    dsimp only
    omega
  have hnamed : ∀ axis ∈ (RemoteCore.motionStatus executor).axes, axis.resourceId ≠ 0 := by
    intro axis hmem
    obtain ⟨runtime, hruntime, rfl⟩ := List.mem_map.1 hmem
    exact h.named runtime hruntime
  have hencoded := mapM_eq_ok (f := encodeMotionAxisStatus) fun axis hmem =>
    if_neg (hnamed axis hmem)
  unfold encodeMotionStatus validateAxisCount
  rw [if_neg haxes, if_neg hroom, hencoded]
  exact ⟨_, rfl⟩

/-- Every executor that can be reached satisfies the invariant of the queue. -/
theorem reachable_queueInvariant (h : Reachable executor) : QueueInvariant executor := by
  obtain ⟨sort, axes, capacity, lead, initial, calls, hcreate, htyped, rfl⟩ := h
  have hstart : ∃ segments base, Valid segments base initial ∧ QueueOrder initial :=
    ⟨_, _, (create_valid hcreate).1, create_queueOrder hcreate⟩
  clear hcreate
  induction calls generalizing initial with
  | nil =>
    obtain ⟨_, _, hvalid, horder⟩ := hstart
    exact hvalid.queueInvariant horder
  | cons call calls ih =>
    obtain ⟨_, _, hvalid, horder⟩ := hstart
    have hcall := htyped call List.mem_cons_self
    obtain ⟨segments, base, hvalid'⟩ := hvalid.call hcall
    exact ih _ (fun call' hmem => htyped call' (List.mem_cons_of_mem _ hmem))
      ⟨segments, base, hvalid', horder.call hvalid hcall⟩

/-- Every executor that can be reached satisfies the invariant of the queue. Its status can be
encoded, and a core with this executor answers every well-formed request for the status with the
encoded one. -/
theorem queue_invariant (h : Reachable executor) :
    QueueInvariant executor ∧
      ∃ bytes, encodeMotionStatus (RemoteCore.motionStatus executor) = .ok bytes ∧
        ∀ (board : Board) (core : RemoteCore) (request : Packet), core.motion = some executor →
          core.handleMotionStatus board request =
            (.ok (if ¬board.hasCapability capabilityMotion then
                makeResponse request .unsupportedCapability
              else if request.header.objectId ≠ 0 ∨ request.payload ≠ [] then
                makeResponse request .invalidPayload
              else respond request bytes), core) := by
  have hinvariant := reachable_queueInvariant h
  obtain ⟨bytes, hbytes⟩ := hinvariant.encodes
  refine ⟨hinvariant, bytes, hbytes, fun board core request hmotion => ?_⟩
  unfold RemoteCore.handleMotionStatus RemoteCore.withMotion
  rw [hmotion]
  dsimp only
  rw [hbytes]
  split
  · rfl
  · split
    · rfl
    · rfl

/-- An executor with two steps to make. -/
theorem queue_invariant_two_steps : QueueInvariant twoSteps :=
  (queue_invariant reachable_twoSteps).1

end MotionExecutor
end RemoteBSP.MockMcu
