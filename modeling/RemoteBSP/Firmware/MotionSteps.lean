import RemoteBSP.Lib.Machine
import RemoteBSP.Firmware.MotionTick

/-!
# A completed segment has moved its steps

Over runs of the motion queue. An observer keeps the queue as it was just before the tick that
first started the segment at the front, and compares it with the queue after the tick that completes
the segment.

`rbsp_motion_enqueue` makes the state `ARMED` also when a segment is running, and the next tick then
starts this segment again, with the steps emitted so far forgotten: it emits them once more
(`enqueue_repeats_steps`). Without such an enqueue every completed segment has moved exactly its
steps (`completed_segment_exact`). The invariant (`Tracked`) says by state how far the front segment
is: not moved when armed, moved by the emitted steps when running.
-/

namespace RemoteBSP.Firmware

namespace MotionQueue

/-- What is known of a queue, with the queue `started` just before the start of the front segment,
if it has been started. -/
structure Tracked (config : MotionConfig) (n : ℕ) (q : MotionQueue)
    (started : Option MotionQueue) : Prop where
  /-- As many axes are in use as there are. -/
  axisCount : q.axisCount.toNat = n
  /-- The front is in the buffer. -/
  head_lt : q.head < config.queueDepth
  /-- The ring holds no more segments than it has room for. -/
  size_le : q.size ≤ config.queueDepth
  /-- With a fault there are no segments. -/
  faulted : q.fault ≠ .none → q.size = 0
  /-- Without segments none is under way. -/
  empty : q.size = 0 → started = none ∧ q.state ≠ .running
  /-- With segments the queue is armed or running. -/
  nonempty : 0 < q.size → q.state = .armed ∨ q.state = .running
  /-- Armed, no axis has moved since the start, if there was one. -/
  armed : q.state = .armed → ∀ before ∈ started, ∀ a < n,
    q.positionSteps a = before.positionSteps a ∧ q.emittedSteps a = before.emittedSteps a
  /-- Running, all axes are somewhere in the segment. -/
  running : q.state = .running → ∃ before ∈ started, ∀ a < n,
    Progress (q.segments q.head) before q a

variable {config : MotionConfig} {n : ℕ} {q q' : MotionQueue} {started : Option MotionQueue}

/-- What is known depends on what agrees. -/
theorem Tracked.of_agrees (h : q.Tracked config n started) (hagrees : q.Agrees q') :
    q'.Tracked config n started := by
  have hseg := hagrees.toSameSegments
  refine ⟨?_, ?_, ?_, ?_, ?_, ?_, ?_, ?_⟩
  · rw [hseg.axisCount]; exact h.axisCount
  · rw [hseg.head]; exact h.head_lt
  · rw [hseg.size]; exact h.size_le
  · rw [hseg.fault, hseg.size]; exact h.faulted
  · rw [hseg.size, hagrees.state]; exact h.empty
  · rw [hseg.size, hagrees.state]; exact h.nonempty
  · rw [hagrees.state, hagrees.positionSteps, hagrees.emittedSteps]; exact h.armed
  · rw [hagrees.state, hseg.segments, hseg.head]
    intro hrunning
    obtain ⟨before, hmem, hall⟩ := h.running hrunning
    exact ⟨before, hmem, fun a ha => (hall a ha).of_agrees hagrees⟩

/-- An abort leaves a queue without a segment under way. -/
theorem tracked_abort (haxes : q.axisCount.toNat = n) {fault : MotionFault}
    (hfault : fault ≠ .none) : (q.abort fault).Tracked config n none := by
  have hdepth := config.two_le_queueDepth
  unfold abort
  rw [if_neg hfault]
  refine ⟨haxes, ?_, Nat.zero_le _, fun _ => rfl, fun _ => ⟨rfl, nofun⟩, ?_, nofun, nofun⟩
  · show 0 < config.queueDepth
    omega
  · intro hpos
    exact absurd hpos (Nat.lt_irrefl 0)

/-- `rbsp_motion_clear_fault` leaves under way what was under way. -/
theorem Tracked.clearFault (h : q.Tracked config n started) (nowNs : UInt64) :
    (q.clearFault nowNs).2.Tracked config n started := by
  unfold MotionQueue.clearFault
  split_ifs with hsize
  · exact h
  · rw [not_not] at hsize
    obtain ⟨hnone, -⟩ := h.empty hsize
    refine ⟨h.axisCount, h.head_lt, h.size_le, fun hne => absurd rfl hne,
      fun _ => ⟨hnone, nofun⟩, fun hpos => ?_, nofun, nofun⟩
    exact absurd hsize (Nat.ne_of_gt hpos)

/-- The queue after the front segment has been completed. -/
theorem completeFront_spec (haxes : q.axisCount.toNat = n) (hsize : 0 < q.size)
    (hle : q.size ≤ config.queueDepth) (hfault : q.fault = .none) :
    (q.completeFront config).1 = true ∧ (q.completeFront config).2.Tracked config n none ∧
      (q.completeFront config).2.completedSegments = q.completedSegments + 1 ∧
      (q.completeFront config).2.positionSteps = q.positionSteps ∧
      (q.completeFront config).2.emittedSteps = q.emittedSteps ∧
      (q.completeFront config).2.axisCount = q.axisCount := by
  have hdepth := config.two_le_queueDepth
  have hhead : (q.head + 1) % config.queueDepth < config.queueDepth :=
    Nat.mod_lt _ (by omega)
  have hopen : ¬ (q.size = 0 ∨ q.fault ≠ .none) := by
    rintro (hzero | hne)
    · omega
    · exact hne hfault
  unfold completeFront
  rw [if_neg hopen]
  dsimp only
  by_cases hfinal : (q.segments q.head).finalSegment = true
  · rw [if_pos hfinal]
    refine ⟨rfl, ⟨haxes, hhead, Nat.zero_le _, fun _ => rfl, fun _ => ⟨rfl, nofun⟩,
      fun hpos => absurd hpos (Nat.lt_irrefl 0), nofun, nofun⟩, rfl, rfl, rfl, rfl⟩
  · rw [if_neg hfinal]
    by_cases hlast : q.size - 1 = 0
    · rw [if_pos hlast]
      refine ⟨rfl, ⟨haxes, hhead, ?_, fun _ => hlast, fun _ => ⟨rfl, nofun⟩, fun hpos => ?_, nofun,
        nofun⟩, rfl, rfl, rfl, rfl⟩
      · show q.size - 1 ≤ config.queueDepth
        omega
      · exact absurd hlast (Nat.ne_of_gt hpos)
    · rw [if_neg hlast]
      refine ⟨rfl, ⟨haxes, hhead, ?_, fun hne => absurd hfault hne, fun hzero => ?_,
        fun _ => .inl rfl, fun _ _ hmem => ?_, nofun⟩, rfl, rfl, rfl, rfl⟩
      · show q.size - 1 ≤ config.queueDepth
        omega
      · exact absurd hzero hlast
      · exact absurd hmem (by simp)

/-- A segment that passes the checks finds no fault and a free place. -/
theorem validate_ok {requested : MotionSegment} {nowNs startTimeNs : UInt64}
    (h : q.validate config requested nowNs = .ok startTimeNs) :
    q.fault = .none ∧ q.size < config.queueDepth := by
  unfold validate at h
  by_cases hfault : q.fault = .none
  · by_cases hfull : q.size ≥ config.queueDepth
    · simp only [hfault, hfull, ne_eq, not_true, if_true, if_false, throw, throwThe,
        MonadExceptOf.throw, bind, Except.bind] at h
      split_ifs at h
    · exact ⟨hfault, not_le.1 hfull⟩
  · simp only [hfault, ne_eq, not_false_eq_true, if_true, throw, throwThe, MonadExceptOf.throw,
      bind, Except.bind] at h
    split_ifs at h

/-- The queue after `rbsp_motion_enqueue`, unless a segment is accepted while the front segment has
emitted steps. -/
theorem Tracked.enqueue (h : q.Tracked config n started) {requested : MotionSegment}
    {nowNs : UInt64} (hrestart : q.state = .running →
      (q.validate config requested nowNs).isOk = true → ∀ a < n, q.activeEmitted a = 0) :
    (q.enqueue config requested nowNs).2.2.Tracked config n started := by
  unfold MotionQueue.enqueue
  cases hvalidate : q.validate config requested nowNs with
  | error rejection =>
    obtain ⟨result, counted⟩ := rejection
    refine h.of_agrees ?_
    dsimp only
    split_ifs <;> exact ⟨⟨rfl, rfl, rfl, rfl, rfl, rfl⟩, rfl, rfl, rfl, rfl, rfl⟩
  | ok startTimeNs =>
    obtain ⟨hfault, hroom⟩ := validate_ok hvalidate
    refine ⟨h.axisCount, h.head_lt, hroom, fun hne => absurd hfault hne, fun hzero => ?_,
      fun _ => .inl rfl, fun _ before hmem a ha => ?_, nofun⟩
    · exact absurd hzero (Nat.succ_ne_zero _)
    · show q.positionSteps a = before.positionSteps a ∧ q.emittedSteps a = before.emittedSteps a
      rcases Nat.eq_zero_or_pos q.size with hzero | hpos
      · rw [(h.empty hzero).1] at hmem
        exact absurd hmem (by simp)
      · rcases h.nonempty hpos with harmed | hrunning
        · exact h.armed harmed before hmem a ha
        · -- Running, but nothing has been emitted yet.
          obtain ⟨before', hmem', hall⟩ := h.running hrunning
          obtain rfl : before' = before := Option.some.inj (hmem'.symm.trans hmem)
          have hzero := hrestart hrunning (by rw [hvalidate]; rfl) a ha
          obtain ⟨-, -, hposition, hemitted⟩ := hall a ha
          rw [hposition, hemitted, hzero]
          simp

/-- The tick at `nowNs` starts the segment at the front. -/
def starts (q : MotionQueue) (nowNs : UInt64) : Prop :=
  q.fault = .none ∧ q.state = .armed ∧ ∃ segment ∈ q.front, segment.startTimeNs ≤ nowNs

instance (q : MotionQueue) (nowNs : UInt64) : Decidable (q.starts nowNs) :=
  inferInstanceAs (Decidable (_ ∧ _))

/-- The queue just before the tick that first starts the front segment, after a tick at `nowNs`. -/
def startedBy (q : MotionQueue) (started : Option MotionQueue) (nowNs : UInt64) :
    Option MotionQueue :=
  match started with
  | some before => some before
  | none => if q.starts nowNs then some q else none

end MotionQueue

namespace Executor

variable {W : Type} {config : MotionConfig} {io : MotionIo W} {n : ℕ} {e : Executor W}
  {started : Option MotionQueue} {nowNs : UInt64}

/-- A tick that does not start the front segment. -/
theorem startedBy_of_not_starts {q : MotionQueue} (h : ¬ q.starts nowNs) :
    q.startedBy started nowNs = started := by
  unfold MotionQueue.startedBy
  cases started with
  | some before => rfl
  | none => exact if_neg h

/-- The front segment is underway: it is running, with every axis somewhere in it, as seen from the
queue before its start. -/
structure Underway (e : Executor W) (segment : MotionSegment) (before : MotionQueue)
    (e' : Executor W) : Prop where
  /-- The segments in the ring are the same. -/
  same : e.queue.SameSegments e'.queue
  /-- The segment is under way. -/
  state : e'.queue.state = .running
  /-- The axes are somewhere in the segment. -/
  progress : ∀ a < e.queue.axisCount.toNat, MotionQueue.Progress segment before e'.queue a

/-- An executor whose front segment is underway. -/
theorem Underway.tracked {e' : Executor W} {segment : MotionSegment} {before : MotionQueue}
    (h : e.Underway segment before e') (htracked : e.queue.Tracked config n started)
    (hsize : 0 < e.queue.size) (hsegment : e.queue.segments e.queue.head = segment)
    {started' : Option MotionQueue} (hbefore : before ∈ started') :
    e'.queue.Tracked config n started' := by
  obtain ⟨hsame, hstate, hprogress⟩ := h
  refine ⟨?_, ?_, ?_, ?_, ?_, ?_, ?_, ?_⟩
  · rw [hsame.axisCount]; exact htracked.axisCount
  · rw [hsame.head]; exact htracked.head_lt
  · rw [hsame.size]; exact htracked.size_le
  · rw [hsame.fault, hsame.size]; exact htracked.faulted
  · rw [hsame.size]; exact fun hzero => absurd hzero (Nat.ne_of_gt hsize)
  · exact fun _ => .inr hstate
  · rw [hstate]; exact nofun
  · rw [hsame.segments, hsame.head, hsegment]
    exact fun _ => ⟨before, hbefore, fun a ha => hprogress a (htracked.axisCount ▸ ha)⟩

/-- What a tick leaves behind, with the queue `started` before the start of the front segment. If it
has completed a segment, every axis has moved by the steps of the segment since `started`. -/
structure TickSpec (config : MotionConfig) (n : ℕ) (e : Executor W)
    (started : Option MotionQueue) (e' : Executor W) : Prop where
  /-- A tick that completes no segment. -/
  going : e'.queue.completedSegments = e.queue.completedSegments →
    e'.queue.Tracked config n (if e'.queue.size = 0 then none else started)
  /-- A tick that completes a segment. -/
  done : e'.queue.completedSegments ≠ e.queue.completedSegments →
    e'.queue.Tracked config n none ∧ ∃ segment ∈ e.queue.front, ∃ before ∈ started, ∀ a < n,
      e'.queue.positionSteps a = before.positionSteps a + (segment.steps a).toInt ∧
        e'.queue.emittedSteps a = before.emittedSteps a + absoluteSteps (segment.steps a)

/-- A tick that leaves a tracked queue and completes no segment. -/
theorem TickSpec.of_tracked {e' : Executor W} (h : e'.queue.Tracked config n started)
    (hcompleted : e'.queue.completedSegments = e.queue.completedSegments) :
    e.TickSpec config n started e' := by
  refine ⟨fun _ => ?_, fun hne => absurd hcompleted hne⟩
  split_ifs with hsize
  · exact (h.empty hsize).1 ▸ h
  · exact h

/-- A tick that aborts the motion. -/
theorem TickSpec.of_abort {e' : Executor W} (hsame : e.queue.SameSegments e'.queue)
    (haxes : e.queue.axisCount.toNat = n) {fault : MotionFault} (hfault : fault ≠ .none)
    {q : MotionQueue} (hq : (e'.queue.abort fault).Agrees q) :
    e.TickSpec config n started (stopOutputs io (e'.withQueue q)) := by
  have hagrees : (e'.queue.abort fault).Agrees (stopOutputs io (e'.withQueue q)).queue :=
    hq.trans (stopOutputs_agrees (e'.withQueue q))
  have htracked : (e'.queue.abort fault).Tracked config n none :=
    MotionQueue.tracked_abort (by rw [hsame.axisCount]; exact haxes) hfault
  have hsize : (stopOutputs io (e'.withQueue q)).queue.size = 0 := by
    rw [hagrees.size, MotionQueue.abort, if_neg hfault]
  have hcompleted : (stopOutputs io (e'.withQueue q)).queue.completedSegments =
      e.queue.completedSegments := by
    rw [hagrees.completedSegments, MotionQueue.abort, if_neg hfault]
    exact hsame.completedSegments
  refine ⟨fun _ => ?_, fun hne => absurd hcompleted hne⟩
  rw [if_pos hsize]
  exact htracked.of_agrees hagrees

/-- The end of a tick in which the front segment is underway. -/
theorem finishTick_spec {segment : MotionSegment} {before : MotionQueue} {e' : Executor W}
    (hunderway : e.Underway segment before e') (htracked : e.queue.Tracked config n started)
    (hsize : 0 < e.queue.size) (hsegment : e.queue.segments e.queue.head = segment)
    (hfault : e.queue.fault = .none) {started' : Option MotionQueue} (hbefore : before ∈ started')
    {allEmitted : Bool} (hall : allEmitted = true → ∀ a < e.queue.axisCount.toNat,
      e'.queue.activeEmitted a = absoluteSteps (segment.steps a)) :
    e.TickSpec config n started' (finishTick config io segment e' allEmitted nowNs).2 := by
  have hunder := hunderway.tracked htracked hsize hsegment hbefore
  obtain ⟨hsame, hstate, hprogress⟩ := hunderway
  unfold finishTick
  dsimp only
  split_ifs with hdone hoverdue
  · -- All steps have been emitted and the time is over.
    obtain ⟨hresult, hnext, hcompleted, hposition, hemitted, -⟩ :=
      MotionQueue.completeFront_spec hunder.axisCount (hsame.size ▸ hsize) hunder.size_le
        (hsame.fault.trans hfault)
    generalize e'.queue.completeFront config = completed at *
    obtain ⟨result, q⟩ := completed
    subst hresult
    dsimp only at *
    -- The counter has grown, so that the segment is the one that the tick reports.
    have hspec : ∀ e'' : Executor W, q.Agrees e''.queue → e.TickSpec config n started' e'' := by
      intro e'' hagrees
      have hmore : e''.queue.completedSegments ≠ e.queue.completedSegments := by
        rw [hagrees.completedSegments, hcompleted, hsame.completedSegments]
        intro heq
        have := congrArg UInt64.toNat heq
        rw [UInt64.toNat_add, UInt64.toNat_one] at this
        have := e.queue.completedSegments.toNat_lt
        omega
      refine ⟨fun heq => absurd heq hmore, fun _ => ⟨hnext.of_agrees hagrees, segment, ?_, before,
        hbefore, fun a ha => ?_⟩⟩
      · rw [MotionQueue.front, if_neg (Nat.ne_of_gt hsize), hsegment]
        rfl
      · rw [← htracked.axisCount] at ha
        rw [hagrees.positionSteps, hagrees.emittedSteps, hposition, hemitted]
        exact (hprogress a ha).complete (hall hdone.2 a ha)
    split_ifs
    · exact hspec _ (stopOutputs_agrees (e'.withQueue q))
    · exact hspec _ (.refl q)
  · -- The segment is overdue.
    have hunderrun : MotionFault.underrun ≠ .none := nofun
    refine TickSpec.of_abort hsame htracked.axisCount hunderrun ?_
    exact ⟨⟨rfl, rfl, rfl, rfl, rfl, rfl⟩, rfl, rfl, rfl, rfl, rfl⟩
  -- The segment goes on, and is tracked as before.
  · exact .of_tracked hunder hsame.completedSegments

/-- The segment at the front whose time has come is underway once it is opened: it starts now, or it
has started before. -/
theorem openSegment_underway {segment : MotionSegment} {checked e' : Executor W}
    (htracked : e.queue.Tracked config n started) (hfault : e.queue.fault = .none)
    (hqueue : checked.queue = e.queue) (hfront : e.queue.front = some segment)
    (hdue : e.queue.state = .armed → segment.startTimeNs ≤ nowNs)
    (h : openSegment io segment checked = .ok e') :
    ∃ before ∈ e.queue.startedBy started nowNs, e.Underway segment before e' := by
  have hchecked : e.queue.SameSegments checked.queue := hqueue ▸ .refl _
  obtain ⟨hsize, hsegment⟩ := MotionQueue.front_eq_some hfront
  unfold openSegment at h
  rw [hqueue] at h
  by_cases harmed : e.queue.state = .armed
  · rw [if_pos harmed] at h
    have hstarts : e.queue.starts nowNs := ⟨hfault, harmed, segment, hfront, hdue harmed⟩
    -- Started before, without having moved, or started now.
    have hbefore : ∃ before ∈ e.queue.startedBy started nowNs, ∀ a < n,
        e.queue.positionSteps a = before.positionSteps a ∧
          e.queue.emittedSteps a = before.emittedSteps a := by
      unfold MotionQueue.startedBy
      cases hstarted : started with
      | some before => exact ⟨before, rfl, htracked.armed harmed before hstarted⟩
      | none => exact ⟨e.queue, by rw [if_pos hstarts]; rfl, fun _ _ => ⟨rfl, rfl⟩⟩
    obtain ⟨before, hmem, hmoved⟩ := hbefore
    rw [← htracked.axisCount, ← hqueue] at hmoved
    obtain ⟨hsame, hstate, hprogress⟩ := startSegment_spec h hmoved
    rw [hqueue] at hprogress
    exact ⟨before, hmem, hchecked.trans hsame, hstate, hprogress⟩
  · rw [if_neg harmed] at h
    obtain rfl := Except.ok.inj h
    have hrunning := (htracked.nonempty hsize).resolve_left harmed
    have hstill : ¬ e.queue.starts nowNs := fun hstarts => harmed hstarts.2.1
    obtain ⟨before, hmem, hprogress⟩ := htracked.running hrunning
    rw [hsegment] at hprogress
    refine ⟨before, by rwa [startedBy_of_not_starts hstill], hchecked, hqueue ▸ hrunning, ?_⟩
    rw [hqueue, htracked.axisCount]
    exact hprogress

variable (io nowNs) in
/-- The part of the tick behind the check of the fault, in terms of the segment under way. -/
theorem runTick_spec (htracked : e.queue.Tracked config n started)
    (hfault : e.queue.fault = .none) :
    match runTick config io e nowNs with
    | .ok result => e.TickSpec config n (e.queue.startedBy started nowNs) result.2
    | .error exit => e.Aborts exit := by
  unfold runTick
  cases hlimits : (List.range e.queue.axisCount.toNat).foldlM (checkLimit io) e with
  | error exit =>
    refine loop_aborts id (fun _ _ _ hstep => ?_) (fun _ _ _ => checkLimit_aborts) hlimits
    rw [id, id, checkLimit_queue hstep]
    exact .refl _
  | ok checked =>
  have hqueue := checkLimits_queue hlimits
  have hchecked : e.queue.SameSegments checked.queue := hqueue ▸ .refl _
  simp only [bind, Except.bind]
  rw [hqueue]
  cases hfront : e.queue.front with
  | none =>
    -- No segment: nothing starts.
    have hstill : ¬ e.queue.starts nowNs := by
      rintro ⟨-, -, segment, hsegment, -⟩
      rw [hfront] at hsegment
      exact absurd hsegment (by simp)
    have hagrees : e.queue.Agrees (stopOutputs io checked).queue :=
      hqueue ▸ stopOutputs_agrees checked
    rw [startedBy_of_not_starts hstill]
    exact .of_tracked (htracked.of_agrees hagrees) hagrees.completedSegments
  | some segment =>
  obtain ⟨hsize, hsegment⟩ := MotionQueue.front_eq_some hfront
  dsimp only
  by_cases hwait : e.queue.state = .armed ∧ nowNs < segment.startTimeNs
  · -- Too early.
    have hstill : ¬ e.queue.starts nowNs := by
      rintro ⟨-, -, segment', hsegment', hle⟩
      rw [hfront] at hsegment'
      obtain rfl := Option.some.inj hsegment'
      exact UInt64.not_lt.2 hle hwait.2
    rw [if_pos hwait, startedBy_of_not_starts hstill]
    refine .of_tracked ?_ hchecked.completedSegments
    show checked.queue.Tracked config n started
    rw [hqueue]
    exact htracked
  rw [if_neg hwait]
  rw [not_and, UInt64.not_lt] at hwait
  -- The segment is started, or it has been.
  cases hopen : openSegment io segment checked with
  | error exit =>
    unfold openSegment at hopen
    split_ifs at hopen
    exact (startSegment_aborts hopen).after hchecked
  | ok opened =>
  obtain ⟨before, hmem, hunder⟩ := openSegment_underway htracked hfault hqueue hfront hwait hopen
  dsimp only
  cases hemit : emitSteps io segment opened nowNs with
  | error exit => exact (emitSteps_aborts hemit).after hunder.same
  | ok emitted =>
  obtain ⟨e', allEmitted⟩ := emitted
  obtain ⟨hsame, hstate, hprogress, hall⟩ := emitSteps_spec hemit (by
    rw [hunder.same.axisCount]; exact hunder.progress)
  rw [hunder.same.axisCount] at hprogress hall
  exact finishTick_spec ⟨hunder.same.trans hsame, hstate.trans hunder.state, hprogress⟩ htracked
    hsize hsegment hfault hmem hall

variable (io nowNs) in
/-- A tick of a tracked queue completes no segment, or one whose steps the axes have moved by. -/
theorem tick_spec (htracked : e.queue.Tracked config n started) :
    e.TickSpec config n (e.queue.startedBy started nowNs) (tick config io e nowNs).2 := by
  unfold tick
  split_ifs with hfault
  · have hstill : ¬ e.queue.starts nowNs := fun hstarts => hfault hstarts.1
    have hagrees : e.queue.Agrees (stopOutputs io e).queue := stopOutputs_agrees e
    rw [startedBy_of_not_starts hstill]
    exact .of_tracked (htracked.of_agrees hagrees) hagrees.completedSegments
  · have hrun := runTick_spec io nowNs htracked (not_not.1 hfault)
    cases htick : runTick config io e nowNs with
    | ok result => rw [htick] at hrun; exact hrun
    | error exit =>
      rw [htick] at hrun
      exact .of_abort hrun.same htracked.axisCount hrun.fault (.refl _)

end Executor

/-! ## Runs -/

/-- A call of the motion queue's functions, or a change of the world outside. -/
inductive MotionOp (W : Type)
  /-- `rbsp_motion_enqueue`, of a requested segment at some time. -/
  | enqueue (requested : MotionSegment) (nowNs : UInt64)
  /-- `rbsp_motion_tick`, from the timer. -/
  | tick (nowNs : UInt64)
  /-- `rbsp_motion_abort`, with a fault to be latched. -/
  | abort (fault : MotionFault)
  /-- `rbsp_motion_clear_fault`, at some time. -/
  | clearFault (nowNs : UInt64)
  /-- `rbsp_motion_complete_front`, called from outside the tick. -/
  | completeFront
  /-- The world behind the callbacks changes. -/
  | environment (world : W)

/-- An executor with what it was like when the segment under way started. -/
structure Observer (W : Type) where
  /-- The executor that is observed. -/
  executor : Executor W
  /-- The queue just before the tick that first started the segment at the front. -/
  started : Option MotionQueue

/-- A tick has completed a segment. -/
structure Completion where
  /-- The segment at the front before the tick. -/
  segment : Option MotionSegment
  /-- The queue just before the tick that first started the segment. -/
  started : Option MotionQueue
  /-- The queue behind the tick that completed the segment. -/
  after : MotionQueue

/-- Every axis has moved by exactly the steps of the segment. -/
def Completion.Exact (completion : Completion) : Prop :=
  ∃ segment ∈ completion.segment, ∃ before ∈ completion.started,
    ∀ a < completion.after.axisCount.toNat,
      completion.after.positionSteps a = before.positionSteps a + (segment.steps a).toInt ∧
        completion.after.emittedSteps a =
          before.emittedSteps a + absoluteSteps (segment.steps a)

/-- The motion queue under observation, as a machine. It reports the segments that a tick
completes. -/
def motion {W : Type} (config : MotionConfig) (io : MotionIo W) :
    Machine (Observer W) (MotionOp W) (Option Completion) where
  step observer op :=
    let executor := observer.executor
    let queue := executor.queue
    match op with
    | .enqueue requested nowNs =>
      (⟨executor.withQueue (queue.enqueue config requested nowNs).2.2, observer.started⟩, none)
    | .tick nowNs =>
      let started := queue.startedBy observer.started nowNs
      let executor := (executor.tick config io nowNs).2
      if executor.queue.completedSegments = queue.completedSegments then
        (⟨executor, if executor.queue.size = 0 then none else started⟩, none)
      else (⟨executor, none⟩, some ⟨queue.front, started, executor.queue⟩)
    | .abort fault =>
      let queue := queue.abort fault
      (⟨executor.withQueue queue, if queue.size = 0 then none else observer.started⟩, none)
    | .clearFault nowNs => (⟨executor.withQueue (queue.clearFault nowNs).2, observer.started⟩, none)
    | .completeFront =>
      match queue.completeFront config with
      | (true, queue) => (⟨executor.withQueue queue, none⟩, none)
      | (false, queue) => (⟨executor.withQueue queue, observer.started⟩, none)
    | .environment world => (⟨{ executor with world := world }, observer.started⟩, none)

/-- A segment is accepted while the front segment is running and has emitted steps. -/
def RestartsEmitting {W : Type} (config : MotionConfig) (observer : Observer W) (op : MotionOp W) :
    Prop :=
  match op with
  | .enqueue requested nowNs =>
    observer.executor.queue.state = .running ∧
      (∃ a < observer.executor.queue.axisCount.toNat,
        observer.executor.queue.activeEmitted a ≠ 0) ∧
      (observer.executor.queue.validate config requested nowNs).isOk = true
  | _ => False

instance {W : Type} (config : MotionConfig) (observer : Observer W) (op : MotionOp W) :
    Decidable (RestartsEmitting config observer op) :=
  match op with
  | .enqueue _ _ => inferInstanceAs (Decidable (_ ∧ _))
  | .tick _ | .abort _ | .clearFault _ | .completeFront | .environment _ =>
    inferInstanceAs (Decidable False)

/-- Where no completion is reported, all are exact. -/
theorem Completion.exact_of_none :
    ∀ completion ∈ (none : Option Completion), completion.Exact :=
  fun _ hmem => absurd hmem (Option.not_mem_none _)

/-- One call keeps the queue tracked, and what it reports is exact. -/
theorem motion_step {W : Type} {config : MotionConfig} {io : MotionIo W} {n : ℕ}
    {observer : Observer W} {op : MotionOp W}
    (h : observer.executor.queue.Tracked config n observer.started)
    (hrestart : ¬ RestartsEmitting config observer op) :
    (((motion config io).step observer op).1.executor.queue.Tracked config n
        ((motion config io).step observer op).1.started) ∧
      ∀ completion ∈ ((motion config io).step observer op).2, completion.Exact := by
  simp only [motion]
  cases op with
  -- A segment that is accepted does not disturb the one that is running.
  | enqueue requested nowNs =>
    refine ⟨h.enqueue fun hrunning hok a ha => ?_, Completion.exact_of_none⟩
    by_contra hne
    exact hrestart ⟨hrunning, ⟨a, h.axisCount ▸ ha, hne⟩, hok⟩
  | tick nowNs =>
    -- A tick reports the segment that it completes.
    have hspec := Executor.tick_spec io nowNs h
    dsimp only
    by_cases hcompleted :
        (Executor.tick config io observer.executor nowNs).2.queue.completedSegments =
          observer.executor.queue.completedSegments
    · rw [if_pos hcompleted]
      exact ⟨hspec.going hcompleted, Completion.exact_of_none⟩
    · rw [if_neg hcompleted]
      obtain ⟨htracked, segment, hsegment, before, hbefore, hexact⟩ := hspec.done hcompleted
      refine ⟨htracked, fun completion hmem => ?_⟩
      obtain rfl := Option.some.inj hmem
      exact ⟨segment, hsegment, before, hbefore, fun a ha =>
        hexact a (htracked.axisCount ▸ ha)⟩
  -- An abort drops the queue, or changes nothing.
  | abort fault =>
    refine ⟨?_, Completion.exact_of_none⟩
    show (observer.executor.queue.abort fault).Tracked config n
      (if (observer.executor.queue.abort fault).size = 0 then none else observer.started)
    by_cases hfault : fault = .none
    · rw [MotionQueue.abort, if_pos hfault]
      split_ifs with hsize
      · exact (h.empty hsize).1 ▸ h
      · exact h
    · rw [if_pos (by rw [MotionQueue.abort, if_neg hfault])]
      exact MotionQueue.tracked_abort h.axisCount hfault
  | clearFault nowNs => exact ⟨h.clearFault nowNs, Completion.exact_of_none⟩
  | completeFront =>
    dsimp only
    by_cases hidle : observer.executor.queue.size = 0 ∨ observer.executor.queue.fault ≠ .none
    · rw [MotionQueue.completeFront, if_pos hidle]
      exact ⟨h, Completion.exact_of_none⟩
    -- A segment that is completed from outside is not reported.
    · rw [not_or, not_not] at hidle
      obtain ⟨hdone, htracked, -⟩ := MotionQueue.completeFront_spec h.axisCount
        (Nat.pos_of_ne_zero hidle.1) h.size_le hidle.2
      generalize observer.executor.queue.completeFront config = completed at *
      obtain ⟨done, queue⟩ := completed
      subst hdone
      exact ⟨htracked, Completion.exact_of_none⟩
  | environment world => exact ⟨h, Completion.exact_of_none⟩

/-- In every run from `rbsp_motion_init` in which no segment is accepted while the front segment has
emitted steps, a tick that completes a segment leaves every axis moved by exactly its steps, since
just before the tick that first started it. The outputs may fail or hit a limit. -/
theorem completed_segment_exact {W : Type} (config : MotionConfig) (io : MotionIo W)
    (axisCount : UInt8) (queue : MotionQueue)
    (hinit : MotionQueue.init config axisCount = some queue) (world : W)
    (ops : List (MotionOp W))
    (hrestart : (motion config io).Along (fun observer op => ¬ RestartsEmitting config observer op)
      ⟨⟨queue, world⟩, none⟩ ops) :
    ∀ outcome ∈ (motion config io).outcomes ⟨⟨queue, world⟩, none⟩ ops,
      ∀ completion ∈ outcome, completion.Exact := by
  have hdepth := config.two_le_queueDepth
  refine (motion config io).outcomes_induction_of
    (P := fun observer =>
      observer.executor.queue.Tracked config axisCount.toNat observer.started)
    (fun observer op h hop => motion_step h hop) ?_ hrestart
  unfold MotionQueue.init at hinit
  split_ifs at hinit
  obtain rfl := Option.some.inj hinit
  refine ⟨rfl, ?_, Nat.zero_le _, fun _ => rfl, fun _ => ⟨rfl, nofun⟩, fun hpos => ?_, nofun, nofun⟩
  · show 0 < config.queueDepth
    omega
  · exact absurd hpos (Nat.lt_irrefl 0)

/-! ## Two steps on one axis -/

/-- A configuration of the firmware's tests. -/
def testMotionConfig : MotionConfig :=
  ⟨4, 3, 1000, 100000, by decide, by decide, by decide, by decide, by decide, by decide⟩

/-- Outputs that always succeed, and no limit switches. -/
def steadyIo : MotionIo Unit :=
  ⟨fun _ _ _ => (true, ()), fun _ _ _ => (true, ()), fun _ _ _ => (true, ()), none⟩

/-- The state after `rbsp_motion_init` for one axis. -/
def oneAxis : Observer Unit :=
  ⟨⟨{ MotionQueue.zero with axisCount := 1, state := .idle }, ()⟩, none⟩

/-- A segment of two steps of the first axis. -/
def twoSteps (sequence : UInt32) (startTimeNs : UInt64) (finalSegment : Bool) : MotionSegment :=
  ⟨sequence, startTimeNs, 100000, 1, finalSegment, fun axis => if axis = 0 then 2 else 0⟩

/-- One segment of two steps is completed. -/
theorem completed_segment_exact_two_steps :
    ((motion testMotionConfig steadyIo).outcomes oneAxis
        [.enqueue (twoSteps 1 1000000 true) 0, .tick 1050000, .tick 1060000, .tick 1100000,
          .tick 1110000]).countP Option.isSome = 1 ∧
      ∀ outcome ∈ (motion testMotionConfig steadyIo).outcomes oneAxis
        [.enqueue (twoSteps 1 1000000 true) 0, .tick 1050000, .tick 1060000, .tick 1100000,
          .tick 1110000], ∀ completion ∈ outcome, completion.Exact :=
  ⟨by decide +kernel,
    completed_segment_exact testMotionConfig steadyIo 1 _ rfl () _ (by decide +kernel)⟩

/-- A segment of two steps of the first axis, within ten milliseconds. -/
def twoSlowSteps (sequence : UInt32) (startTimeNs : UInt64) (finalSegment : Bool) : MotionSegment :=
  { twoSteps sequence startTimeNs finalSegment with durationNs := 10000000 }

/-- The first segment makes its first step at 6 ms. The second one is accepted at the time of the
last tick, and is to start when the first one ends. -/
def enqueueBetweenSteps : List (MotionOp Unit) :=
  [.enqueue (twoSlowSteps 1 1000000 false) 0, .tick 6000000, .tick 6010000,
    .enqueue (twoSlowSteps 2 11000000 true) 6010000, .tick 6020000, .tick 6030000,
    .tick 11000000, .tick 11010000]

/-- A second segment is accepted after the first step of the first one. The first segment then
moves the axis by three steps. -/
theorem enqueue_repeats_steps :
    ¬ ∀ outcome ∈ (motion testMotionConfig steadyIo).outcomes oneAxis enqueueBetweenSteps,
      ∀ completion ∈ outcome, completion.Exact := by
  intro h
  -- The position before the start, the position at the end, and the steps of the segment.
  have hrun : some (some (0 : ℤ), ((3 : ℤ), (1 : UInt8)), some (2 : Int32)) ∈
      ((motion testMotionConfig steadyIo).outcomes oneAxis enqueueBetweenSteps).map fun outcome =>
        outcome.map fun completion => (completion.started.map fun queue => queue.positionSteps 0,
          (completion.after.positionSteps 0, completion.after.axisCount),
          completion.segment.map fun segment => segment.steps 0) := by
    decide +kernel
  obtain ⟨outcome, hmem, houtcome⟩ := List.mem_map.1 hrun
  obtain ⟨completion, rfl, hcompletion⟩ := Option.map_eq_some_iff.1 houtcome
  obtain ⟨segment, hsegment, before, hbefore, hexact⟩ := h _ hmem completion rfl
  rw [hsegment, hbefore] at hcompletion
  simp only [Option.map_some, Prod.mk.injEq, Option.some.injEq] at hcompletion
  obtain ⟨hstart, ⟨hend, haxes⟩, hsteps⟩ := hcompletion
  have hmoved := (hexact 0 (by rw [haxes]; decide)).1
  rw [hstart, hend, hsteps] at hmoved
  exact absurd hmoved (by decide)

end RemoteBSP.Firmware
