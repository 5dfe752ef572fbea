import RemoteBSP.Lib.Loop
import Mathlib.Logic.Function.Basic
import Mathlib.Tactic

/-!
# The motion queue of the firmware

`firmware/src/motion.c`: a ring buffer of motion segments, and the timer tick that turns the segment
at its front into step pulses on the axes. The arrays of the C structures are functions of the
index. The outputs are driven through the callbacks of `rbsp_motion_io_t`, which here act on a world
of an arbitrary type; a callback that fails stops the motion.

A loop over the axes that may abort the motion is a fold in `Except`, whose error carries the fault,
what `rbsp_motion_tick` then returns, and the state so far.
-/

namespace RemoteBSP.Firmware

/-- The motion part of the build configuration. -/
structure MotionConfig where
  /-- `CONFIG_MOTION_MAX_AXES`, the axes that the arrays of the queue have room for. -/
  maxAxes : ℕ
  /-- `CONFIG_MOTION_QUEUE_DEPTH`, the segments that the ring has room for. -/
  queueDepth : ℕ
  /-- `CONFIG_MOTION_MIN_LEAD_TIME_US`, by which a segment must be ahead of the clock. -/
  minLeadTimeUs : UInt64
  /-- `CONFIG_MOTION_TIMER_HZ`, the rate of the timer that calls `rbsp_motion_tick`. -/
  timerHz : UInt64
  /-- There is room for an axis. -/
  maxAxes_pos : 1 ≤ maxAxes
  /-- `RBSP_MOTION_PROTOCOL_MAX_AXES`, the axes that a segment on the wire can name. -/
  maxAxes_le : maxAxes ≤ 64
  /-- The queue has at least two places. -/
  two_le_queueDepth : 2 ≤ queueDepth
  /-- The ring has room for no more than 128 segments. -/
  queueDepth_le : queueDepth ≤ 128
  /-- The lead time is no more than a second. -/
  minLeadTimeUs_le : minLeadTimeUs ≤ 1000000
  /-- The timer is neither slower than 1 kHz nor faster than 500 kHz. -/
  timerHz_range : 1000 ≤ timerHz ∧ timerHz ≤ 500000

/-- `rbsp_motion_state_t`, how far the queue has got. -/
inductive MotionState
  | idle
  | armed
  | running
  | faulted
deriving DecidableEq, Repr

/-- `rbsp_motion_fault_t`, what stopped the motion. -/
inductive MotionFault
  | none
  | aborted
  | limit
  | underrun
deriving DecidableEq, Repr

/-- `rbsp_motion_enqueue_result_t`, the reasons for which a segment is refused. -/
inductive EnqueueResult
  | ok
  | invalid
  | sequence
  | late
  | discontinuous
  | full
  | faulted
deriving DecidableEq, Repr

/-- `rbsp_motion_segment_t`, a stretch of motion of all axes at constant speeds. -/
structure MotionSegment where
  /-- The number of the segment, one more than that of the segment before it. -/
  sequence : UInt32
  /-- When the motion starts, zero for as soon as possible. -/
  startTimeNs : UInt64
  /-- How long the motion takes. The next segment starts when it ends. -/
  durationNs : UInt64
  /-- The number of axes whose steps the segment gives. -/
  axisCount : UInt8
  /-- The motion ends with this segment. -/
  finalSegment : Bool
  /-- The steps of each axis, with their sign. -/
  steps : ℕ → Int32

/-- `rbsp_motion_queue_t`: the ring of segments, the one under way, the outputs and the counters. -/
structure MotionQueue where
  /-- The buffer of the ring, by index. -/
  segments : ℕ → MotionSegment
  /-- The number of the axes in use. -/
  axisCount : UInt8
  /-- The index of the front in the buffer. -/
  head : ℕ
  /-- The number of the segments in the buffer. -/
  size : ℕ
  /-- The sequence of the last segment accepted. -/
  lastAcceptedSequence : UInt32
  /-- The sequence of the last segment completed. -/
  lastCompletedSequence : UInt32
  /-- The end of the last segment accepted. -/
  nextAvailableTimeNs : UInt64
  /-- How far the queue has got. -/
  state : MotionState
  /-- What stopped the motion, until `rbsp_motion_clear_fault`. -/
  fault : MotionFault
  /-- The steps emitted of the active segment, by axis. -/
  activeEmitted : ℕ → UInt64
  /-- The phase of the DDA, in steps times nanoseconds, by axis. -/
  activePhase : ℕ → UInt64
  /-- The time up to which the phase has advanced. -/
  activeLastTickNs : UInt64
  /-- The steps ever emitted, by axis. -/
  emittedSteps : ℕ → UInt64
  /-- The position of each axis, in steps. -/
  positionSteps : ℕ → ℤ
  /-- The level of the step output, by axis. -/
  stepHigh : ℕ → Bool
  /-- Whether the driver is enabled, by axis. -/
  enabled : ℕ → Bool
  /-- The level of the direction output, by axis. -/
  directionPositive : ℕ → Bool
  /-- How many segments have been accepted. -/
  acceptedSegments : UInt64
  /-- How many segments have been refused, for those reasons that are counted. -/
  rejectedSegments : UInt64
  /-- How many segments have been executed to their end. -/
  completedSegments : UInt64
  /-- How many changes of outputs the tick has counted. -/
  emittedEdges : UInt64
  /-- How many faults have stopped the motion. -/
  safetyStops : UInt64
  /-- How many of them were limit switches. -/
  limitStops : UInt64
  /-- How often the queue ran empty behind a segment that was not the final one. -/
  queueUnderruns : UInt64
  /-- The most segments that the queue has held at once. -/
  maximumQueueDepth : ℕ

/-- `rbsp_motion_io_t`. A callback returns whether it succeeds. -/
structure MotionIo (W : Type) where
  /-- Enables or disables the driver of an axis. -/
  setEnable : W → ℕ → Bool → Bool × W
  /-- Sets the direction output of an axis. -/
  setDirection : W → ℕ → Bool → Bool × W
  /-- Raises or lowers the step output of an axis. -/
  setStep : W → ℕ → Bool → Bool × W
  /-- Reads a limit switch, if there are any: whether it succeeds, and the switch. -/
  limitActive : Option (W → ℕ → (Bool × Bool) × W)

/-- The segment of zeros that `memset` leaves in a place of the ring. -/
def MotionSegment.zero : MotionSegment := ⟨0, 0, 0, 0, false, fun _ => 0⟩

/-- `minimum_start_time`: the lead time from now, or the end of the clock. -/
def minimumStartTime (config : MotionConfig) (nowNs : UInt64) : UInt64 :=
  let leadNs := config.minLeadTimeUs * 1000
  if 0xFFFFFFFFFFFFFFFF - nowNs < leadNs then 0xFFFFFFFFFFFFFFFF else nowNs + leadNs

/-- `absolute_steps`: the number of steps without the sign, also of the least `int32_t`. -/
def absoluteSteps (steps : Int32) : UInt64 := UInt64.ofNat steps.toInt.natAbs

/-- `maximum_steps_for_duration`: one step in two periods of the timer. -/
def maximumStepsForDuration (config : MotionConfig) (durationNs : UInt64) : UInt64 :=
  let wholeSeconds := durationNs / 1000000000
  let remainderNs := durationNs % 1000000000
  let halfRate := config.timerHz / 2
  if wholeSeconds > 0xFFFFFFFFFFFFFFFF / halfRate then 0xFFFFFFFFFFFFFFFF
  else
    let whole := wholeSeconds * halfRate
    let fraction := remainderNs * config.timerHz / 2000000000
    if 0xFFFFFFFFFFFFFFFF - whole < fraction then 0xFFFFFFFFFFFFFFFF else whole + fraction

namespace MotionQueue

/-- The queue of zeros that `memset` leaves. -/
def zero : MotionQueue where
  segments _ := .zero
  axisCount := 0
  head := 0
  size := 0
  lastAcceptedSequence := 0
  lastCompletedSequence := 0
  nextAvailableTimeNs := 0
  state := .idle
  fault := .none
  activeEmitted _ := 0
  activePhase _ := 0
  activeLastTickNs := 0
  emittedSteps _ := 0
  positionSteps _ := 0
  stepHigh _ := false
  enabled _ := false
  directionPositive _ := false
  acceptedSegments := 0
  rejectedSegments := 0
  completedSegments := 0
  emittedEdges := 0
  safetyStops := 0
  limitStops := 0
  queueUnderruns := 0
  maximumQueueDepth := 0

/-- `rbsp_motion_init`, which refuses a number of axes that there is no room for. -/
def init (config : MotionConfig) (axisCount : UInt8) : Option MotionQueue :=
  if axisCount = 0 ∨ axisCount.toNat > config.maxAxes then none
  else some { zero with axisCount := axisCount, state := .idle }

/-- `tail_index`, the place behind the last segment. -/
def tailIndex (config : MotionConfig) (queue : MotionQueue) : ℕ :=
  (queue.head + queue.size) % config.queueDepth

/-- Whether `rbsp_motion_enqueue` takes the steps of an axis to be possible in the duration. -/
def stepsPossible (config : MotionConfig) (requested : MotionSegment) (axis : ℕ) : Bool :=
  let steps := absoluteSteps (requested.steps axis)
  !(steps > maximumStepsForDuration config requested.durationNs ||
    (steps != 0 && requested.durationNs > 0xFFFFFFFFFFFFFFFF / steps))

/-- The checks of `rbsp_motion_enqueue`. An error is the result, and whether the rejection is
counted; otherwise it is the time at which the segment starts. -/
def validate (config : MotionConfig) (queue : MotionQueue) (requested : MotionSegment)
    (nowNs : UInt64) : Except (EnqueueResult × Bool) UInt64 := do
  if requested.sequence = 0 ∨ requested.durationNs = 0 ∨ requested.axisCount ≠ queue.axisCount ∨
      0xFFFFFFFFFFFFFFFF - requested.startTimeNs < requested.durationNs then
    throw (.invalid, false)
  if !(List.range queue.axisCount.toNat).all (stepsPossible config requested) then
    throw (.invalid, true)
  if queue.fault ≠ .none then
    throw (.faulted, true)
  if queue.size ≥ config.queueDepth then
    throw (.full, true)
  if requested.sequence ≠ queue.lastAcceptedSequence + 1 then
    throw (.sequence, false)
  if queue.size > 0 ∧
      (queue.segments ((queue.head + queue.size - 1) % config.queueDepth)).finalSegment then
    throw (.invalid, false)
  let earliest := minimumStartTime config nowNs
  if requested.startTimeNs ≠ 0 ∧ requested.startTimeNs < earliest then
    throw (.late, false)
  let startTimeNs :=
    if requested.startTimeNs = 0 then
      if queue.nextAvailableTimeNs > earliest then queue.nextAvailableTimeNs else earliest
    else requested.startTimeNs
  if queue.size > 0 ∧ startTimeNs ≠ queue.nextAvailableTimeNs then
    throw (.discontinuous, false)
  if 0xFFFFFFFFFFFFFFFF - startTimeNs < requested.durationNs then
    throw (.invalid, false)
  return startTimeNs

/-- `rbsp_motion_enqueue`: the result, the segment accepted if there is one, and the queue. -/
def enqueue (config : MotionConfig) (queue : MotionQueue) (requested : MotionSegment)
    (nowNs : UInt64) : EnqueueResult × Option MotionSegment × MotionQueue :=
  match queue.validate config requested nowNs with
  | .error (result, counted) =>
    (result, none,
      if counted then { queue with rejectedSegments := queue.rejectedSegments + 1 } else queue)
  | .ok startTimeNs =>
    let value := { requested with startTimeNs := startTimeNs }
    (.ok, some value,
      { queue with
        segments := Function.update queue.segments (queue.tailIndex config) value
        size := queue.size + 1
        lastAcceptedSequence := value.sequence
        nextAvailableTimeNs := value.startTimeNs + value.durationNs
        state := .armed
        acceptedSegments := queue.acceptedSegments + 1
        maximumQueueDepth := max queue.maximumQueueDepth (queue.size + 1) })

/-- `rbsp_motion_front`, the segment that is under way or comes next. -/
def front (queue : MotionQueue) : Option MotionSegment :=
  if queue.size = 0 then none else some (queue.segments queue.head)

/-- The segment at the head of a ring that is not empty. -/
theorem front_eq_some {queue : MotionQueue} {segment : MotionSegment}
    (h : queue.front = some segment) :
    0 < queue.size ∧ queue.segments queue.head = segment := by
  unfold front at h
  split at h
  · cases h
  · next hsize => exact ⟨Nat.pos_of_ne_zero hsize, Option.some.inj h⟩

/-- `rbsp_motion_complete_front`: the front leaves the ring, and an empty ring is a fault unless
that was the final segment. -/
def completeFront (config : MotionConfig) (queue : MotionQueue) : Bool × MotionQueue :=
  if queue.size = 0 ∨ queue.fault ≠ .none then (false, queue)
  else
    let finalSegment := (queue.segments queue.head).finalSegment
    let queue := { queue with
      lastCompletedSequence := (queue.segments queue.head).sequence
      segments := Function.update queue.segments queue.head .zero
      head := (queue.head + 1) % config.queueDepth
      size := queue.size - 1 }
    let queue :=
      if finalSegment then { queue with size := 0, state := .idle }
      else if queue.size = 0 then
        { queue with
          state := .faulted
          fault := .underrun
          queueUnderruns := queue.queueUnderruns + 1
          safetyStops := queue.safetyStops + 1 }
      else { queue with state := .armed }
    (true, { queue with completedSegments := queue.completedSegments + 1 })

/-- `rbsp_motion_abort`: the ring is emptied, and the fault latched. -/
def abort (queue : MotionQueue) (fault : MotionFault) : MotionQueue :=
  if fault = .none then queue
  else { queue with
    segments := fun _ => .zero
    head := 0
    size := 0
    state := .faulted
    fault := fault
    safetyStops := queue.safetyStops + 1
    limitStops := if fault = .limit then queue.limitStops + 1 else queue.limitStops }

/-- `rbsp_motion_clear_fault`, which an empty queue permits. -/
def clearFault (queue : MotionQueue) (nowNs : UInt64) : Bool × MotionQueue :=
  if queue.size ≠ 0 then (false, queue)
  else (true, { queue with fault := .none, state := .idle, nextAvailableTimeNs := nowNs })

end MotionQueue

/-! ## The tick -/

/-- The queue and the world that its outputs act on. -/
structure Executor (W : Type) where
  /-- The queue that the tick works on. -/
  queue : MotionQueue
  /-- What lies behind the callbacks. -/
  world : W

/-- A step of the tick aborts the motion: the fault, and what `rbsp_motion_tick` returns. -/
structure Stop where
  /-- The fault that a failed callback or a limit makes, if it makes any. -/
  fault : MotionFault
  /-- The value that the tick returns. -/
  result : Bool
deriving DecidableEq, Repr

namespace Executor

variable {W : Type} (config : MotionConfig) (io : MotionIo W)

/-- The executor with its queue replaced, and the same world. -/
def withQueue (executor : Executor W) (queue : MotionQueue) : Executor W :=
  { executor with queue := queue }

/-- `set_segment_enabled`, the iteration for one axis. -/
def setAxisEnabled (segment : MotionSegment) (executor : Executor W) (axis : ℕ) :
    Except (Stop × Executor W) (Executor W) :=
  let enabled := segment.steps axis != 0
  if executor.queue.enabled axis = enabled then .ok executor
  else
    match io.setEnable executor.world axis enabled with
    | (false, world) => .error (⟨.aborted, false⟩, { executor with world := world })
    | (true, world) =>
      .ok ⟨{ executor.queue with
        enabled := Function.update executor.queue.enabled axis enabled }, world⟩

/-- `stop_outputs`, the iteration for one axis. -/
def stopAxis (executor : Executor W) (axis : ℕ) : Executor W :=
  let executor :=
    if executor.queue.stepHigh axis then
      { queue := { executor.queue with
          stepHigh := Function.update executor.queue.stepHigh axis false
          emittedEdges := executor.queue.emittedEdges + 1 }
        world := (io.setStep executor.world axis false).2 }
    else executor
  if executor.queue.enabled axis then
    { queue := { executor.queue with
        enabled := Function.update executor.queue.enabled axis false }
      world := (io.setEnable executor.world axis false).2 }
  else executor

/-- `stop_outputs`, over the axes in use. -/
def stopOutputs (executor : Executor W) : Executor W :=
  (List.range executor.queue.axisCount.toNat).foldl (stopAxis io) executor

/-- The check of the limit switch of one axis. -/
def checkLimit (executor : Executor W) (axis : ℕ) : Except (Stop × Executor W) (Executor W) :=
  match io.limitActive with
  | none => .ok executor
  | some limitActive =>
    match limitActive executor.world axis with
    | ((false, _), world) => .error (⟨.aborted, false⟩, { executor with world := world })
    | ((true, active), world) =>
      if active ∧ executor.queue.state = .running then
        .error (⟨.limit, true⟩, { executor with world := world })
      else .ok { executor with world := world }

/-- Sets the direction of one axis for a segment that starts. -/
def setAxisDirection (segment : MotionSegment) (executor : Executor W) (axis : ℕ) :
    Except (Stop × Executor W) (Executor W) :=
  let positive : Bool := segment.steps axis ≥ 0
  match io.setDirection executor.world axis positive with
  | (false, world) => .error (⟨.aborted, false⟩, { executor with world := world })
  | (true, world) =>
    .ok ⟨{ executor.queue with
      directionPositive := Function.update executor.queue.directionPositive axis positive }, world⟩

/-- The start of the segment at the front. -/
def startSegment (segment : MotionSegment) (executor : Executor W) :
    Except (Stop × Executor W) (Executor W) := do
  let executor := executor.withQueue { executor.queue with
    activeEmitted := fun _ => 0
    activePhase := fun _ => 0
    activeLastTickNs := segment.startTimeNs }
  let axes := List.range executor.queue.axisCount.toNat
  let executor ← axes.foldlM (setAxisDirection io segment) executor
  let executor ← axes.foldlM (setAxisEnabled io segment) executor
  return executor.withQueue { executor.queue with state := .running }

/-- Starts the segment at the front, unless it is running. -/
def openSegment (segment : MotionSegment) (executor : Executor W) :
    Except (Stop × Executor W) (Executor W) :=
  if executor.queue.state = .armed then startSegment io segment executor else .ok executor

/-- Ends the step pulse of an axis. -/
def lowerStep (executor : Executor W) (axis : ℕ) : Except (Stop × Executor W) (Executor W) :=
  if executor.queue.stepHigh axis then
    match io.setStep executor.world axis false with
    | (false, world) => .error (⟨.aborted, false⟩, { executor with world := world })
    | (true, world) =>
      .ok ⟨{ executor.queue with
        stepHigh := Function.update executor.queue.stepHigh axis false
        emittedEdges := executor.queue.emittedEdges + 1 }, world⟩
  else .ok executor

/-- Advances the phase of an axis. -/
def advancePhase (segment : MotionSegment) (deltaNs : UInt64) (executor : Executor W) (axis : ℕ) :
    Except (Stop × Executor W) (Executor W) :=
  let target := absoluteSteps (segment.steps axis)
  if target ≠ 0 ∧ deltaNs ≠ 0 then
    let increment := target * deltaNs
    if 0xFFFFFFFFFFFFFFFF - executor.queue.activePhase axis < increment then
      .error (⟨.underrun, false⟩, executor)
    else
      .ok (executor.withQueue { executor.queue with
        activePhase := Function.update executor.queue.activePhase axis
          (executor.queue.activePhase axis + increment) })
  else .ok executor

/-- Begins a step pulse of an axis, if the phase has reached the next step. -/
def raiseStep (segment : MotionSegment) (executor : Executor W) (axis : ℕ) :
    Except (Stop × Executor W) (Executor W) :=
  if executor.queue.activeEmitted axis < absoluteSteps (segment.steps axis) ∧
      executor.queue.activePhase axis ≥ segment.durationNs then
    let queue := { executor.queue with
      activePhase := Function.update executor.queue.activePhase axis
        (executor.queue.activePhase axis - segment.durationNs) }
    match io.setStep executor.world axis true with
    | (false, world) => .error (⟨.aborted, false⟩, ⟨queue, world⟩)
    | (true, world) =>
      .ok ⟨{ queue with
        stepHigh := Function.update queue.stepHigh axis true
        activeEmitted := Function.update queue.activeEmitted axis (queue.activeEmitted axis + 1)
        emittedSteps := Function.update queue.emittedSteps axis (queue.emittedSteps axis + 1)
        emittedEdges := queue.emittedEdges + 1
        positionSteps := Function.update queue.positionSteps axis
          (queue.positionSteps axis + if queue.directionPositive axis then 1 else -1) }, world⟩
  else .ok executor

/-- The loop body of the tick, of one axis. The flag is `all_emitted`. -/
def emitAxis (segment : MotionSegment) (deltaNs : UInt64) (running : Executor W × Bool)
    (axis : ℕ) : Except (Stop × Executor W) (Executor W × Bool) := do
  let executor ← lowerStep io running.1 axis
  let executor ← advancePhase segment deltaNs executor axis
  let executor ← raiseStep io segment executor axis
  if executor.queue.activeEmitted axis ≠ absoluteSteps (segment.steps axis) ∨
      executor.queue.stepHigh axis then
    return (executor, false)
  else return (executor, running.2)

/-- The time passed since the start of a segment. -/
def elapsed (segment : MotionSegment) (nowNs : UInt64) : UInt64 :=
  if nowNs ≤ segment.startTimeNs then 0 else nowNs - segment.startTimeNs

/-- The part of the tick that emits the steps due, with `all_emitted`. -/
def emitSteps (segment : MotionSegment) (executor : Executor W) (nowNs : UInt64) :
    Except (Stop × Executor W) (Executor W × Bool) :=
  let elapsed := elapsed segment nowNs
  let boundedElapsed := if elapsed < segment.durationNs then elapsed else segment.durationNs
  let tickTime := segment.startTimeNs + boundedElapsed
  let deltaNs :=
    if tickTime > executor.queue.activeLastTickNs then
      tickTime - executor.queue.activeLastTickNs
    else 0
  let executor := executor.withQueue { executor.queue with activeLastTickNs := tickTime }
  (List.range executor.queue.axisCount.toNat).foldlM (emitAxis io segment deltaNs)
    (executor, true)

/-- The end of the tick: the segment is completed, or it is overdue. -/
def finishTick (segment : MotionSegment) (executor : Executor W) (allEmitted : Bool)
    (nowNs : UInt64) : Bool × Executor W :=
  let elapsed := elapsed segment nowNs
  if elapsed ≥ segment.durationNs ∧ allEmitted then
    match executor.queue.completeFront config with
    | (false, queue) => (false, executor.withQueue queue)
    | (true, queue) =>
      if segment.finalSegment ∨ queue.fault ≠ .none then
        (true, stopOutputs io (executor.withQueue queue))
      else (true, executor.withQueue queue)
  else if elapsed > segment.durationNs + 1000000000 / config.timerHz then
    let queue := executor.queue.abort .underrun
    (true, stopOutputs io
      (executor.withQueue { queue with queueUnderruns := queue.queueUnderruns + 1 }))
  else (true, executor)

/-- The part of the tick behind the check of the fault. -/
def runTick (executor : Executor W) (nowNs : UInt64) :
    Except (Stop × Executor W) (Bool × Executor W) := do
  let executor ← (List.range executor.queue.axisCount.toNat).foldlM (checkLimit io) executor
  match executor.queue.front with
  | none => return (true, stopOutputs io executor)
  | some segment =>
    if executor.queue.state = .armed ∧ nowNs < segment.startTimeNs then
      return (true, executor)
    let executor ← openSegment io segment executor
    let (executor, allEmitted) ← emitSteps io segment executor nowNs
    return finishTick config io segment executor allEmitted nowNs

/-- `rbsp_motion_tick`: what it returns, and the executor. -/
def tick (executor : Executor W) (nowNs : UInt64) : Bool × Executor W :=
  if executor.queue.fault ≠ .none then (true, stopOutputs io executor)
  else
    match runTick config io executor nowNs with
    | .ok result => result
    | .error (stop, executor) =>
      (stop.result, stopOutputs io (executor.withQueue (executor.queue.abort stop.fault)))

end Executor

end RemoteBSP.Firmware
