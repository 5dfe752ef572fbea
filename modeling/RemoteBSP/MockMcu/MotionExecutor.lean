import Mathlib.Data.List.Sort
import Mathlib.Tactic
import RemoteBSP.Lib.Sort
import RemoteBSP.Protocol.MotionPayload

/-!
# The motion executor of the mock board

`MotionExecutor` of `mock_mcu/src/motion_executor.cpp`: a queue of segments, each of which names
every axis, and the outputs of the axes. Time is in nanoseconds and wraps as the code's does; a
position is an integer.

Three values matter to those who share the executor: the queue, the fault and the axes, which are
its `view`. `enqueue_cases` says that a segment is either refused, which leaves the view, or queued,
and a queued segment names every axis (`exists_move_of_checkSegment`). Every other
operation `Drains` the queue.
-/

namespace RemoteBSP.MockMcu

/-- `MotionAxisConfig`, what an axis and its driver can do. -/
structure MotionAxisConfig where
  /-- The resource ID of the axis, by which segments and edges name it. -/
  resourceId : UInt32
  /-- The highest rate at which it steps, zero being refused. -/
  maximumStepRateHz : UInt32
  /-- How long the step output is high. -/
  stepPulseWidthNs : UInt32
  /-- How long the step output is low at least. -/
  minimumStepLowNs : UInt32
  /-- How long the direction is set before a step. -/
  directionSetupNs : UInt32
deriving DecidableEq, Repr

/-- `MotionAxisMove`, the part of one axis in a segment. -/
structure MotionAxisMove where
  /-- The resource ID of the axis that moves. -/
  resourceId : UInt32
  /-- The number of steps, negative backwards. -/
  steps : ℤ
deriving DecidableEq, Repr

/-- `MotionSegment`, a stretch of motion of all axes at constant speeds. -/
structure MotionSegment where
  /-- The number of the segment, one more than that of the segment before it. -/
  sequence : UInt32
  /-- When it starts, zero for as soon as possible. -/
  startTimeNs : UInt64
  /-- How long it takes. The next segment starts when it ends. -/
  durationNs : UInt64
  /-- Whether the motion ends with this segment, so that an empty queue behind it is no fault. -/
  finalSegment : Bool
  /-- The moves, one for each axis of the executor. -/
  axes : List MotionAxisMove
deriving DecidableEq, Repr

/-- `MotionSignal`, the outputs of an axis. -/
inductive MotionSignal
  | enable
  | direction
  | step
deriving DecidableEq, Repr

/-- `MotionEdge`, the change of an output at some time. -/
structure MotionEdge where
  /-- The time of the host's clock at which the output changes. -/
  globalTimeNs : UInt64
  /-- The time by the local clock. -/
  localTick : UInt64
  /-- The resource ID of the axis. -/
  axisResourceId : UInt32
  /-- The output that changes. -/
  signal : MotionSignal
  /-- The level that it changes to. -/
  level : Bool
deriving DecidableEq, Repr

/-- `MotionState`, how far the queue has got. -/
inductive MotionState
  | idle
  | armed
  | running
  | faulted
deriving DecidableEq, Repr

/-- The byte by which a status reports the state. -/
def MotionState.value : MotionState → UInt8
  | .idle => 0
  | .armed => 1
  | .running => 2
  | .faulted => 3

/-- `MotionFault`, what stopped the motion. -/
inductive MotionFault
  | none
  | aborted
  | limitTriggered
  | queueUnderrun
deriving DecidableEq, Repr

/-- The byte by which a status reports the fault. -/
def MotionFault.value : MotionFault → UInt8
  | .none => 0
  | .aborted => 1
  | .limitTriggered => 2
  | .queueUnderrun => 3

/-- `MotionMetrics`, what the executor has counted since it was made. -/
structure MotionMetrics where
  /-- How many segments `enqueue` has accepted. -/
  acceptedSegments : UInt64 := 0
  /-- How many segments `enqueue` has refused, and limits of unknown axes that were reported. -/
  rejectedSegments : UInt64 := 0
  /-- How many segments have been executed to their end. -/
  completedSegments : UInt64 := 0
  /-- How many edges have been handed out. -/
  emittedEdges : UInt64 := 0
  /-- How many rising edges of step outputs were among them. -/
  emittedSteps : UInt64 := 0
  /-- How many faults have stopped the motion. -/
  safetyStops : UInt64 := 0
  /-- How many limits of known axes have been reported, whether or not they stopped anything. -/
  limitStops : UInt64 := 0
  /-- How often the queue ran empty behind a segment that was not the final one. -/
  queueUnderruns : UInt64 := 0
  /-- The most segments that the queue has held at once. -/
  maximumQueueDepth : ℕ := 0
deriving DecidableEq, Repr

/-- `MotionError`, the reasons for which a call throws. -/
inductive MotionError
  | invalidConfiguration
  | invalidSegment
  | invalidAxis
  | duplicateAxis
  | sequenceMismatch
  | segmentLate
  | segmentOverlap
  | queueFull
  | rateExceeded
  | faultLatched
  | timeWentBackwards
deriving DecidableEq, Repr

/-- `MotionException`, a reason with its text. -/
structure MotionException where
  /-- Which rule the axes, the segment or the call break. -/
  code : MotionError
  /-- The text of `what`, which names the value at fault. -/
  message : String
deriving DecidableEq, Repr

/-- `MotionExecutor::AxisRuntime`. Its fields but for the configuration are those of
`MotionAxisStatus`. -/
structure AxisRuntime where
  /-- What the axis and its driver can do. -/
  config : MotionAxisConfig
  /-- Whether the driver is enabled, as the last edge left it. -/
  enabled : Bool := false
  /-- The level of the direction output, as the last edge left it. -/
  directionPositive : Bool := false
  /-- The level of the step output, as the last edge left it. -/
  stepLevel : Bool := false
  /-- The position, one more for each rising edge forwards and one less for each backwards. -/
  positionSteps : ℤ := 0
  /-- How many rising edges the step output has made. -/
  emittedSteps : UInt64 := 0
deriving DecidableEq, Repr

/-- `MotionExecutor::MoveRuntime`, a move of which some edges have been handed out. -/
structure MoveRuntime where
  /-- The move as it was enqueued. -/
  move : MotionAxisMove
  /-- The number of its steps without the sign. -/
  stepCount : UInt64
  /-- How many of its rising edges have been handed out. -/
  risesEmitted : UInt64 := 0
  /-- How many of its falling edges have been handed out. -/
  fallsEmitted : UInt64 := 0
  /-- Whether the driver and the direction have been set. -/
  controlsEmitted : Bool := false
deriving DecidableEq, Repr

/-- `MotionExecutor::SegmentRuntime`, a segment in the queue. -/
structure SegmentRuntime where
  /-- The segment as it was accepted, with its start time filled in. -/
  segment : MotionSegment
  /-- Its moves, by axis, and how far they have got. -/
  moves : List MoveRuntime
deriving DecidableEq, Repr

/-- `absolute_steps`: the number of steps without the sign, also of the least `int32_t`. -/
def absoluteSteps (steps : ℤ) : UInt64 := UInt64.ofNat steps.natAbs

/-- `edge_order`: of edges at one time, a falling step comes first and a rising one last. -/
def edgeOrder (edge : MotionEdge) : ℕ :=
  match edge.signal with
  | .step => if edge.level then 3 else 0
  | .enable => 1
  | .direction => 2

/-- `edge_less`: by the time, then the output, then the axis. -/
def edgeLess (left right : MotionEdge) : Bool :=
  if left.globalTimeNs ≠ right.globalTimeNs then left.globalTimeNs < right.globalTimeNs
  else if edgeOrder left ≠ edgeOrder right then edgeOrder left < edgeOrder right
  else left.axisResourceId < right.axisResourceId

/-- The order that `edge_less` is the strict part of. -/
def EdgeLe (left right : MotionEdge) : Prop := edgeLess right left = false

/-- The order is decided by the comparison. -/
instance : DecidableRel EdgeLe := fun left right =>
  inferInstanceAs (Decidable (edgeLess right left = false))

/-- `MotionExecutor`. The map from the axes to their indices is the search in `axes`. `std::sort`
comes with the library that the program is built with, and need not be stable, so an executor has
any sort by `edge_less`, which no call changes. -/
structure MotionExecutor where
  /-- `std::sort` by `edge_less`, which leaves the order of equal edges open. -/
  sort : Sorter EdgeLe
  /-- The axes, as the constructor was given them. -/
  axes : List AxisRuntime
  /-- The segments accepted and not completed. The front may be under way. -/
  queue : List SegmentRuntime := []
  /-- The number of segments that the queue has room for. -/
  queueCapacity : ℕ
  /-- How long before its start a segment must be there. -/
  minimumLeadTimeNs : UInt64
  /-- The time up to which edges have been handed out. -/
  nowNs : UInt64 := 0
  /-- When the last segment of the queue ends. -/
  nextAvailableTimeNs : UInt64 := 0
  /-- The number of the last segment accepted, zero before the first. -/
  lastAcceptedSequence : UInt32 := 0
  /-- The number of the last segment completed, zero before the first. -/
  lastCompletedSequence : UInt32 := 0
  /-- How far the queue has got. -/
  state : MotionState := .idle
  /-- What stopped the motion, until `clear_fault`. -/
  fault : MotionFault := .none
  /-- The counters. -/
  metrics : MotionMetrics := {}

/-- `interpolate_offset`, the part `index / denominator` of a span, computed without overflow. -/
def interpolateOffset (span index denominator : UInt64) : UInt64 :=
  if denominator = 0 then 0
  else (span / denominator) * index + ((span % denominator) * index) / denominator

/-- `rate_allows`: the rate suffices for the steps in the duration. -/
def rateAllows (stepCount durationNs : UInt64) (maximumStepRateHz : UInt32) : Bool :=
  let wholeSeconds := durationNs / 1000000000
  let remainingNs := durationNs % 1000000000
  let rate := maximumStepRateHz.toUInt64
  if wholeSeconds > stepCount / rate then true
  else stepCount ≤ wholeSeconds * rate + (remainingNs * rate) / 1000000000

namespace MotionExecutor

/-- Whether the constructor takes the configuration of an axis. -/
def axisConfigured (config : MotionAxisConfig) : Prop :=
  config.resourceId ≠ 0 ∧ config.maximumStepRateHz ≠ 0 ∧ config.stepPulseWidthNs ≠ 0 ∧
    config.minimumStepLowNs ≠ 0 ∧ config.directionSetupNs ≠ 0

/-- Whether the highest step rate leaves room for the step pulses. -/
def rateConfigured (config : MotionAxisConfig) : Prop :=
  config.maximumStepRateHz.toUInt64 *
    (config.stepPulseWidthNs.toUInt64 + config.minimumStepLowNs.toUInt64) ≤ 1000000000

/-- The checks of the constructor on an axis are computed. -/
instance (config : MotionAxisConfig) : Decidable (axisConfigured config) :=
  inferInstanceAs (Decidable (_ ∧ _))

/-- A step rate can be checked. -/
instance (config : MotionAxisConfig) : Decidable (rateConfigured config) :=
  inferInstanceAs (Decidable (_ ≤ _))

/-- The loop of the constructor over the axes, behind those of `seen`. -/
def configureAxes (seen : List UInt32) :
    List MotionAxisConfig → Except MotionException (List AxisRuntime)
  | [] => .ok []
  | config :: rest =>
    if ¬axisConfigured config ∨ config.resourceId ∈ seen then
      .error ⟨.invalidConfiguration, "运动轴配置无效或资源 ID 重复"⟩
    else if ¬rateConfigured config then
      .error ⟨.invalidConfiguration, "运动轴最大步频与STEP高低电平时序冲突"⟩
    else (configureAxes (config.resourceId :: seen) rest).map ({ config := config } :: ·)

/-- The constructor, which throws on an axis or a queue that cannot work. -/
def create (sort : Sorter EdgeLe) (axes : List MotionAxisConfig) (queueCapacity : ℕ)
    (minimumLeadTimeNs : UInt64) : Except MotionException MotionExecutor :=
  if axes = [] ∨ axes.length > kMaximumMotionAxes ∨ queueCapacity = 0 ∨ queueCapacity > 1024 ∨
      minimumLeadTimeNs = 0 then
    .error ⟨.invalidConfiguration, "运动执行器配置数量或预算无效"⟩
  else (configureAxes [] axes).map fun runtimes => {
    sort := sort
    axes := runtimes
    queueCapacity := queueCapacity
    minimumLeadTimeNs := minimumLeadTimeNs }

/-- `require_axis`, which throws if there is none of that ID. -/
def requireAxis (axes : List AxisRuntime) (resourceId : UInt32) : Option AxisRuntime :=
  axes.find? fun axis => axis.config.resourceId = resourceId

/-! ## `MotionExecutor::enqueue` -/

/-- Whether an axis can make `count` steps in a segment of a duration. -/
def stepsFit (config : MotionAxisConfig) (durationNs count : UInt64) : Prop :=
  let availableAfterSetup :=
    if durationNs > config.directionSetupNs.toUInt64 then
      durationNs - config.directionSetupNs.toUInt64
    else 0
  let minimumPeriod := config.stepPulseWidthNs.toUInt64 + config.minimumStepLowNs.toUInt64
  ¬availableAfterSetup < config.stepPulseWidthNs.toUInt64 ∧
    ¬count > availableAfterSetup / minimumPeriod + 1 ∧
    rateAllows count durationNs config.maximumStepRateHz = true

/-- The checks of `enqueue` on a move are computed. -/
instance (config : MotionAxisConfig) (durationNs count : UInt64) :
    Decidable (stepsFit config durationNs count) :=
  inferInstanceAs (Decidable (_ ∧ _ ∧ _))

/-- The loop of `enqueue` over the moves, behind those of `seen`. -/
def admitMoves (axes : List AxisRuntime) (durationNs : UInt64) (seen : List UInt32) :
    List MotionAxisMove → Except MotionException (List MoveRuntime)
  | [] => .ok []
  | move :: rest =>
    if move.resourceId ∈ seen then .error ⟨.duplicateAxis, "运动段包含重复轴"⟩
    else match requireAxis axes move.resourceId with
      | none => .error ⟨.invalidAxis, "运动段引用了不存在的轴"⟩
      | some axis =>
        let count := absoluteSteps move.steps
        if count ≠ 0 ∧ ¬stepsFit axis.config durationNs count then
          .error ⟨.rateExceeded, "运动段超过轴步频或脉冲时序能力"⟩
        else
          (admitMoves axes durationNs (move.resourceId :: seen) rest).map
            ({ move := move, stepCount := count } :: ·)

variable (executor : MotionExecutor)

/-- The start of a segment: the earliest possible if it names none, otherwise the one that it names,
which must leave the lead time. -/
def startTime (segment : MotionSegment) (nowNs : UInt64) : Except MotionException UInt64 :=
  if segment.startTimeNs = 0 then
    let earliest :=
      if nowNs > 0xFFFFFFFFFFFFFFFF - executor.minimumLeadTimeNs then 0xFFFFFFFFFFFFFFFF
      else nowNs + executor.minimumLeadTimeNs
    .ok (max earliest executor.nextAvailableTimeNs)
  else if segment.startTimeNs < nowNs ∨
      segment.startTimeNs - nowNs < executor.minimumLeadTimeNs then
    .error ⟨.segmentLate, "运动段没有满足最小排程提前量"⟩
  else .ok segment.startTimeNs

/-- The checks of `enqueue`: the segment as it is queued. -/
def checkSegment (segment : MotionSegment) (nowNs : UInt64) :
    Except MotionException SegmentRuntime :=
  if executor.fault ≠ .none then .error ⟨.faultLatched, "运动故障已锁存，必须先清除"⟩
  else if nowNs < executor.nowNs then .error ⟨.timeWentBackwards, "运动入队时间不能倒退"⟩
  else if executor.queue.length ≥ executor.queueCapacity then .error ⟨.queueFull, "运动段队列已满"⟩
  else if ∃ last ∈ executor.queue.getLast?, last.segment.finalSegment = true then
    .error ⟨.invalidSegment, "最终运动段之后不能继续入队"⟩
  else if segment.sequence = 0 ∨ segment.sequence ≠ executor.lastAcceptedSequence + 1 then
    .error ⟨.sequenceMismatch, "运动段序号必须从1开始严格连续递增"⟩
  else if segment.durationNs = 0 ∨ segment.axes.length ≠ executor.axes.length then
    .error ⟨.invalidSegment, "运动段持续时间或轴数量无效"⟩
  else match executor.startTime segment nowNs with
    | .error e => .error e
    | .ok startTimeNs =>
      if executor.queue ≠ [] ∧ startTimeNs ≠ executor.nextAvailableTimeNs then
        .error ⟨.segmentOverlap, "连续运动段必须首尾无缝衔接"⟩
      else if startTimeNs > 0xFFFFFFFFFFFFFFFF - segment.durationNs then
        .error ⟨.invalidSegment, "运动段结束时间溢出"⟩
      else
        (admitMoves executor.axes segment.durationNs [] segment.axes).map fun moves =>
          ⟨{ segment with startTimeNs := startTimeNs }, moves⟩

/-- `reject`, which counts the refusal. The exception is thrown by its callers. -/
def reject : MotionExecutor :=
  { executor with metrics :=
      { executor.metrics with rejectedSegments := executor.metrics.rejectedSegments + 1 } }

/-- The executor with one more segment in its queue. -/
def push (runtime : SegmentRuntime) : MotionExecutor :=
  let queue := executor.queue ++ [runtime]
  { executor with
    nextAvailableTimeNs := runtime.segment.startTimeNs + runtime.segment.durationNs
    lastAcceptedSequence := runtime.segment.sequence
    queue := queue
    state := .armed
    metrics := { executor.metrics with
      acceptedSegments := executor.metrics.acceptedSegments + 1
      maximumQueueDepth := max executor.metrics.maximumQueueDepth queue.length } }

/-- `MotionExecutor::enqueue`: the segment as accepted, or the exception, which is counted. -/
def enqueue (segment : MotionSegment) (nowNs : UInt64) :
    Except MotionException MotionSegment × MotionExecutor :=
  match executor.checkSegment segment nowNs with
  | .error e => (.error e, executor.reject)
  | .ok runtime => (.ok runtime.segment, executor.push runtime)

/-! ## `MotionExecutor::advance_to` -/

/-- The edges of one move up to a time, and the move behind them. -/
def moveEdges (axis : AxisRuntime) (start end' effectiveUntil : UInt64) (move : MoveRuntime) :
    List MotionEdge × MoveRuntime :=
  if move.stepCount = 0 then ([], move)
  else
    let id := move.move.resourceId
    let directionPositive : Bool := 0 ≤ move.move.steps
    let controls : Bool := !move.controlsEmitted && start ≤ effectiveUntil
    let controlEdges : List MotionEdge :=
      if controls then
        (if axis.enabled then [] else [⟨start, start, id, .enable, true⟩]) ++
          (if axis.directionPositive = directionPositive then []
          else [⟨start, start, id, .direction, directionPositive⟩])
      else []
    let firstRise := start + axis.config.directionSetupNs.toUInt64
    let lastRise := end' - axis.config.stepPulseWidthNs.toUInt64
    let riseTime (index : UInt64) : UInt64 :=
      firstRise + (if move.stepCount = 1 then 0
        else interpolateOffset (lastRise - firstRise) index (move.stepCount - 1))
    let fallTime (index : UInt64) : UInt64 :=
      riseTime index + axis.config.stepPulseWidthNs.toUInt64
    -- A loop over the steps that are left stops at the first one that lies behind the time.
    let due (time : UInt64 → UInt64) (emitted : UInt64) : List UInt64 :=
      ((List.range (move.stepCount - emitted).toNat).map
        fun k => time (emitted + UInt64.ofNat k)).takeWhile (· ≤ effectiveUntil)
    let rises := due riseTime move.risesEmitted
    let falls := due fallTime move.fallsEmitted
    (controlEdges ++ rises.map (fun time => ⟨time, time, id, .step, true⟩) ++
        falls.map (fun time => ⟨time, time, id, .step, false⟩),
      { move with
        controlsEmitted := move.controlsEmitted || controls
        risesEmitted := move.risesEmitted + UInt64.ofNat rises.length
        fallsEmitted := move.fallsEmitted + UInt64.ofNat falls.length })

/-- What an edge does to the axis that it names. -/
def applyEdge (edge : MotionEdge) (axis : AxisRuntime) : AxisRuntime :=
  match edge.signal with
  | .enable => { axis with enabled := edge.level }
  | .direction => { axis with directionPositive := edge.level }
  | .step =>
    if edge.level then
      { axis with
        stepLevel := true
        positionSteps := axis.positionSteps + (if axis.directionPositive then 1 else -1)
        emittedSteps := axis.emittedSteps + 1 }
    else { axis with stepLevel := false }

/-- `apply_edges`. The axis of an edge is one of the executor's, since `enqueue` has looked it up,
so that `require_axis` finds it. -/
def applyEdges (edges : List MotionEdge) : MotionExecutor :=
  edges.foldl (fun executor edge =>
    { executor with
      axes := executor.axes.map fun axis =>
        if axis.config.resourceId = edge.axisResourceId then applyEdge edge axis else axis
      metrics :=
        if edge.signal = .step ∧ edge.level = true then
          { executor.metrics with emittedSteps := executor.metrics.emittedSteps + 1 }
        else executor.metrics }) executor

/-- `metrics_.emitted_edges += edges.size()`, behind every list of edges that is handed out. -/
def countEdges (edges : List MotionEdge) : MotionExecutor :=
  { executor with metrics := { executor.metrics with
      emittedEdges := executor.metrics.emittedEdges + UInt64.ofNat edges.length } }

/-- `collect_segment_edges`, for a segment that is not in the queue: the edges, the segment behind
them, and the executor that has made them. -/
def collectSegmentEdges (runtime : SegmentRuntime) (untilNs : UInt64) :
    List MotionEdge × SegmentRuntime × MotionExecutor :=
  let start := runtime.segment.startTimeNs
  let end' := start + runtime.segment.durationNs
  let moves := runtime.moves.map fun move =>
    match requireAxis executor.axes move.move.resourceId with
    | some axis => moveEdges axis start end' (min untilNs end') move
    | none => ([], move)
  let edges := executor.sort.run (moves.flatMap Prod.fst)
  (edges, { runtime with moves := moves.map Prod.snd },
    (executor.applyEdges edges).countEdges edges)

/-- `enter_safe_state`: the edges that turn off the outputs, and the executor without its queue. -/
def enterSafeState (atNs : UInt64) (fault : MotionFault) : List MotionEdge × MotionExecutor :=
  let edges := executor.axes.flatMap fun axis =>
    (if axis.stepLevel then [⟨atNs, atNs, axis.config.resourceId, .step, false⟩] else []) ++
      (if axis.enabled then [⟨atNs, atNs, axis.config.resourceId, .enable, false⟩] else [])
  let executor := { executor with queue := [], nextAvailableTimeNs := atNs }
  (edges,
    if fault = .none then { executor with state := .idle, fault := .none }
    else { executor with
      state := .faulted
      fault := fault
      metrics :=
        { executor.metrics with safetyStops := executor.metrics.safetyStops + 1 } })

/-- `enter_safe_state`, and the edges that it asks for. -/
def stopSafely (atNs : UInt64) (fault : MotionFault) : List MotionEdge × MotionExecutor :=
  let (edges, stopped) := executor.enterSafeState atNs fault
  let safe := executor.sort.run edges
  (safe, (stopped.applyEdges safe).countEdges safe)

/-- The executor behind a segment that has been completed. -/
def completeSegment (segment : MotionSegment) (rest : List SegmentRuntime) : MotionExecutor :=
  { executor with
    lastCompletedSequence := segment.sequence
    queue := rest
    metrics := { executor.metrics with
      completedSegments := executor.metrics.completedSegments + 1 } }

/-- The executor whose queue has run empty. -/
def countUnderrun : MotionExecutor :=
  { executor with metrics := { executor.metrics with
      queueUnderruns := executor.metrics.queueUnderruns + 1 } }

/-- The loop of `advance_to`. Each iteration but the last takes a segment from the queue, so that
the length of the queue bounds their number. -/
def advanceLoop (nowNs : UInt64) : ℕ → MotionExecutor → List MotionEdge × MotionExecutor
  | 0, executor => ([], executor)
  | fuel + 1, executor =>
    match executor.queue with
    | [] => ([], executor)
    | current :: rest =>
      if nowNs < current.segment.startTimeNs then ([], executor)
      else
        let (edges, current, executor) :=
          { executor with state := .running }.collectSegmentEdges current nowNs
        let endTime := current.segment.startTimeNs + current.segment.durationNs
        if nowNs < endTime then (edges, { executor with queue := current :: rest })
        else
          let executor := executor.completeSegment current.segment rest
          if current.segment.finalSegment then
            let (safe, executor) := executor.stopSafely endTime .none
            (edges ++ safe, executor)
          else if rest = [] then
            let (safe, executor) := executor.countUnderrun.stopSafely endTime .queueUnderrun
            (edges ++ safe, executor)
          else
            let (more, executor) := advanceLoop nowNs fuel executor
            (edges ++ more, executor)

/-- `MotionExecutor::advance_to`: the edges up to and including the time, in their order. -/
def advanceTo (nowNs : UInt64) : Except MotionException (List MotionEdge × MotionExecutor) :=
  if nowNs < executor.nowNs then .error ⟨.timeWentBackwards, "运动执行时间不能倒退"⟩
  else
    let (output, advanced) := advanceLoop nowNs executor.queue.length executor
    .ok (executor.sort.run output,
      { advanced with
        nowNs := nowNs
        state :=
          if advanced.queue = [] ∧ advanced.fault = .none ∧ advanced.state ≠ .faulted then .idle
          else advanced.state })

/-- `MotionExecutor::abort`: the edges up to the time, and those that turn the outputs off. -/
def abort (nowNs : UInt64) (fault : MotionFault) :
    Except MotionException (List MotionEdge × MotionExecutor) :=
  if fault = .none ∨ fault = .queueUnderrun then
    .error ⟨.invalidSegment, "主动停止故障原因无效"⟩
  else if executor.fault ≠ .none then .error ⟨.faultLatched, "运动故障已经锁存"⟩
  else match executor.advanceTo nowNs with
    | .error e => .error e
    | .ok (output, advanced) =>
      let (safe, stopped) := advanced.stopSafely nowNs fault
      .ok (executor.sort.run (output ++ safe), stopped)

/-- `MotionExecutor::trigger_limit`, an abort that first counts the limit. -/
def triggerLimit (axisResourceId : UInt32) (nowNs : UInt64) :
    Except MotionException (List MotionEdge) × MotionExecutor :=
  match requireAxis executor.axes axisResourceId with
  | none => (.error ⟨.invalidAxis, "运动段引用了不存在的轴"⟩, executor.reject)
  | some _ =>
    let executor := { executor with metrics :=
      { executor.metrics with limitStops := executor.metrics.limitStops + 1 } }
    match executor.abort nowNs .limitTriggered with
    | .error e => (.error e, executor)
    | .ok (edges, executor) => (.ok edges, executor)

/-- `MotionExecutor::clear_fault`, which an empty queue permits. -/
def clearFault : Except MotionException MotionExecutor :=
  if executor.queue ≠ [] then .error ⟨.faultLatched, "运动队列未清空，不能清除故障"⟩
  else .ok { executor with
    fault := .none
    state := .idle
    nextAvailableTimeNs := executor.nowNs }

/-! ## What those who share the executor see -/

/-- The queue, the fault and the axes with their outputs. -/
def view : List SegmentRuntime × MotionFault × List AxisRuntime :=
  (executor.queue, executor.fault, executor.axes)

/-- The resource IDs of the axes, which no call changes. -/
def axisIds : List UInt32 := executor.axes.map fun axis => axis.config.resourceId

/-- The segments in the queue, without how far they have got. -/
def segments : List MotionSegment := executor.queue.map SegmentRuntime.segment

variable {executor} {executor' : MotionExecutor}

/-- A segment is queued if it passes the checks, and is counted if it does not. -/
theorem enqueue_cases (segment : MotionSegment) (nowNs : UInt64) :
    (executor.enqueue segment nowNs).2 = executor.reject ∨
      ∃ runtime, executor.checkSegment segment nowNs = .ok runtime ∧
        (executor.enqueue segment nowNs).2 = executor.push runtime := by
  unfold enqueue
  split
  · exact .inl rfl
  · next runtime hcheck => exact .inr ⟨runtime, hcheck, rfl⟩

/-- An axis that is found is one of the axes. -/
theorem mem_of_requireAxis {axes : List AxisRuntime} {id : UInt32} {axis : AxisRuntime}
    (h : requireAxis axes id = some axis) : id ∈ axes.map fun axis => axis.config.resourceId := by
  refine List.mem_map.2 ⟨axis, List.mem_of_find?_eq_some h, ?_⟩
  simpa using List.find?_some h

/-- The moves that are taken belong to different axes. -/
theorem admitMoves_ok {axes : List AxisRuntime} {durationNs : UInt64} {seen : List UInt32}
    {moves : List MotionAxisMove} {runtimes : List MoveRuntime}
    (h : admitMoves axes durationNs seen moves = .ok runtimes) :
    (moves.map MotionAxisMove.resourceId).Nodup ∧ ∀ move ∈ moves, move.resourceId ∉ seen ∧
      move.resourceId ∈ axes.map fun axis => axis.config.resourceId := by
  induction moves generalizing seen runtimes with
  | nil => exact ⟨List.nodup_nil, fun _ hmem => absurd hmem List.not_mem_nil⟩
  | cons move rest ih =>
    unfold admitMoves at h
    split at h
    · cases h
    · next hseen =>
      split at h
      · cases h
      · next axis haxis =>
        dsimp only at h
        split at h
        · cases h
        · cases hrest : admitMoves axes durationNs (move.resourceId :: seen) rest with
          | error e => rw [hrest] at h; cases h
          | ok runtimes' =>
            obtain ⟨hnodup, hall⟩ := ih hrest
            have hfresh : move.resourceId ∉ rest.map MotionAxisMove.resourceId := by
              intro hmem
              obtain ⟨move', hmove', heq⟩ := List.mem_map.1 hmem
              exact (hall move' hmove').1 (heq ▸ List.mem_cons_self)
            refine ⟨List.nodup_cons.2 ⟨hfresh, hnodup⟩, fun move' hmem => ?_⟩
            rcases List.mem_cons.1 hmem with rfl | hmem
            · exact ⟨hseen, mem_of_requireAxis haxis⟩
            · obtain ⟨hnot, hin⟩ := hall move' hmem
              exact ⟨fun h => hnot (List.mem_cons_of_mem _ h), hin⟩

/-- A segment that is queued moves each of its axes once, and has as many as the executor. -/
theorem checkSegment_ok {segment : MotionSegment} {nowNs : UInt64} {runtime : SegmentRuntime}
    (h : executor.checkSegment segment nowNs = .ok runtime) :
    runtime.segment.axes = segment.axes ∧ segment.axes.length = executor.axes.length ∧
      (segment.axes.map MotionAxisMove.resourceId).Nodup ∧
      ∀ move ∈ segment.axes, move.resourceId ∈ executor.axisIds := by
  unfold checkSegment at h
  -- The first five checks are about the executor and the number of the segment.
  iterate 5 (split at h; · cases h)
  split at h
  · cases h
  · next hlength =>
    split at h
    · cases h
    · split at h
      · cases h
      · split at h
        · cases h
        · cases hmoves : admitMoves executor.axes segment.durationNs [] segment.axes with
          | error e => rw [hmoves] at h; cases h
          | ok moves =>
            rw [hmoves] at h
            obtain rfl := Except.ok.inj h
            obtain ⟨hnodup, hall⟩ := admitMoves_ok hmoves
            exact ⟨rfl, not_not.1 (not_or.1 hlength).2, hnodup, fun move hmem => (hall move hmem).2⟩

/-- A segment that is queued names every axis. -/
theorem exists_move_of_checkSegment {segment : MotionSegment} {nowNs : UInt64}
    {runtime : SegmentRuntime} (h : executor.checkSegment segment nowNs = .ok runtime) {id : UInt32}
    (hid : id ∈ executor.axisIds) : ∃ move ∈ segment.axes, move.resourceId = id := by
  obtain ⟨-, hlength, hnodup, hall⟩ := checkSegment_ok h
  have hsubset : segment.axes.map MotionAxisMove.resourceId ⊆ executor.axisIds := by
    intro id hmem
    obtain ⟨move, hmove, rfl⟩ := List.mem_map.1 hmem
    exact hall move hmove
  -- As many different axes as there are: all of them.
  have hperm := (List.subperm_of_subset hnodup hsubset).perm_of_length_le
    (by rw [axisIds, List.length_map, List.length_map, hlength])
  exact List.mem_map.1 (hperm.mem_iff.2 hid)

/-- The axes stay, and no segment enters the queue. -/
def Drains (executor executor' : MotionExecutor) : Prop :=
  executor'.axisIds = executor.axisIds ∧ executor'.segments ⊆ executor.segments

/-- A queue that nothing is taken from has drained. -/
theorem Drains.refl (executor : MotionExecutor) : Drains executor executor :=
  ⟨rfl, fun _ h => h⟩

/-- What drains a queue that has drained before has drained it altogether. -/
theorem Drains.trans {executor'' : MotionExecutor} (h : Drains executor executor')
    (h' : Drains executor' executor'') : Drains executor executor'' :=
  ⟨h'.1.trans h.1, fun _ hmem => h.2 (h'.2 hmem)⟩

/-- An edge does not change which axis it is on. -/
theorem config_applyEdge (edge : MotionEdge) (axis : AxisRuntime) :
    (applyEdge edge axis).config = axis.config := by
  unfold applyEdge
  split
  · rfl
  · rfl
  · split <;> rfl

variable (executor) in
/-- Edges change neither the axes there are nor the queue. -/
theorem applyEdges_spec (edges : List MotionEdge) :
    (executor.applyEdges edges).axisIds = executor.axisIds ∧
      (executor.applyEdges edges).queue = executor.queue := by
  unfold applyEdges
  induction edges generalizing executor with
  | nil => exact ⟨rfl, rfl⟩
  | cons edge edges ih =>
    rw [List.foldl_cons]
    refine ⟨(ih _).1.trans ?_, (ih _).2⟩
    rw [axisIds, axisIds, List.map_map]
    refine List.map_congr_left fun axis _ => ?_
    simp only [Function.comp_apply]
    split
    · rw [config_applyEdge]
    · rfl

variable (executor) in
/-- The edges of a segment are made without touching the queue. -/
theorem collectSegmentEdges_spec (runtime : SegmentRuntime) (untilNs : UInt64) :
    (executor.collectSegmentEdges runtime untilNs).2.1.segment = runtime.segment ∧
      (executor.collectSegmentEdges runtime untilNs).2.2.axisIds = executor.axisIds ∧
      (executor.collectSegmentEdges runtime untilNs).2.2.queue = executor.queue :=
  ⟨rfl, applyEdges_spec executor _⟩

variable (executor) in
/-- A safe stop adds no segment, and keeps the axes. -/
theorem stopSafely_drains (atNs : UInt64) (fault : MotionFault) :
    Drains executor (executor.stopSafely atNs fault).2 := by
  obtain ⟨hids, hqueue⟩ := applyEdges_spec (executor.enterSafeState atNs fault).2
    (executor.sort.run (executor.enterSafeState atNs fault).1)
  have hstopped : (executor.enterSafeState atNs fault).2.axisIds = executor.axisIds ∧
      (executor.enterSafeState atNs fault).2.queue = [] := by
    unfold enterSafeState
    dsimp only
    split <;> exact ⟨rfl, rfl⟩
  refine ⟨hids.trans hstopped.1, fun segment hmem => ?_⟩
  have hempty : (executor.stopSafely atNs fault).2.segments = [] :=
    congrArg (List.map SegmentRuntime.segment) (hqueue.trans hstopped.2)
  rw [hempty] at hmem
  exact absurd hmem List.not_mem_nil

/-- Completing the first segment leaves the others. -/
theorem completeSegment_drains (segment : MotionSegment) {rest : List SegmentRuntime}
    (hids : executor'.axisIds = executor.axisIds)
    (hrest : rest.map SegmentRuntime.segment ⊆ executor.segments) :
    Drains executor (executor'.completeSegment segment rest) :=
  ⟨hids, hrest⟩

/-- The loop of `advance_to` drains the queue. -/
theorem advanceLoop_drains (nowNs : UInt64) (fuel : ℕ) :
    Drains executor (advanceLoop nowNs fuel executor).2 := by
  induction fuel generalizing executor with
  | zero => exact .refl _
  | succ fuel ih =>
    unfold advanceLoop
    split
    · exact .refl _
    · next current rest hqueue =>
      split
      · exact .refl _
      · obtain ⟨hsegment, hids, -⟩ := collectSegmentEdges_spec
          { executor with state := .running } current nowNs
        have hsegments : executor.segments =
            current.segment :: rest.map SegmentRuntime.segment := by
          rw [segments, hqueue, List.map_cons]
        have hrest : rest.map SegmentRuntime.segment ⊆ executor.segments := by
          rw [hsegments]
          exact List.subset_cons_self _ _
        dsimp only
        split
        · refine ⟨hids, ?_⟩
          rw [hsegments, segments, List.map_cons, hsegment]
          exact List.Subset.refl _
        · have hcomplete := completeSegment_drains current.segment hids hrest
          split
          · exact hcomplete.trans (stopSafely_drains _ _ _)
          · split
            · exact hcomplete.trans (stopSafely_drains (countUnderrun _) _ _)
            · exact hcomplete.trans ih

/-- `advance_to` adds no segment, and keeps the axes. -/
theorem advanceTo_drains {nowNs : UInt64} {edges : List MotionEdge}
    (h : executor.advanceTo nowNs = .ok (edges, executor')) : Drains executor executor' := by
  unfold advanceTo at h
  split at h
  · cases h
  · obtain rfl := (Prod.mk.inj (Except.ok.inj h)).2
    exact advanceLoop_drains nowNs _

/-- `abort` adds no segment, and keeps the axes. -/
theorem abort_drains {nowNs : UInt64} {fault : MotionFault} {edges : List MotionEdge}
    (h : executor.abort nowNs fault = .ok (edges, executor')) : Drains executor executor' := by
  unfold abort at h
  split at h
  · cases h
  · split at h
    · cases h
    · split at h
      · cases h
      · next hadvance =>
        obtain rfl := (Prod.mk.inj (Except.ok.inj h)).2
        exact (advanceTo_drains hadvance).trans (stopSafely_drains _ _ _)

/-- `trigger_limit` adds no segment, and keeps the axes. -/
theorem triggerLimit_drains (axisResourceId : UInt32) (nowNs : UInt64) :
    Drains executor (executor.triggerLimit axisResourceId nowNs).2 := by
  unfold triggerLimit
  split
  · exact .refl _
  · dsimp only
    split
    · exact .refl _
    · next habort =>
      have hdrains := abort_drains habort
      exact ⟨hdrains.1, hdrains.2⟩

/-- `clear_fault` succeeds on an empty queue. -/
theorem clearFault_eq_ok_iff : executor.clearFault = .ok executor' ↔ executor.queue = [] ∧
    executor' = { executor with
      fault := .none
      state := .idle
      nextAvailableTimeNs := executor.nowNs } := by
  unfold clearFault
  split
  · next h => exact ⟨nofun, fun h' => absurd h'.1 h⟩
  · next h =>
    exact ⟨fun heq => ⟨not_not.1 h, (Except.ok.inj heq).symm⟩, fun h' => congrArg _ h'.2.symm⟩

/-! ## Faults -/

/-- An executor with a fault has an empty queue, which the fault keeps empty. -/
def Stopped (executor : MotionExecutor) : Prop :=
  executor.fault ≠ .none → executor.queue = [] ∧ executor.state = .faulted

variable (executor) in
/-- Edges change the axes and the counters. -/
theorem applyEdges_eq (edges : List MotionEdge) : executor.applyEdges edges = { executor with
    axes := (executor.applyEdges edges).axes
    metrics := (executor.applyEdges edges).metrics } := by
  unfold applyEdges
  induction edges generalizing executor with
  | nil => rfl
  | cons edge edges ih =>
    rw [List.foldl_cons]
    exact ih _

variable (executor) in
/-- A stop empties the queue and latches the fault. -/
theorem stopSafely_spec (atNs : UInt64) (fault : MotionFault) :
    (executor.stopSafely atNs fault).2.queue = [] ∧
      (executor.stopSafely atNs fault).2.fault = fault ∧
      (fault ≠ .none → (executor.stopSafely atNs fault).2.state = .faulted) := by
  unfold stopSafely countEdges
  dsimp only
  rw [applyEdges_eq]
  unfold enterSafeState
  dsimp only
  split
  · next hnone => exact ⟨rfl, hnone.symm, fun hne => absurd hnone hne⟩
  · exact ⟨rfl, rfl, fun _ => rfl⟩

variable (executor) in
/-- A stop leaves the executor stopped. -/
theorem stopSafely_stopped (atNs : UInt64) (fault : MotionFault) :
    Stopped (executor.stopSafely atNs fault).2 := by
  obtain ⟨hqueue, hfault, hstate⟩ := stopSafely_spec executor atNs fault
  intro hne
  exact ⟨hqueue, hstate (hfault ▸ hne)⟩

/-- The loop of `advance_to` runs into a fault by a stop. -/
theorem advanceLoop_stopped (h : Stopped executor) (nowNs : UInt64) (fuel : ℕ) :
    Stopped (advanceLoop nowNs fuel executor).2 := by
  induction fuel generalizing executor with
  | zero => exact h
  | succ fuel ih =>
    unfold advanceLoop
    split
    · exact h
    · next current rest hqueue =>
      have hfault : executor.fault = .none := by
        by_contra hne
        rw [(h hne).1] at hqueue
        cases hqueue
      split
      · exact h
      · have hcollect : ({ executor with state := .running }.collectSegmentEdges current
            nowNs).2.2.fault = .none := by
          unfold collectSegmentEdges countEdges
          dsimp only
          rw [applyEdges_eq]
          exact hfault
        dsimp only
        split
        · exact fun hne => absurd hcollect hne
        · split
          · exact stopSafely_stopped _ _ _
          · split
            · exact stopSafely_stopped _ _ _
            · exact ih fun hne => absurd hcollect hne

/-- `advance_to` runs into a fault by a stop. -/
theorem advanceTo_stopped (hstopped : Stopped executor) {nowNs : UInt64} {edges : List MotionEdge}
    (h : executor.advanceTo nowNs = .ok (edges, executor')) : Stopped executor' := by
  unfold advanceTo at h
  split at h
  · cases h
  · obtain rfl := (Prod.mk.inj (Except.ok.inj h)).2
    have hloop := advanceLoop_stopped hstopped nowNs executor.queue.length
    intro hne
    obtain ⟨hqueue, hstate⟩ := hloop hne
    refine ⟨hqueue, ?_⟩
    dsimp only
    rw [if_neg, hstate]
    exact fun h => h.2.2 hstate

/-- An abort that does not throw leaves an empty queue and the fault that it was given. -/
theorem abort_spec {nowNs : UInt64} {fault : MotionFault} {edges : List MotionEdge}
    (h : executor.abort nowNs fault = .ok (edges, executor')) :
    executor'.queue = [] ∧ executor'.fault = fault ∧ executor'.state = .faulted := by
  unfold abort at h
  split at h
  · cases h
  · next hfault =>
    split at h
    · cases h
    · split at h
      · cases h
      · next advanced hadvance =>
        obtain rfl := (Prod.mk.inj (Except.ok.inj h)).2
        obtain ⟨hqueue, hlatched, hstate⟩ := stopSafely_spec advanced nowNs fault
        exact ⟨hqueue, hlatched, hstate (not_or.1 hfault).1⟩

/-- `trigger_limit` runs into a fault by a stop. -/
theorem triggerLimit_stopped (hstopped : Stopped executor) (axisResourceId : UInt32)
    (nowNs : UInt64) : Stopped (executor.triggerLimit axisResourceId nowNs).2 := by
  unfold triggerLimit
  split
  · exact hstopped
  · dsimp only
    split
    · exact hstopped
    · next habort =>
      obtain ⟨hqueue, -, hstate⟩ := abort_spec habort
      exact fun _ => ⟨hqueue, hstate⟩

/-- A segment is queued by an executor without a fault. -/
theorem fault_of_checkSegment {segment : MotionSegment} {nowNs : UInt64} {runtime : SegmentRuntime}
    (h : executor.checkSegment segment nowNs = .ok runtime) : executor.fault = .none := by
  unfold checkSegment at h
  split at h
  · cases h
  · next hfault => exact not_not.1 hfault

/-- A new executor has an empty queue and no fault. -/
theorem create_eq_ok {sort : Sorter EdgeLe} {axes : List MotionAxisConfig} {queueCapacity : ℕ}
    {minimumLeadTimeNs : UInt64}
    (h : create sort axes queueCapacity minimumLeadTimeNs = .ok executor) :
    ∃ runtimes, configureAxes [] axes = .ok runtimes ∧ executor = {
      sort := sort
      axes := runtimes
      queueCapacity := queueCapacity
      minimumLeadTimeNs := minimumLeadTimeNs } := by
  unfold create at h
  split at h
  · cases h
  · cases hruntimes : configureAxes [] axes with
    | error e => rw [hruntimes] at h; cases h
    | ok runtimes =>
      rw [hruntimes] at h
      exact ⟨runtimes, rfl, (Except.ok.inj h).symm⟩

/-- An executor without a fault can be stopped at its own time. -/
theorem exists_abort (h : executor.fault = .none) :
    ∃ edges executor', executor.abort executor.nowNs .aborted = .ok (edges, executor') := by
  have hnow : ¬executor.nowNs < executor.nowNs := UInt64.lt_irrefl _
  unfold abort advanceTo
  rw [if_neg nofun, if_neg (not_not.2 h), if_neg hnow]
  exact ⟨_, _, rfl⟩

end MotionExecutor

end RemoteBSP.MockMcu
