import RemoteBSP.Protocol.Wire

/-!
# Motion payloads

`protocol/src/motion.cpp`. A node reads the segments to be queued, and writes what it has accepted
and how its executor stands; a host writes the segments, and reads the answers. A step count is an
integer here, which the codec takes to two's complement and back.
-/

namespace RemoteBSP

/-- `kMaximumMotionAxes`, the most axes that a payload can name. -/
def kMaximumMotionAxes : ℕ := 64

/-- `MotionAxisMovePayload`, the part of one axis in a segment. -/
structure MotionAxisMovePayload where
  /-- The resource ID of the axis, which may not be zero. -/
  resourceId : UInt32
  /-- The number of steps, negative backwards. -/
  steps : ℤ
deriving DecidableEq, Repr

/-- `MotionSegmentPayload`, the payload of MOTION_ENQUEUE. -/
structure MotionSegmentPayload where
  /-- The number of the segment in the queue of the node. -/
  sequence : UInt32
  /-- When it starts, zero for as soon as possible. -/
  startTimeNs : UInt64
  /-- How long it takes, in nanoseconds. -/
  durationNs : UInt64
  /-- Whether the motion ends with this segment. -/
  finalSegment : Bool
  /-- The moves, one for each axis. -/
  axes : List MotionAxisMovePayload
deriving DecidableEq, Repr

/-- `MotionAcceptancePayload`, the answer to MOTION_ENQUEUE. -/
structure MotionAcceptancePayload where
  /-- The number of the segment that was accepted. -/
  sequence : UInt32
  /-- When it will start by the clock of the node. -/
  startTimeNs : UInt64
  /-- How long it will take, in nanoseconds. -/
  durationNs : UInt64
  /-- Whether the motion ends with this segment. -/
  finalSegment : Bool
deriving DecidableEq, Repr

/-- `MotionAxisStatusPayload`, an axis in the answer to MOTION_STATUS. -/
structure MotionAxisStatusPayload where
  /-- The resource ID of the axis. -/
  resourceId : UInt32
  /-- Whether its driver is enabled. -/
  enabled : Bool
  /-- The level of the direction output. -/
  directionPositive : Bool
  /-- The level of the step output. -/
  stepLevel : Bool
  /-- The position of the axis in steps. -/
  positionSteps : ℤ
  /-- The steps that the axis has made in either direction. -/
  emittedSteps : UInt64
deriving DecidableEq, Repr

/-- `MotionMetricsPayload`, the counters in the answer to MOTION_STATUS. -/
structure MotionMetricsPayload where
  /-- How many segments have been accepted. -/
  acceptedSegments : UInt64
  /-- How many segments have been refused. -/
  rejectedSegments : UInt64
  /-- How many segments have been executed to their end. -/
  completedSegments : UInt64
  /-- How many outputs have changed. -/
  emittedEdges : UInt64
  /-- How many steps all axes have made. -/
  emittedSteps : UInt64
  /-- How many faults have stopped the motion. -/
  safetyStops : UInt64
  /-- The stops for a limit switch. -/
  limitStops : UInt64
  /-- The times the queue ran empty. -/
  queueUnderruns : UInt64
  /-- The most segments that the queue has held at once. -/
  maximumQueueDepth : UInt16
deriving DecidableEq, Repr

/-- `MotionStatusPayload`. The state and the fault are given by their numbers. -/
structure MotionStatusPayload where
  /-- `MotionStatePayload`, how far the queue has got. -/
  state : UInt8
  /-- `MotionFaultPayload`, what stopped the motion. -/
  fault : UInt8
  /-- The time by the clock of the node. -/
  nodeTimeNs : UInt64
  /-- How many segments the queue holds. -/
  queueDepth : UInt16
  /-- How many segments it has room for. -/
  queueCapacity : UInt16
  /-- The number of the last segment accepted. -/
  lastAcceptedSequence : UInt32
  /-- The number of the last segment completed. -/
  lastCompletedSequence : UInt32
  /-- What has been counted. -/
  metrics : MotionMetricsPayload
  /-- The axes, in their order. -/
  axes : List MotionAxisStatusPayload
deriving DecidableEq, Repr

/-- `MotionPayloadError`, the reasons for which a codec throws. -/
inductive MotionPayloadError
  | invalidLength
  | invalidValue
  | tooManyAxes
deriving DecidableEq, Repr

/-- `MotionPayloadException`, a reason with its text. -/
structure MotionPayloadException where
  /-- Which rule the segment, the status or the bytes break. -/
  code : MotionPayloadError
  /-- The text of `what`, which names the field. -/
  message : String
deriving DecidableEq, Repr

/-- `kSegmentHeaderSize`, the bytes of a segment before its moves. -/
def kSegmentHeaderSize : ℕ := 24

/-- `kMoveSize`, the bytes of a move. -/
def kMoveSize : ℕ := 8

/-- `validate_axis_count`: one axis at least, and no more than there may be. -/
def validateAxisCount (count : ℕ) : Except MotionPayloadException Unit :=
  if count = 0 ∨ count > kMaximumMotionAxes then
    .error ⟨.tooManyAxes, "单节点运动轴数量必须位于 1～64"⟩
  else .ok ()

/-- `decode_i32`, from two's complement. -/
def decodeI32 (value : UInt32) : ℤ :=
  if value ≤ 0x7FFFFFFF then value.toNat else -1 - ((0xFFFFFFFF - value).toNat : ℤ)

/-- One move of a segment, at an offset. -/
def decodeMotionMove (payload : List UInt8) (entry : ℕ) :
    Except MotionPayloadException MotionAxisMovePayload :=
  if getU32 payload entry = 0 then .error ⟨.invalidValue, "运动轴资源 ID 不能为零"⟩
  else .ok { resourceId := getU32 payload entry, steps := decodeI32 (getU32 payload (entry + 4)) }

/-- `decode_motion_segment`, which checks the length, the reserved bytes and each move. -/
def decodeMotionSegment (payload : List UInt8) :
    Except MotionPayloadException MotionSegmentPayload := do
  if payload.length < kSegmentHeaderSize then
    throw ⟨.invalidLength, "运动段载荷过短"⟩
  let axisCount := (byteAt payload 21).toNat
  validateAxisCount axisCount
  if payload.length ≠ kSegmentHeaderSize + axisCount * kMoveSize ∨ byteAt payload 20 > 1 ∨
      getU16 payload 22 ≠ 0 then
    throw ⟨.invalidLength, "运动段载荷长度或保留字段无效"⟩
  if getU32 payload 0 = 0 ∨ getU64 payload 12 = 0 then
    throw ⟨.invalidValue, "运动段序号和持续时间必须非零"⟩
  let axes ← (List.range axisCount).mapM fun index =>
    decodeMotionMove payload (kSegmentHeaderSize + index * kMoveSize)
  return {
    sequence := getU32 payload 0
    startTimeNs := getU64 payload 4
    durationNs := getU64 payload 12
    finalSegment := byteAt payload 20 ≠ 0
    axes := axes }

/-- One move of a segment, as it is written. -/
def MotionAxisMovePayload.bytes (axis : MotionAxisMovePayload) : List UInt8 :=
  putU32 axis.resourceId ++ putU32 (UInt32.ofInt axis.steps)

/-- One move of a segment, if it names an axis. -/
def encodeMotionMove (axis : MotionAxisMovePayload) : Except MotionPayloadException (List UInt8) :=
  if axis.resourceId = 0 then .error ⟨.invalidValue, "运动轴资源 ID 不能为零"⟩ else .ok axis.bytes

/-- `encode_motion_segment`, which checks what the decoder would refuse. -/
def encodeMotionSegment (segment : MotionSegmentPayload) :
    Except MotionPayloadException (List UInt8) := do
  validateAxisCount segment.axes.length
  if segment.sequence = 0 ∨ segment.durationNs = 0 then
    throw ⟨.invalidValue, "运动段序号和持续时间必须非零"⟩
  let axes ← segment.axes.mapM encodeMotionMove
  return putU32 segment.sequence ++ putU64 segment.startTimeNs ++ putU64 segment.durationNs ++
    [segment.finalSegment.toUInt8, UInt8.ofNat segment.axes.length] ++ putU16 0 ++ axes.flatten

/-- `encode_motion_acceptance`, in the layout of a segment without moves. -/
def encodeMotionAcceptance (acceptance : MotionAcceptancePayload) :
    Except MotionPayloadException (List UInt8) :=
  if acceptance.sequence = 0 ∨ acceptance.durationNs = 0 then
    .error ⟨.invalidValue, "运动入队确认字段无效"⟩
  else .ok (putU32 acceptance.sequence ++ putU64 acceptance.startTimeNs ++
    putU64 acceptance.durationNs ++ [acceptance.finalSegment.toUInt8, 0] ++ putU16 0)

/-- `decode_motion_acceptance`, which checks the length and the reserved bytes. -/
def decodeMotionAcceptance (payload : List UInt8) :
    Except MotionPayloadException MotionAcceptancePayload := do
  if payload.length ≠ kSegmentHeaderSize ∨ byteAt payload 20 > 1 ∨ byteAt payload 21 ≠ 0 ∨
      getU16 payload 22 ≠ 0 then
    throw ⟨.invalidLength, "运动入队确认长度或保留字段无效"⟩
  let acceptance : MotionAcceptancePayload := {
    sequence := getU32 payload 0
    startTimeNs := getU64 payload 4
    durationNs := getU64 payload 12
    finalSegment := byteAt payload 20 ≠ 0 }
  if acceptance.sequence = 0 ∨ acceptance.durationNs = 0 then
    throw ⟨.invalidValue, "运动入队确认字段无效"⟩
  return acceptance

/-- The flags of an axis in a status: its three outputs, as bits. -/
def MotionAxisStatusPayload.flags (axis : MotionAxisStatusPayload) : UInt8 :=
  (if axis.enabled then 0x01 else 0) ||| (if axis.directionPositive then 0x02 else 0) |||
    (if axis.stepLevel then 0x04 else 0)

/-- One axis of a status, whose ID may not be zero. -/
def encodeMotionAxisStatus (axis : MotionAxisStatusPayload) :
    Except MotionPayloadException (List UInt8) :=
  if axis.resourceId = 0 then .error ⟨.invalidValue, "运动状态轴资源 ID 不能为零"⟩
  else .ok (putU32 axis.resourceId ++ [axis.flags, 0, 0, 0] ++
    putU64 (UInt64.ofInt axis.positionSteps) ++ putU64 axis.emittedSteps)

/-- `encode_motion_status`: the counters, then the axes. -/
def encodeMotionStatus (status : MotionStatusPayload) :
    Except MotionPayloadException (List UInt8) := do
  validateAxisCount status.axes.length
  if status.queueDepth > status.queueCapacity ∨
      status.metrics.maximumQueueDepth > status.queueCapacity then
    throw ⟨.invalidValue, "运动队列状态无效"⟩
  let axes ← status.axes.mapM encodeMotionAxisStatus
  return [status.state, status.fault, UInt8.ofNat status.axes.length, 0] ++
    putU64 status.nodeTimeNs ++ putU16 status.queueDepth ++ putU16 status.queueCapacity ++
    putU32 status.lastAcceptedSequence ++ putU32 status.lastCompletedSequence ++
    putU64 status.metrics.acceptedSegments ++ putU64 status.metrics.rejectedSegments ++
    putU64 status.metrics.completedSegments ++ putU64 status.metrics.emittedEdges ++
    putU64 status.metrics.emittedSteps ++ putU64 status.metrics.safetyStops ++
    putU64 status.metrics.limitStops ++ putU64 status.metrics.queueUnderruns ++
    putU16 status.metrics.maximumQueueDepth ++ putU16 0 ++ axes.flatten

/-- `kStatusHeaderSize`, the bytes of a status before its axes. -/
def kStatusHeaderSize : ℕ := 92

/-- `kAxisStatusSize`, the bytes of an axis in a status. -/
def kAxisStatusSize : ℕ := 24

/-- `decode_i64`, from two's complement. -/
def decodeI64 (value : UInt64) : ℤ :=
  if value ≤ 0x7FFFFFFFFFFFFFFF then value.toNat
  else -1 - ((0xFFFFFFFFFFFFFFFF - value).toNat : ℤ)

/-- One axis of a status, at an offset. -/
def decodeMotionAxisStatus (payload : List UInt8) (entry : ℕ) :
    Except MotionPayloadException MotionAxisStatusPayload :=
  let flags := byteAt payload (entry + 4)
  if getU32 payload (entry + 4) > 0x07 ∨ getU32 payload entry = 0 then
    .error ⟨.invalidValue, "运动轴状态标志无效"⟩
  else .ok {
    resourceId := getU32 payload entry
    enabled := flags &&& 0x01 ≠ 0
    directionPositive := flags &&& 0x02 ≠ 0
    stepLevel := flags &&& 0x04 ≠ 0
    positionSteps := decodeI64 (getU64 payload (entry + 8))
    emittedSteps := getU64 payload (entry + 16) }

/-- The fields of a status before its axes. -/
def decodeMotionStatusHeader (payload : List UInt8) : MotionStatusPayload where
  state := byteAt payload 0
  fault := byteAt payload 1
  nodeTimeNs := getU64 payload 4
  queueDepth := getU16 payload 12
  queueCapacity := getU16 payload 14
  lastAcceptedSequence := getU32 payload 16
  lastCompletedSequence := getU32 payload 20
  metrics := {
    acceptedSegments := getU64 payload 24
    rejectedSegments := getU64 payload 32
    completedSegments := getU64 payload 40
    emittedEdges := getU64 payload 48
    emittedSteps := getU64 payload 56
    safetyStops := getU64 payload 64
    limitStops := getU64 payload 72
    queueUnderruns := getU64 payload 80
    maximumQueueDepth := getU16 payload 88 }
  axes := []

/-- `decode_motion_status`, which checks the length, the reserved byte and each axis. -/
def decodeMotionStatus (payload : List UInt8) :
    Except MotionPayloadException MotionStatusPayload := do
  if payload.length < kStatusHeaderSize then
    throw ⟨.invalidLength, "运动状态载荷过短"⟩
  let axisCount := (byteAt payload 2).toNat
  validateAxisCount axisCount
  if byteAt payload 0 > 3 ∨ byteAt payload 1 > 3 ∨ byteAt payload 3 ≠ 0 ∨
      payload.length ≠ kStatusHeaderSize + axisCount * kAxisStatusSize ∨ getU16 payload 90 ≠ 0 then
    throw ⟨.invalidValue, "运动状态枚举、长度或保留字段无效"⟩
  let status := decodeMotionStatusHeader payload
  if status.queueDepth > status.queueCapacity ∨
      status.metrics.maximumQueueDepth > status.queueCapacity then
    throw ⟨.invalidValue, "运动队列状态无效"⟩
  let axes ← (List.range axisCount).mapM fun index =>
    decodeMotionAxisStatus payload (kStatusHeaderSize + index * kAxisStatusSize)
  return { status with axes := axes }

end RemoteBSP
