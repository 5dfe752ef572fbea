import RemoteBSP.Firmware.Codec
import RemoteBSP.Firmware.MotionRing
import RemoteBSP.Firmware.Replies
import RemoteBSP.Protocol.MotionCodec

/-!
# Motion on the wire

The host and the firmware have their own code for the bodies of MOTION_ENQUEUE and MOTION_STATUS.
`motion_wire_agreement`: the firmware queues the segment that the host has encoded, and the host
decodes what the firmware has accepted and how its queue stands, in every run of the node.

Nothing that the host's decoder refuses is ever in the queue of the node, because the queue of a
node behaves like the motion queue alone (`motion_simulates`), whose invariant bounds the depths.
-/

namespace RemoteBSP

/-! ## What the host writes -/

/-- The move is one of the axis with a number. -/
def MotionAxisMovePayload.moves (axis : ℕ) (move : MotionAxisMovePayload) : Bool :=
  move.resourceId.toNat = 0x09000000 + axis

/-- The steps of an axis, zero if no move is listed for it. -/
def stepsOf (moves : List MotionAxisMovePayload) (axis : ℕ) : ℤ :=
  ((moves.find? (·.moves axis)).map (·.steps)).getD 0

/-- The moves are of distinct axes of a node. -/
structure MotionSegmentPayload.Addresses (axisCount : UInt8) (segment : MotionSegmentPayload) :
    Prop where
  /-- Each move is of an axis that the board has. -/
  axes : ∀ move ∈ segment.axes, ∃ axis < axisCount.toNat,
    move.resourceId = 0x09000000 + UInt32.ofNat axis
  /-- No axis has two moves. -/
  distinct : (segment.axes.map (·.resourceId)).Nodup
  /-- The steps of each move are a value of `int32_t`. -/
  steps : ∀ move ∈ segment.axes, -2^31 ≤ move.steps ∧ move.steps < 2^31

/-- The resource ID of an axis, as the firmware takes it apart. -/
theorem axisId_spec {axis : ℕ} (h : axis < 256) :
    (0x09000000 + UInt32.ofNat axis) &&& 0xFFFFFF00 = 0x09000000 ∧
      (0x09000000 + UInt32.ofNat axis).toUInt8.toNat = axis ∧
      (0x09000000 + UInt32.ofNat axis).toNat = 0x09000000 + axis := by
  have hall : ∀ axis : Fin 256,
      (0x09000000 + UInt32.ofNat axis.val) &&& 0xFFFFFF00 = 0x09000000 ∧
        (0x09000000 + UInt32.ofNat axis.val).toUInt8.toNat = axis.val ∧
        (0x09000000 + UInt32.ofNat axis.val).toNat = 0x09000000 + axis.val := by decide +kernel
  exact hall ⟨axis, h⟩

/-- A value of `int32_t`, written as an unsigned one and read as a signed one. -/
theorem toInt32_ofInt (steps : ℤ) : (UInt32.ofInt steps).toInt32 = Int32.ofInt steps := by
  apply Int32.toBitVec_inj.1
  apply BitVec.eq_of_toNat_eq
  rw [UInt32.toBitVec_toInt32, Int32.toBitVec_ofInt, BitVec.toNat_ofInt, UInt32.toNat_toBitVec,
    toNat_ofInt32]
  rfl

namespace Firmware

/-- The segment that a host asks a node to queue. -/
def requestedSegment (axisCount : UInt8) (segment : MotionSegmentPayload) : MotionSegment where
  sequence := segment.sequence
  startTimeNs := segment.startTimeNs
  durationNs := segment.durationNs
  axisCount := axisCount
  finalSegment := segment.finalSegment
  steps axis := Int32.ofInt (stepsOf segment.axes axis)

/-- What the loop over the entries has collected of some moves. -/
structure Collected (moves : List MotionAxisMovePayload) (state : (ℕ → Bool) × (ℕ → Int32)) :
    Prop where
  /-- An axis has been seen if a move is of it. -/
  seen : ∀ axis, state.1 axis = moves.any (·.moves axis)
  /-- An axis has the steps of its moves. -/
  steps : ∀ axis, state.2 axis = Int32.ofInt (stepsOf moves axis)

/-- An entry of the payload adds the move that it encodes. -/
theorem addAxisSteps_collected {axisCount : UInt8} {payload : List UInt8} {index axis : ℕ}
    {moves : List MotionAxisMovePayload} {move : MotionAxisMovePayload}
    {state : (ℕ → Bool) × (ℕ → Int32)} (h : Collected moves state)
    (hbytes : StandsAt payload (24 + index * 8) move.bytes) (haxis : axis < axisCount.toNat)
    (hid : move.resourceId = 0x09000000 + UInt32.ofNat axis)
    (hnew : ∀ other ∈ moves, other.resourceId ≠ move.resourceId) :
    ∃ state', Core.addAxisSteps axisCount payload state index = some state' ∧
      Collected (moves ++ [move]) state' := by
  -- The resource ID of an axis passes the mask, and its last byte is the number of the axis.
  obtain ⟨hmask, hbyte, hvalue⟩ := axisId_spec (haxis.trans axisCount.toNat_lt)
  rw [← hid] at hmask hbyte hvalue
  have hresource : getU32 payload (24 + index * 8) = move.resourceId :=
    (hbytes.part (show move.bytes = [] ++ putU32 move.resourceId ++ _ from rfl)).readU32
  have hsteps : getU32 payload (24 + index * 8 + 4) = UInt32.ofInt move.steps :=
    (hbytes.part (show move.bytes = putU32 move.resourceId ++ _ ++ [] from rfl)).readU32
  -- Of all axes, the move is about this one only, and no earlier move is.
  have hmoves : ∀ a, move.moves a = decide (a = axis) := by
    intro a
    unfold MotionAxisMovePayload.moves
    rw [hvalue]
    exact decide_eq_decide.2 ⟨fun heq => (Nat.add_left_cancel heq).symm, fun heq => by rw [heq]⟩
  have hothers : ∀ other ∈ moves, other.moves axis = false := by
    intro other hmem
    refine decide_eq_false fun heq => hnew other hmem ?_
    rw [← hvalue] at heq
    exact UInt32.toNat_inj.1 heq
  have hunseen : state.1 axis = false := by
    rw [h.seen, List.any_eq_false]
    intro other hmem
    rw [hothers other hmem]
    exact Bool.false_ne_true
  have hfind : moves.find? (·.moves axis) = none := by
    rw [List.find?_eq_none]
    intro other hmem
    rw [hothers other hmem]
    exact Bool.false_ne_true
  -- The entry is taken, and marks its axis as seen.
  refine ⟨(Function.update state.1 axis true, Function.update state.2 axis
    (Int32.ofInt move.steps)), ?_, ?_, ?_⟩
  · unfold Core.addAxisSteps
    dsimp only
    rw [hresource, if_neg (not_not.2 hmask), hbyte, hunseen, if_neg, hsteps, toInt32_ofInt]
    rintro (hle | htrue)
    · rw [UInt8.le_iff_toNat_le, hbyte] at hle
      omega
    · exact Bool.false_ne_true htrue
  · intro a
    dsimp only
    rw [List.any_append, List.any_cons, List.any_nil, Bool.or_false, hmoves, ← h.seen]
    by_cases heq : a = axis
    · subst heq
      rw [Function.update_self, decide_eq_true rfl, Bool.or_true]
    · rw [Function.update_of_ne heq, decide_eq_false heq, Bool.or_false]
  · intro a
    unfold stepsOf
    dsimp only
    rw [List.find?_append, List.find?_singleton, hmoves]
    by_cases heq : a = axis
    · subst heq
      rw [Function.update_self, hfind, if_pos (decide_eq_true rfl)]
      rfl
    · rw [Function.update_of_ne heq, if_neg (by rw [decide_eq_false heq]; exact Bool.false_ne_true),
        Option.or_none, h.steps]
      rfl

/-- The loop over the entries of a segment that a host has written. -/
theorem collected_fold {axisCount : UInt8} {segment : MotionSegmentPayload}
    (h : segment.Addresses axisCount) {k : ℕ} (hk : k ≤ segment.axes.length) :
    ∃ state, (List.range k).foldlM (Core.addAxisSteps axisCount
        (segment.header ++ segment.axes.flatMap MotionAxisMovePayload.bytes))
        (fun _ => false, fun _ => 0) = some state ∧ Collected (segment.axes.take k) state := by
  induction k with
  | zero => exact ⟨_, rfl, fun _ => rfl, fun _ => rfl⟩
  | succ k ih =>
    obtain ⟨state, hfold, hcollected⟩ := ih (Nat.le_of_succ_le hk)
    obtain ⟨axis, haxis, hid⟩ := h.axes _ (List.getElem_mem hk)
    have htake : segment.axes.take (k + 1) = segment.axes.take k ++ [segment.axes[k]] :=
      List.take_succ_eq_append_getElem hk
    -- The axes before this one are other ones.
    have hnew : ∀ other ∈ segment.axes.take k, other.resourceId ≠ segment.axes[k].resourceId := by
      have hdistinct := h.distinct.sublist ((List.take_sublist (k + 1) segment.axes).map _)
      rw [htake, List.map_append, List.nodup_append] at hdistinct
      intro other hmem
      exact hdistinct.2.2 _ (List.mem_map_of_mem hmem) _ List.mem_cons_self
    have hbytes : StandsAt (segment.header ++ segment.axes.flatMap MotionAxisMovePayload.bytes)
        (24 + k * 8) segment.axes[k].bytes :=
      standsAt_flatMap MotionAxisMovePayload.length_bytes segment.header segment.axes hk
    obtain ⟨state', hadd, hnext⟩ := addAxisSteps_collected hcollected hbytes haxis hid hnew
    refine ⟨state', ?_, htake ▸ hnext⟩
    rw [List.range_succ, List.foldlM_append, hfold]
    exact (Option.bind_some _ _).trans ((List.foldlM_cons ..).trans (by rw [hadd]; rfl))

/-- There are not more distinct axes than the node has. -/
theorem length_axes_le {axisCount : UInt8} {segment : MotionSegmentPayload}
    (h : segment.Addresses axisCount) : segment.axes.length ≤ axisCount.toNat := by
  have hsubset : segment.axes.map (·.resourceId) ⊆
      (List.range axisCount.toNat).map fun axis => 0x09000000 + UInt32.ofNat axis := by
    intro resourceId hmem
    obtain ⟨move, hmove, rfl⟩ := List.mem_map.1 hmem
    obtain ⟨axis, haxis, hid⟩ := h.axes move hmove
    exact List.mem_map.2 ⟨axis, List.mem_range.2 haxis, hid.symm⟩
  have hle := (h.distinct.subperm hsubset).length_le
  rwa [List.length_map, List.length_map, List.length_range] at hle

/-- What a host is told about a segment that is accepted. -/
def acceptancePayload (accepted : MotionSegment) : MotionAcceptancePayload where
  sequence := accepted.sequence
  startTimeNs := accepted.startTimeNs
  durationNs := accepted.durationNs
  finalSegment := accepted.finalSegment

variable {config : CoreConfig} {W : Type} {board : Board W} {core : Core config W}
  {request : Request}

/-- The handler queues the segment that the host has encoded. -/
theorem handleMotionEnqueue_eq {motion : MotionConfig} {hal : MotionHal W}
    (hhal : board.hal.motion = some hal) {segment : MotionSegmentPayload}
    (hencode : encodeMotionSegment segment = .ok request.payload) (hobject : request.objectId = 0)
    (haddresses : segment.Addresses core.motion.axisCount) :
    core.handleMotionEnqueue board request motion =
      let (nowNs, world) := hal.nanoseconds core.world
      let (result, accepted, queue) := core.motion.enqueue motion
        (requestedSegment core.motion.axisCount segment) nowNs
      let core := { core with motion := queue, world := world }
      match accepted with
      | none => Core.answer core request (Core.enqueueStatus result) 0 []
      | some accepted => Core.answer core request .ok 0 (acceptancePayload accepted).bytes := by
  obtain ⟨hencodable, hbytes⟩ := MotionSegmentPayload.encode_eq_ok_iff.1 hencode
  have hpayload : request.payload =
      segment.header ++ segment.axes.flatMap MotionAxisMovePayload.bytes := hbytes.symm
  have haxes : segment.axes.length < 256 := lt_of_le_of_lt hencodable.axes_le (by decide)
  -- The fields stand in the payload where the host has put them.
  have hcount : (byteAt request.payload 21).toNat = segment.axes.length := by
    rw [hpayload]
    exact UInt8.toNat_ofNat_of_lt' haxes
  have hlength : request.payload.length = 24 + segment.axes.length * 8 := by
    rw [← hbytes, MotionSegmentPayload.length_bytes]
    rfl
  have h0 : getU32 request.payload 0 = segment.sequence := by
    rw [hpayload]
    exact getU32_eq_of_bytes rfl rfl rfl rfl
  have h4 : getU64 request.payload 4 = segment.startTimeNs := by
    rw [hpayload]
    exact getU64_eq_of_bytes rfl rfl rfl rfl rfl rfl rfl rfl
  have h12 : getU64 request.payload 12 = segment.durationNs := by
    rw [hpayload]
    exact getU64_eq_of_bytes rfl rfl rfl rfl rfl rfl rfl rfl
  have h20 : byteAt request.payload 20 = segment.finalSegment.toUInt8 := by
    rw [hpayload]
    rfl
  have h22 : getU16 request.payload 22 = 0 := by
    rw [hpayload]
    exact getU16_eq_of_bytes rfl rfl
  have hfinal : ¬segment.finalSegment.toUInt8 > 1 ∧
      decide (segment.finalSegment.toUInt8 ≠ 0) = segment.finalSegment := by
    cases segment.finalSegment <;> decide
  -- The loop over the axes collects the steps of each of them.
  obtain ⟨⟨seen, steps⟩, hfold, hcollected⟩ := collected_fold haddresses le_rfl
  rw [List.take_length] at hcollected
  have hsteps : steps = fun axis => Int32.ofInt (stepsOf segment.axes axis) :=
    funext hcollected.steps
  have hlong : request.payload.length ≥ 24 := by omega
  -- The handler passes its checks and reads the segment.
  unfold Core.handleMotionEnqueue
  rw [hhal]
  dsimp only
  rw [if_pos hlong, if_neg]
  · rw [hcount, hpayload, hfold, ← hpayload]
    dsimp only
    rw [h0, h4, h12, h20, hfinal.2, hsteps]
    rfl
  · rw [not_or, not_or, not_or, not_or, not_or, hcount, h20, h22]
    have hpos := hencodable.axes_pos
    refine ⟨not_not.2 hobject, not_not.2 hlength, fun hzero => ?_, fun hmany => ?_, hfinal.1,
      not_not.2 rfl⟩
    · rw [hzero] at hcount
      exact hpos.ne hcount
    · have hle := length_axes_le haddresses
      rw [gt_iff_lt, UInt8.lt_iff_toNat_lt, hcount] at hmany
      omega

/-! ## The queue of a node -/

/-- One operation of a node is, for its motion queue, a run of the queue. -/
theorem motion_simulates {motion : MotionConfig} (hmotion : config.motion = some motion)
    {hal : MotionHal W} (hhal : board.hal.motion = some hal) (core : Core config W)
    (op : CoreOp W) : ∃ ops, (motionOutputs motion hal.io).run ⟨core.motion, core.world⟩ ops =
      ⟨(core.step board op).motion, (core.step board op).world⟩ := by
  -- The world of the node can be put into place behind the calls.
  have hworld : ∀ (calls : List (MotionOp W)) {queue : MotionQueue} {world' : W},
      ((motionOutputs motion hal.io).run ⟨core.motion, core.world⟩ calls).queue = queue →
      ∃ ops, (motionOutputs motion hal.io).run ⟨core.motion, core.world⟩ ops =
        ⟨queue, world'⟩ := by
    intro calls queue world' hrun
    refine ⟨calls ++ [.environment world'], ?_⟩
    rw [Machine.run_concat, ← hrun]
    rfl
  -- A tick takes place in the world that the clock leaves behind.
  have htick : ∀ c : Core config W, (c.motionTick board motion).2.motion =
      (Executor.tick motion hal.io ⟨c.motion, (hal.nanoseconds c.world).2⟩
        (hal.nanoseconds c.world).1).2.queue := by
    intro c
    unfold Core.motionTick
    rw [hhal]
  have hsame : ∀ motion', config.motion = some motion' → motion' = motion :=
    fun motion' h => Option.some.inj (h.symm.trans hmotion)
  cases op with
  | acceptCan frame =>
    obtain ⟨ready, after, hidle, hchange, heq⟩ := Core.acceptCan_change board core frame
    have hready : ready.motion = core.motion := by rw [hidle.eq]
    have hafter : (core.step board (.acceptCan frame)).motion = after.motion := by
      show (core.acceptCan board frame).motion = _
      rw [heq]
    suffices hqueue : ∃ calls, ((motionOutputs motion hal.io).run ⟨core.motion, core.world⟩
        calls).queue = after.motion by
      obtain ⟨calls, hrun⟩ := hqueue
      rw [hafter]
      exact hworld calls hrun
    rw [← hready]
    cases hchange with
    | outside | assigned | gpioCreated | uartCreated => exact ⟨[], rfl⟩
    | enqueued motion' segment nowNs world hmotion' =>
      obtain rfl := hsame motion' hmotion'
      exact ⟨[.enqueue segment nowNs], rfl⟩
    | aborted motion' hmotion' =>
      obtain rfl := hsame motion' hmotion'
      refine ⟨[.abort .aborted, .environment (hal.nanoseconds ready.world).2,
        .tick (hal.nanoseconds ready.world).1], ?_⟩
      rw [htick]
      rfl
    | cleared motion' nowNs world hmotion' => exact ⟨[.clearFault nowNs], rfl⟩
  | poll =>
    have hqueue : (core.step board .poll).motion = core.motion := by
      show (core.poll board).motion = _
      rcases Core.poll_cases board core with ⟨_, _, _, -, -, heq⟩ | ⟨-, heq⟩
      · rw [heq]
      · rw [heq, Core.polled_pollCore board _ _]
        rfl
    rw [hqueue]
    exact hworld [] rfl
  | motionTick =>
    have hqueue : (core.step board .motionTick).motion =
        (core.motionTick board motion).2.motion := by
      unfold Core.step
      rw [hmotion]
    rw [hqueue, htick]
    exact hworld [.environment (hal.nanoseconds core.world).2,
      .tick (hal.nanoseconds core.world).1] rfl
  | elapse world => exact ⟨[.environment world], rfl⟩

/-- What holds of the queue of a node in every run. -/
theorem motion_kept {motion : MotionConfig} (hmotion : config.motion = some motion)
    {hal : MotionHal W} (hhal : board.hal.motion = some hal) {world : W} {start : Core config W}
    (hinit : Core.init config board world = some start) (ops : List (CoreOp W)) :
    let queue := ((firmware config board fun _ _ => ()).run start ops).motion
    queue.RingOrder motion ∧ queue.axisCount = board.hal.motionAxisCount ∧
      0 < queue.axisCount.toNat ∧ queue.axisCount.toNat ≤ motion.maxAxes := by
  intro queue
  -- The queue is the one of `rbsp_motion_init`.
  obtain ⟨first, hfirst, hstart⟩ := Option.map_eq_some_iff.1 hinit
  have hqueue : MotionQueue.init motion board.hal.motionAxisCount = some start.motion := by
    unfold Core.initMotion at hfirst
    rw [hmotion] at hfirst
    rw [← hstart]
    exact hfirst
  -- The operations of the node are calls of its executor.
  have hrun : ∃ moves, (motionOutputs motion hal.io).run ⟨start.motion, start.world⟩ moves =
      ⟨queue, ((firmware config board fun _ _ => ()).run start ops).world⟩ := by
    refine (firmware config board fun _ _ => ()).run_induction
      (P := fun core => ∃ moves, (motionOutputs motion hal.io).run ⟨start.motion, start.world⟩
        moves = ⟨core.motion, core.world⟩) ?_ ⟨[], rfl⟩ ops
    rintro core op ⟨moves, hmoves⟩
    obtain ⟨more, hmore⟩ := motion_simulates hmotion hhal core op
    exact ⟨moves ++ more, by rw [Machine.run_append, hmoves, hmore]; rfl⟩
  obtain ⟨moves, hmoves⟩ := hrun
  -- What holds in every run of the executor holds of this queue.
  have hkept : ((motionOutputs motion hal.io).run ⟨start.motion, start.world⟩
      moves).queue.RingOrder motion ∧ _ := Executor.kept_run hqueue start.world moves
  rw [hmoves] at hkept
  obtain ⟨horder, hsafe⟩ := hkept
  have hcount : queue.axisCount = board.hal.motionAxisCount := UInt8.toNat_inj.1 hsafe.axisCount
  refine ⟨horder, hcount, ?_⟩
  rw [hcount]
  unfold MotionQueue.init at hqueue
  split at hqueue
  · cases hqueue
  · next hvalid =>
    obtain ⟨hzero, hmany⟩ := not_or.1 hvalid
    exact ⟨Nat.pos_of_ne_zero fun h => hzero (UInt8.toNat_inj.1 h), not_lt.1 hmany⟩

/-! ## What the host is told about the queue -/

/-- What a host is told about an axis. The position is the value of `int64_t` that the queue
holds. -/
def axisPayload (queue : MotionQueue) (axis : ℕ) : MotionAxisStatusPayload where
  resourceId := 0x09000000 + UInt32.ofNat axis
  enabled := queue.enabled axis
  directionPositive := queue.directionPositive axis
  stepLevel := queue.stepHigh axis
  positionSteps := (Int64.ofInt (queue.positionSteps axis)).toInt
  emittedSteps := queue.emittedSteps axis

/-- The steps of all axes, at most `UINT64_MAX`. -/
def saturatedSteps (queue : MotionQueue) : ℕ :=
  min ((List.range queue.axisCount.toNat).map fun axis => (queue.emittedSteps axis).toNat).sum
    (2^64 - 1)

/-- The status describes a queue at a time. -/
structure Describes (motion : MotionConfig) (queue : MotionQueue) (nowNs : UInt64)
    (status : MotionStatusPayload) : Prop where
  /-- The state is the number of the queue's. -/
  state : status.state = Core.motionStateValue queue.state
  /-- The fault is the number of the queue's. -/
  fault : status.fault = Core.motionFaultValue queue.fault
  /-- The time is the one that the node has read. -/
  nodeTimeNs : status.nodeTimeNs = nowNs
  /-- The depth is the number of the segments in the ring. -/
  queueDepth : status.queueDepth.toNat = queue.size
  /-- The capacity is the number of the segments that the ring has room for. -/
  queueCapacity : status.queueCapacity.toNat = motion.queueDepth
  /-- The sequences are those of the last segments accepted and completed. -/
  sequences : status.lastAcceptedSequence = queue.lastAcceptedSequence ∧
    status.lastCompletedSequence = queue.lastCompletedSequence
  /-- The counters of the segments are those of the queue. -/
  segments : status.metrics.acceptedSegments = queue.acceptedSegments ∧
    status.metrics.rejectedSegments = queue.rejectedSegments ∧
    status.metrics.completedSegments = queue.completedSegments
  /-- The counters of the edges and the steps are those of the queue. -/
  steps : status.metrics.emittedEdges = queue.emittedEdges ∧
    status.metrics.emittedSteps.toNat = saturatedSteps queue
  /-- The counters of the stops are those of the queue. -/
  stops : status.metrics.safetyStops = queue.safetyStops ∧
    status.metrics.limitStops = queue.limitStops ∧
    status.metrics.queueUnderruns = queue.queueUnderruns
  /-- The largest depth is the most segments that the ring has held at once. -/
  maximumQueueDepth : status.metrics.maximumQueueDepth.toNat = queue.maximumQueueDepth
  /-- The axes are those in use, in their order. -/
  axes : status.axes = (List.range queue.axisCount.toNat).map (axisPayload queue)
  /-- The positions are exact, if `int64_t` has room for them. -/
  positions : ∀ axis, -2^63 ≤ queue.positionSteps axis → queue.positionSteps axis < 2^63 →
    (axisPayload queue axis).positionSteps = queue.positionSteps axis

/-- The status that a node writes. -/
def statusPayload (motion : MotionConfig) (queue : MotionQueue) (nowNs : UInt64) :
    MotionStatusPayload where
  state := Core.motionStateValue queue.state
  fault := Core.motionFaultValue queue.fault
  nodeTimeNs := nowNs
  queueDepth := UInt16.ofNat queue.size
  queueCapacity := UInt16.ofNat motion.queueDepth
  lastAcceptedSequence := queue.lastAcceptedSequence
  lastCompletedSequence := queue.lastCompletedSequence
  metrics := {
    acceptedSegments := queue.acceptedSegments
    rejectedSegments := queue.rejectedSegments
    completedSegments := queue.completedSegments
    emittedEdges := queue.emittedEdges
    emittedSteps := Core.totalSteps queue
    safetyStops := queue.safetyStops
    limitStops := queue.limitStops
    queueUnderruns := queue.queueUnderruns
    maximumQueueDepth := UInt16.ofNat queue.maximumQueueDepth }
  axes := (List.range queue.axisCount.toNat).map (axisPayload queue)

/-- The node writes the bytes that the host would write. -/
theorem motionStatusData_eq (motion : MotionConfig) (queue : MotionQueue) (nowNs : UInt64) :
    Core.motionStatusData motion queue nowNs = (statusPayload motion queue nowNs).bytes := by
  have hposition : ∀ p : ℤ, UInt64.ofInt (Int64.ofInt p).toInt = UInt64.ofInt p := by
    intro p
    rw [← UInt64.toNat_inj, toNat_ofInt64, toNat_ofInt64, Int64.toInt_ofInt]
    exact congrArg Int.toNat (Int.bmod_emod ..)
  have haxis : ∀ axis, Core.axisStatus queue axis = (axisPayload queue axis).bytes := by
    intro axis
    rw [MotionAxisStatusPayload.bytes]
    dsimp only [axisPayload]
    rw [hposition]
    rfl
  have haxes : (statusPayload motion queue nowNs).axes.flatMap MotionAxisStatusPayload.bytes =
      (List.range queue.axisCount.toNat).flatMap (Core.axisStatus queue) := by
    rw [statusPayload, List.flatMap_map]
    exact List.flatMap_congr fun axis _ => (haxis axis).symm
  have hcount : UInt8.ofNat (statusPayload motion queue nowNs).axes.length = queue.axisCount := by
    rw [statusPayload, List.length_map, List.length_range, UInt8.ofNat_toNat]
  rw [MotionStatusPayload.bytes, haxes, MotionStatusPayload.header, hcount]
  rfl

/-- The steps of all axes add up to the greatest number at most. -/
theorem toNat_totalSteps (queue : MotionQueue) :
    (Core.totalSteps queue).toNat = saturatedSteps queue := by
  have hmax : (0xFFFFFFFFFFFFFFFF : UInt64).toNat = 2^64 - 1 := rfl
  -- Each addition saturates, and so does the whole sum.
  have hfold : ∀ (axes : List ℕ) (sum : UInt64),
      (axes.foldl (fun sum axis => if 0xFFFFFFFFFFFFFFFF - sum < queue.emittedSteps axis then
        0xFFFFFFFFFFFFFFFF else sum + queue.emittedSteps axis) sum).toNat =
      min (sum.toNat + (axes.map fun axis => (queue.emittedSteps axis).toNat).sum) (2^64 - 1) := by
    intro axes
    induction axes with
    | nil =>
      intro sum
      have hlt := sum.toNat_lt
      rw [List.foldl_nil, List.map_nil, List.sum_nil]
      omega
    | cons axis axes ih =>
      intro sum
      have hlt := sum.toNat_lt
      have hle : sum ≤ 0xFFFFFFFFFFFFFFFF := UInt64.le_iff_toNat_le.2 (by omega)
      rw [List.foldl_cons, ih, List.map_cons, List.sum_cons]
      by_cases hfull : 0xFFFFFFFFFFFFFFFF - sum < queue.emittedSteps axis
      · have hover := UInt64.lt_iff_toNat_lt.1 hfull
        rw [UInt64.toNat_sub_of_le _ _ hle, hmax] at hover
        rw [if_pos hfull, hmax]
        omega
      · have hroom := mt UInt64.lt_iff_toNat_lt.2 hfull
        rw [UInt64.toNat_sub_of_le _ _ hle, hmax] at hroom
        have hadd : (sum + queue.emittedSteps axis).toNat =
            sum.toNat + (queue.emittedSteps axis).toNat := by
          rw [UInt64.toNat_add, Nat.mod_eq_of_lt (by omega)]
        rw [if_neg hfull, hadd, Nat.add_assoc]
  have hall := hfold (List.range queue.axisCount.toNat) 0
  rwa [UInt64.toNat_zero, Nat.zero_add] at hall

/-- The host decodes the status of a queue that is in order. -/
theorem decode_motionStatusData {motion : MotionConfig} {queue : MotionQueue}
    (horder : queue.RingOrder motion) (hpos : 0 < queue.axisCount.toNat)
    (hle : queue.axisCount.toNat ≤ motion.maxAxes) (nowNs : UInt64) :
    ∃ status, decodeMotionStatus (Core.motionStatusData motion queue nowNs) = .ok status ∧
      Describes motion queue nowNs status := by
  have hdepth := motion.queueDepth_le
  have hsize := horder.size_le
  have hmaximum := horder.maximum_le
  -- The depth of the queue fits into its field.
  have hword : ∀ {n : ℕ}, n ≤ motion.queueDepth → (UInt16.ofNat n).toNat = n := by
    intro n hn
    have hlt : n < 2^16 := by omega
    exact UInt16.toNat_ofNat_of_lt' hlt
  have haxes : queue.axisCount.toNat ≤ 64 := hle.trans motion.maxAxes_le
  refine ⟨statusPayload motion queue nowNs, ?_, ?_⟩
  · rw [motionStatusData_eq]
    -- The status meets every check of the decoder.
    refine MotionStatusPayload.decode_bytes ⟨?_, ?_, ?_⟩ ⟨?_, ?_, ?_, ?_, ?_⟩
    · show Core.motionStateValue queue.state ≤ 3
      cases queue.state <;> decide
    · show Core.motionFaultValue queue.fault ≤ 3
      cases queue.fault <;> decide
    · intro axis haxis
      obtain ⟨index, -, rfl⟩ := List.mem_map.1 haxis
      exact ⟨Int64.le_toInt _, Int64.toInt_lt _⟩
    · rw [statusPayload, List.length_map, List.length_range]
      exact hpos
    · rw [statusPayload, List.length_map, List.length_range]
      exact haxes
    · show UInt16.ofNat queue.size ≤ UInt16.ofNat motion.queueDepth
      rw [UInt16.le_iff_toNat_le, hword le_rfl, hword (by omega)]
      omega
    · show UInt16.ofNat queue.maximumQueueDepth ≤ UInt16.ofNat motion.queueDepth
      rw [UInt16.le_iff_toNat_le, hword le_rfl, hword (by omega)]
      omega
    · intro axis haxis
      obtain ⟨index, hindex, rfl⟩ := List.mem_map.1 haxis
      have hlt := List.mem_range.1 hindex
      intro hzero
      have hsmall : index < 256 := by omega
      have hvalue := (axisId_spec hsmall).2.2
      rw [show 0x09000000 + UInt32.ofNat index = 0 from hzero] at hvalue
      exact absurd hvalue (by show 0 ≠ _; omega)
  · exact ⟨rfl, rfl, rfl, hword (by omega), hword le_rfl, ⟨rfl, rfl⟩, ⟨rfl, rfl, rfl⟩,
      ⟨rfl, toNat_totalSteps queue⟩, ⟨rfl, rfl, rfl⟩, hword (by omega), rfl,
      fun axis => Int64.toInt_ofInt_of_le⟩

/-! ## The commands -/

/-- The response is one to the request, and says that it succeeded, with a body. This is what a
client checks before it decodes the body. -/
def Answered (request : Request) (response body : List UInt8) : Prop :=
  ∃ packet, decode response = .ok packet ∧ packet.header.messageType = .response ∧
    packet.header.command = request.command ∧ packet.payload = Status.ok.value :: body

/-- A response with the status OK that fits into a packet tells the host its body. -/
theorem answered_makeStatusResponse {objectId : UInt32} {data : List UInt8}
    (h : 25 + data.length ≤ kMaximumPacketSize) :
    Answered request (makeStatusResponse request .ok objectId data) data := by
  set header : PacketHeader := {
    version := kProtocolVersion
    messageType := .response
    command := request.command
    sessionId := request.sessionId
    requestId := request.requestId
    objectId := objectId
    payloadLength := 0
    flags := 0
    crc := 0 } with hheader
  have hsize : RBSP_HEADER_SIZE + (Status.ok.value :: data).length ≤ kMaximumPacketSize := by
    rw [List.length_cons, RBSP_HEADER_SIZE]
    omega
  have hencode : encode ⟨header, Status.ok.value :: data⟩ =
      .ok (makeStatusResponse request .ok objectId data) := encode_eq_encodePacket rfl hsize
  obtain ⟨hencodable, hbytes⟩ := encode_eq_ok_iff.1 hencode
  have hdecode : decode (makeStatusResponse request .ok objectId data) =
      .ok (Packet.sealed ⟨header, Status.ok.value :: data⟩) :=
    decode_eq_ok_iff.2 ⟨hencodable, rfl, hbytes⟩
  exact ⟨_, hdecode, rfl, rfl, rfl⟩

/-- MOTION_ENQUEUE and MOTION_STATUS are handled by their functions. -/
theorem execute_motion {motion : MotionConfig} (hmotion : config.motion = some motion) :
    (request.command = Command.motionEnqueue → core.execute board request =
      some ⟨(core.handleMotionEnqueue board request motion).1, none,
        (core.handleMotionEnqueue board request motion).2⟩) ∧
    (request.command = Command.motionStatus → core.execute board request =
      some ⟨(core.handleMotionStatus board request motion).1, none,
        (core.handleMotionStatus board request motion).2⟩) := by
  constructor
  · intro hcommand
    unfold Core.execute Core.executeStatus Core.executeOptional
    simp [hcommand, hmotion, Command.motionEnqueue, Command.discoveryRequest, Command.nodeAssign,
      Command.getInfo, Command.getCapability, Command.ping, Command.bootloaderEnter,
      Command.bootloaderEnterUsb, Command.gpioCreate, Command.gpioRead, Command.gpioWrite,
      Command.uartCreate, Command.uartRead, Command.uartWrite]
  · intro hcommand
    unfold Core.execute Core.executeStatus Core.executeOptional
    simp [hcommand, hmotion, Command.motionEnqueue, Command.motionStatus,
      Command.discoveryRequest, Command.nodeAssign, Command.getInfo, Command.getCapability,
      Command.ping, Command.bootloaderEnter, Command.bootloaderEnterUsb, Command.gpioCreate,
      Command.gpioRead, Command.gpioWrite, Command.uartCreate, Command.uartRead,
      Command.uartWrite]

/-- What is accepted was asked for, but for the start. -/
theorem accepted_of_enqueue {motion : MotionConfig} {queue : MotionQueue}
    {requested accepted : MotionSegment} {nowNs : UInt64}
    (h : (queue.enqueue motion requested nowNs).2.1 = some accepted) :
    (queue.enqueue motion requested nowNs).1 = .ok ∧
      ∃ startTimeNs, accepted = { requested with startTimeNs := startTimeNs } := by
  unfold MotionQueue.enqueue at h ⊢
  split at h
  · cases h
  · next startTimeNs _ => exact ⟨rfl, startTimeNs, (Option.some.inj h).symm⟩

/-- The steps of the segment that a node is asked to queue are those that the host has written. -/
theorem toInt_steps_requestedSegment {axisCount : UInt8} {segment : MotionSegmentPayload}
    (haddresses : segment.Addresses axisCount) (axis : ℕ) :
    ((requestedSegment axisCount segment).steps axis).toInt = stepsOf segment.axes axis := by
  show (Int32.ofInt (stepsOf segment.axes axis)).toInt = _
  unfold stepsOf
  cases hfind : segment.axes.find? (·.moves axis) with
  | none => rfl
  | some move =>
    obtain ⟨hlow, hhigh⟩ := haddresses.steps move (List.mem_of_find?_eq_some hfind)
    exact Int32.toInt_ofInt_of_le hlow hhigh

section

variable {motion : MotionConfig} {hal : MotionHal W} {nowNs : UInt64} {later : W}
  {segment : MotionSegmentPayload} {result : EnqueueResult} {queue : MotionQueue}

/-- A MOTION_ENQUEUE gives the segment that the host has encoded to the queue. If it is refused, the
host is told why. -/
theorem execute_motionEnqueue_refused (hmotion : config.motion = some motion)
    (hhal : board.hal.motion = some hal) (hclock : hal.nanoseconds core.world = (nowNs, later))
    (hcommand : request.command = Command.motionEnqueue) (hobject : request.objectId = 0)
    (hencode : encodeMotionSegment segment = .ok request.payload)
    (haddresses : segment.Addresses core.motion.axisCount)
    (henqueue : core.motion.enqueue motion (requestedSegment core.motion.axisCount segment) nowNs =
      (result, none, queue)) :
    core.execute board request =
      some ⟨makeStatusResponse request (Core.enqueueStatus result) 0 [], none,
        { core with motion := queue, world := later }⟩ := by
  have hexecute : core.execute board request = some ⟨_, none, _⟩ :=
    (execute_motion hmotion).1 hcommand
  have hhandle : core.handleMotionEnqueue board request motion = _ :=
    handleMotionEnqueue_eq hhal hencode hobject haddresses
  rw [hclock] at hhandle
  dsimp only at hhandle
  rw [henqueue] at hhandle
  rw [hexecute, hhandle]
  rfl

/-- If it is accepted, the host decodes what has been accepted. -/
theorem execute_motionEnqueue_accepted (hmotion : config.motion = some motion)
    (hhal : board.hal.motion = some hal) (hclock : hal.nanoseconds core.world = (nowNs, later))
    (hcommand : request.command = Command.motionEnqueue) (hobject : request.objectId = 0)
    (hencode : encodeMotionSegment segment = .ok request.payload)
    (haddresses : segment.Addresses core.motion.axisCount) {accepted : MotionSegment}
    (henqueue : core.motion.enqueue motion (requestedSegment core.motion.axisCount segment) nowNs =
      (result, some accepted, queue)) :
    result = .ok ∧ ∃ response body,
      core.execute board request =
        some ⟨response, none, { core with motion := queue, world := later }⟩ ∧
      Answered request response body ∧
      decodeMotionAcceptance body = .ok (acceptancePayload accepted) := by
  obtain ⟨hencodable, -⟩ := MotionSegmentPayload.encode_eq_ok_iff.1 hencode
  have hexecute : core.execute board request = some ⟨_, none, _⟩ :=
    (execute_motion hmotion).1 hcommand
  have hhandle : core.handleMotionEnqueue board request motion = _ :=
    handleMotionEnqueue_eq hhal hencode hobject haddresses
  rw [hclock] at hhandle
  dsimp only at hhandle
  rw [henqueue] at hhandle
  rw [hhandle] at hexecute
  have hsome : (core.motion.enqueue motion (requestedSegment core.motion.axisCount segment)
      nowNs).2.1 = some accepted := by
    rw [henqueue]
  have haccepted := accepted_of_enqueue hsome
  rw [henqueue] at haccepted
  obtain ⟨hresult, startTimeNs, hsegment⟩ := haccepted
  refine ⟨hresult, _, _, hexecute, answered_makeStatusResponse ?_, ?_⟩
  · have hlength : (acceptancePayload accepted).bytes.length = 24 := rfl
    rw [hlength]
    decide
  · -- Sequence and duration are the host's, which its own encoder has checked.
    refine MotionAcceptancePayload.decode_bytes ?_
    rw [hsegment]
    exact ⟨hencodable.sequence, hencodable.duration⟩

end

/-- A MOTION_STATUS is answered with how the queue stands, and the host decodes it. The response has
room for five axes. -/
theorem execute_motionStatus {motion : MotionConfig} (hmotion : config.motion = some motion)
    (hoption : motion.maxAxes ≤ 5) {hal : MotionHal W} (hhal : board.hal.motion = some hal)
    {nowNs : UInt64} {later : W} (hclock : hal.nanoseconds core.world = (nowNs, later))
    (horder : core.motion.RingOrder motion) (hpos : 0 < core.motion.axisCount.toNat)
    (hle : core.motion.axisCount.toNat ≤ motion.maxAxes)
    (hcommand : request.command = Command.motionStatus) (hobject : request.objectId = 0)
    (hpayload : request.payload = []) :
    ∃ response body status,
      core.execute board request = some ⟨response, none, { core with world := later }⟩ ∧
      Answered request response body ∧ decodeMotionStatus body = .ok status ∧
      Describes motion core.motion nowNs status := by
  have hexecute : core.execute board request = some ⟨_, none, _⟩ :=
    (execute_motion hmotion).2 hcommand
  have hmaximum := config.maxPacketSize_range
  have hlength := length_motionStatusData motion core.motion nowNs
  -- The smallest packet that a configuration allows has room for the status of five axes.
  have hvalid : ¬(request.objectId ≠ 0 ∨ request.payload.length ≠ 0 ∨
      92 + core.motion.axisCount.toNat * 24 + 1 > config.maxPacketSize - RBSP_HEADER_SIZE) := by
    rw [hpayload, hobject, RBSP_HEADER_SIZE]
    simp only [ne_eq, not_true, List.length_nil, false_or, not_lt, gt_iff_lt]
    omega
  have hhandle : core.handleMotionStatus board request motion =
      Core.answer { core with world := later } request .ok 0
        (Core.motionStatusData motion core.motion nowNs) := by
    unfold Core.handleMotionStatus
    rw [hhal]
    dsimp only
    rw [if_neg hvalid]
    change Core.answer { core with world := (hal.nanoseconds core.world).2 } request .ok 0
      (Core.motionStatusData motion core.motion (hal.nanoseconds core.world).1) = _
    rw [hclock]
  obtain ⟨status, hdecode, hdescribes⟩ := decode_motionStatusData horder hpos hle nowNs
  rw [hhandle] at hexecute
  refine ⟨_, _, status, hexecute, answered_makeStatusResponse ?_, hdecode, hdescribes⟩
  rw [hlength]
  have hsize : (2048 : ℕ) = kMaximumPacketSize := rfl
  omega

/-- In every run of a node, the segment that a host encodes for distinct axes of the node is the one
that is given to the queue, and if it is accepted, the host decodes what has been accepted; and the
host decodes how the queue stands. The condition on the axes is the range of their option. -/
theorem motion_wire_agreement (config : CoreConfig) (board : Board W) (motion : MotionConfig)
    (hmotion : config.motion = some motion) (hoption : motion.maxAxes ≤ 5) (hal : MotionHal W)
    (hhal : board.hal.motion = some hal) (world : W) (start : Core config W)
    (hinit : Core.init config board world = some start) (ops : List (CoreOp W)) :
    let core := (firmware config board fun _ _ => ()).run start ops
    let (nowNs, later) := hal.nanoseconds core.world
    (∀ (segment : MotionSegmentPayload) (request : Request),
      request.command = Command.motionEnqueue → request.objectId = 0 →
      encodeMotionSegment segment = .ok request.payload →
      segment.Addresses core.motion.axisCount →
      let requested := requestedSegment core.motion.axisCount segment
      let (result, accepted, queue) := core.motion.enqueue motion requested nowNs
      (∀ axis, (requested.steps axis).toInt = stepsOf segment.axes axis) ∧
        ∃ response, core.execute board request =
            some ⟨response, none, { core with motion := queue, world := later }⟩ ∧
          match accepted with
          | none => response = makeStatusResponse request (Core.enqueueStatus result) 0 []
          | some accepted => result = .ok ∧ ∃ body, Answered request response body ∧
              decodeMotionAcceptance body = .ok (acceptancePayload accepted)) ∧
    ∀ request : Request, request.command = Command.motionStatus → request.objectId = 0 →
      request.payload = [] → ∃ response body status,
        core.execute board request = some ⟨response, none, { core with world := later }⟩ ∧
        Answered request response body ∧ decodeMotionStatus body = .ok status ∧
        Describes motion core.motion nowNs status := by
  intro core
  obtain ⟨horder, -, hpos, hle⟩ := motion_kept hmotion hhal hinit ops
  generalize hclock : hal.nanoseconds core.world = reading
  -- The clock is read once, before the queue is asked.
  obtain ⟨nowNs, later⟩ := reading
  constructor
  -- ENQUEUE: the handler reads what the host has written, and answers as the queue does.
  · intro segment request hcommand hobject hencode haddresses
    dsimp only
    generalize henqueue : core.motion.enqueue motion
      (requestedSegment core.motion.axisCount segment) nowNs = outcome
    obtain ⟨result, accepted, queue⟩ := outcome
    refine ⟨toInt_steps_requestedSegment haddresses, ?_⟩
    cases accepted with
    | none =>
      have hexecute := execute_motionEnqueue_refused hmotion hhal hclock hcommand hobject hencode
        haddresses henqueue
      exact ⟨_, hexecute, rfl⟩
    | some accepted =>
      obtain ⟨hresult, response, body, hexecute, hanswered, hdecode⟩ :=
        execute_motionEnqueue_accepted hmotion hhal hclock hcommand hobject hencode haddresses
          henqueue
      exact ⟨response, hexecute, hresult, body, hanswered, hdecode⟩
  -- STATUS: the response describes the queue as it stands.
  · intro request hcommand hobject hpayload
    exact execute_motionStatus hmotion hoption hhal hclock horder hpos hle hcommand hobject hpayload

/-- The board on the desk, with two axes. -/
def twoAxesBoard : Board Bench where
  hal := { benchHal with
    nanoseconds := some fun world => (5, world)
    motionAxisCount := 2
    motionSetEnable := some fun world _ _ => (true, world)
    motionSetDirection := some fun world _ _ => (true, world)
    motionSetStep := some fun world _ _ => (true, world) }
  canMode := .flexibleDataRate
  info := ⟨⟨List.replicate 16 7, rfl⟩, 1, 0, 0, 7⟩

/-- The state of that board behind `rbsp_core_init`. -/
def twoAxesCore : Core { benchConfig with motion := some testMotionConfig } Bench where
  nodeId := 0
  nextObjectId := 1
  nextTransferId := 1
  cache := .empty
  lastHeartbeatMs := 0
  bootloaderRequest := none
  reassembly _ := none
  gpioObjects _ := none
  uartObjects _ := none
  motion := { MotionQueue.zero with axisCount := 2, state := .idle }
  world := ⟨0, [], []⟩

/-- The first axis makes three steps forwards and the second one two steps backwards, within a
millisecond, as soon as possible. -/
def twoAxesSegment : MotionSegmentPayload :=
  ⟨1, 0, 1000000, true, [⟨0x09000000, 3⟩, ⟨0x09000001, -2⟩]⟩

/-- The request by which the host asks for the segment. -/
def enqueueTwoAxes : Request := ⟨Command.motionEnqueue, 1, 1, 0, 0, 0, twoAxesSegment.bytes⟩

/-- The request how the queue stands. -/
def askTwoAxes : Request := ⟨Command.motionStatus, 1, 2, 0, 0, 0, []⟩

/-- The two frames in which the host sends the first request. -/
def enqueueFrames : List (CoreOp Bench) :=
  let header : PacketHeader := { command := Command.motionEnqueue, sessionId := 1, requestId := 1 }
  (packetFrames .flexibleDataRate
    (packetBytes (header.withLength twoAxesSegment.bytes) twoAxesSegment.bytes) 1
    RBSP_CAN_ID_DISCOVERY).map .acceptCan

/-- The node when the frames of the request have been received. -/
def twoAxesNode : Core { benchConfig with motion := some testMotionConfig } Bench :=
  (firmware _ twoAxesBoard fun _ _ => ()).run twoAxesCore enqueueFrames

/-- The board accepts the segment of two axes, to start in a millisecond, and says so. Asked how its
queue stands then, it says that there is one segment. -/
theorem motion_wire_agreement_two_axes :
    (((requestedSegment 2 twoAxesSegment).steps 0).toInt = 3 ∧
      ((requestedSegment 2 twoAxesSegment).steps 1).toInt = -2 ∧
      ∃ response body, (twoAxesCore.execute twoAxesBoard enqueueTwoAxes).map Executed.response =
          some response ∧
        Answered enqueueTwoAxes response body ∧
        decodeMotionAcceptance body = .ok ⟨1, 1000005, 1000000, true⟩) ∧
    ∃ response body status,
      (twoAxesNode.execute twoAxesBoard askTwoAxes).map Executed.response = some response ∧
      Answered askTwoAxes response body ∧ decodeMotionStatus body = .ok status ∧
      Describes testMotionConfig twoAxesNode.motion 5 status ∧
      status.queueDepth.toNat = 1 ∧ status.lastAcceptedSequence = 1 := by
  have hencode : encodeMotionSegment twoAxesSegment = .ok twoAxesSegment.bytes := by decide +kernel
  have haddresses : twoAxesSegment.Addresses 2 := by
    refine ⟨?_, by decide, by decide⟩
    decide
  have hagreement := motion_wire_agreement _ twoAxesBoard testMotionConfig rfl (by decide) _ rfl
    ⟨0, [], []⟩ twoAxesCore rfl
  constructor
  · obtain ⟨hsteps, response, hexecute, -, body, hanswered, hdecode⟩ :=
      (hagreement []).1 twoAxesSegment enqueueTwoAxes rfl rfl hencode haddresses
    refine ⟨(hsteps 0).trans (by decide), (hsteps 1).trans (by decide), response, body, ?_,
      hanswered, hdecode⟩
    exact congrArg (Option.map Executed.response) hexecute
  · obtain ⟨response, body, status, hexecute, hanswered, hdecode, hdescribes⟩ :=
      (hagreement enqueueFrames).2 askTwoAxes rfl rfl rfl
    refine ⟨response, body, status, congrArg (Option.map Executed.response) hexecute, hanswered,
      hdecode, hdescribes, ?_, ?_⟩
    · rw [hdescribes.queueDepth]
      decide +kernel
    · rw [hdescribes.sequences.1]
      decide +kernel

end Firmware

end RemoteBSP
