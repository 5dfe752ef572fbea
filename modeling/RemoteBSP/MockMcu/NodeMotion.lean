import RemoteBSP.MockMcu.ExecutorRuns
import RemoteBSP.MockMcu.MotionLeases
import RemoteBSP.Protocol.MotionCodec

/-!
# The executor in the node

The core uses its executor through the calls of the executor only, and with steps that are
`int32_t` values, since it has read them from four bytes (`typed_segmentOf`). So the core refines
the executor: whatever happens to a node, there are calls that take a new executor to the one that
it has (`node_refines_executor`), and all that has been proved about the calls of an executor holds
of the executor of a node.
-/

namespace RemoteBSP.MockMcu

namespace MotionExecutor

variable {initial motion motion' : MotionExecutor}

/-- Calls, with arguments in the range of their types, take an executor to another one. -/
def Reaches (initial motion : MotionExecutor) : Prop :=
  ∃ calls : List ExecutorCall, (∀ call ∈ calls, call.Typed) ∧ machine.run initial calls = motion

/-- An executor that calls reach is reached after one more call. -/
theorem Reaches.call (h : initial.Reaches motion) {call : ExecutorCall} (htyped : call.Typed) :
    initial.Reaches (motion.call call).1 := by
  obtain ⟨calls, hcalls, rfl⟩ := h
  refine ⟨calls ++ [call], fun call' hmem => ?_, ?_⟩
  · rcases List.mem_append.1 hmem with hmem | hmem
    · exact hcalls call' hmem
    · rw [List.mem_singleton.1 hmem]
      exact htyped
  · rw [Machine.run_append]
    rfl

/-- A stop is one of the calls by which executors are reached. -/
theorem Reaches.abort (h : initial.Reaches motion) {nowNs : UInt64} {fault : MotionFault}
    {edges : List MotionEdge} (habort : motion.abort nowNs fault = .ok (edges, motion')) :
    initial.Reaches motion' := by
  have hcall : (motion.call (.abort nowNs fault)).1 = motion' := by
    unfold MotionExecutor.call
    dsimp only
    rw [habort]
  rw [← hcall]
  exact h.call trivial

/-- To clear a fault is one of the calls by which executors are reached. -/
theorem Reaches.clearFault (h : initial.Reaches motion) (hclear : motion.clearFault = .ok motion') :
    initial.Reaches motion' := by
  have hcall : (motion.call .clearFault).1 = motion' := by
    unfold MotionExecutor.call
    dsimp only
    rw [hclear]
  rw [← hcall]
  exact h.call trivial

/-- To let time pass is one of the calls by which executors are reached. -/
theorem Reaches.advanceTo (h : initial.Reaches motion) {nowNs : UInt64} {edges : List MotionEdge}
    (hadvance : motion.advanceTo nowNs = .ok (edges, motion')) : initial.Reaches motion' := by
  have hcall : (motion.call (.advanceTo nowNs)).1 = motion' := by
    unfold MotionExecutor.call
    dsimp only
    rw [hadvance]
  rw [← hcall]
  exact h.call trivial

/-- A limit switch makes one of the calls by which executors are reached. -/
theorem Reaches.triggerLimit (h : initial.Reaches motion) (axisResourceId : UInt32)
    (nowNs : UInt64) :
    initial.Reaches (motion.triggerLimit axisResourceId nowNs).2 :=
  have hcall : ExecutorCall.Typed (.triggerLimit axisResourceId nowNs) := trivial
  h.call hcall

end MotionExecutor

namespace RemoteCore

variable {board : Board} {core core' : RemoteCore} {initial motion motion' : MotionExecutor}
  {request : Packet} {now : ℤ}

/-- The steps of a segment that has been read are `int32_t` values. -/
theorem typed_segmentOf {payload : List UInt8} {decoded : MotionSegmentPayload}
    (h : decodeMotionSegment payload = .ok decoded) : (segmentOf decoded).Typed := by
  unfold decodeMotionSegment at h
  obtain ⟨-, h⟩ := Except.guard_ok h
  obtain ⟨_, -, h⟩ := Except.bind_eq_ok_iff.1 h
  obtain ⟨-, h⟩ := Except.guard_ok h
  obtain ⟨-, h⟩ := Except.guard_ok h
  obtain ⟨axes, haxes, h⟩ := Except.bind_eq_ok_iff.1 h
  obtain rfl := Except.ok.inj h
  -- What is read for an axis are the four bytes of its steps.
  have hread : List.Forall₂ (fun axis _ => (-2^31 ≤ axis.steps ∧ axis.steps < 2^31) ∧ True) axes
      (List.range (byteAt payload 21).toNat) := by
    refine ((List.mapM_ok_iff.1 haxes).flip).imp fun axis index hmove => ⟨?_, trivial⟩
    unfold flip decodeMotionMove at hmove
    split at hmove
    · cases hmove
    · obtain rfl := Except.ok.inj hmove
      obtain ⟨hlow, hhigh, -⟩ := decodeI32_spec (getU32 payload (kSegmentHeaderSize +
        index * kMoveSize + 4))
      exact ⟨hlow, hhigh⟩
  intro move hmem
  obtain ⟨axis, haxis, rfl⟩ := List.mem_map.1 hmem
  exact ((List.forall₂_and_left _ _).1 hread).1 axis haxis

/-- What the requests to a node keep of its executor. The node calls its executor at the time that
the executor has, and stops it for no other reason than a request. -/
structure RequestsKeep (P : MotionExecutor → Prop) : Prop where
  /-- It is kept by a segment that comes in. -/
  enqueue : ∀ motion segment, segment.Typed → P motion →
    P (motion.enqueue segment motion.nowNs).2
  /-- It is kept by a stop at the present time. -/
  abort : ∀ motion edges motion', motion.abort motion.nowNs .aborted = .ok (edges, motion') →
    P motion → P motion'
  /-- It is kept when a fault is cleared. -/
  clearFault : ∀ motion motion', motion.clearFault = .ok motion' → P motion → P motion'

/-- The executor of a core, if it has one. -/
def MotionHas (P : MotionExecutor → Prop) (core : RemoteCore) : Prop :=
  ∀ motion ∈ core.motion, P motion

section

variable {P : MotionExecutor → Prop}

/-- What a core does when a lease on an axis ends. -/
theorem RequestsKeep.stopMotion (hkeep : RequestsKeep P) (h : P motion) :
    P (stopMotion motion) := by
  unfold RemoteCore.stopMotion
  split
  · split
    · next habort => exact hkeep.abort _ _ _ habort h
    · exact h
  · exact h

/-- What a core does to reset an axis. -/
theorem RequestsKeep.resetMotion (hkeep : RequestsKeep P) (h : P motion) :
    P (resetMotion motion).2 := by
  unfold RemoteCore.resetMotion
  dsimp only
  split
  · exact h
  · next stopped hstopped =>
    have hafter : P stopped := by
      split at hstopped
      · cases habort : motion.abort motion.nowNs .aborted with
        | error e =>
          rw [habort] at hstopped
          cases hstopped
        | ok outcome =>
          rw [habort] at hstopped
          obtain rfl := Except.ok.inj hstopped
          exact hkeep.abort _ _ _ habort h
      · rwa [← Except.ok.inj hstopped]
    split
    · exact hafter
    · next hcleared => exact hkeep.clearFault _ _ hcleared hafter

/-- A request for a segment calls `enqueue`, or leaves the executor alone. -/
theorem MotionHas.handleMotionEnqueue (hkeep : RequestsKeep P) (h : core.MotionHas P) :
    (core.handleMotionEnqueue board request).2.MotionHas P := by
  unfold RemoteCore.handleMotionEnqueue
  split
  · exact h
  next motion hmotion =>
  split
  · exact h
  split
  · exact h
  split
  · exact h
  next decoded hdecode =>
  split
  · exact h
  have hqueued : P (motion.enqueue (segmentOf decoded) motion.nowNs).2 :=
    hkeep.enqueue _ _ (typed_segmentOf hdecode) (h motion hmotion)
  unfold enqueueMotion
  split
  · next henqueue =>
    rw [henqueue] at hqueued
    exact fun motion' heq => Option.some.inj heq ▸ hqueued
  · next henqueue =>
    rw [henqueue] at hqueued
    dsimp only
    split
    · exact fun motion' heq => Option.some.inj heq ▸ hqueued
    · exact fun motion' heq => Option.some.inj heq ▸ hqueued

/-- The end of a lease stops the executor, or leaves it alone. -/
theorem MotionHas.endLeases (hkeep : RequestsKeep P) (h : core.MotionHas P)
    (ends : Lease → Bool) : (core.endLeases board ends).2.MotionHas P := by
  have hall : ∀ ended : List (UInt32 × Lease), (core.releaseAll board ended).MotionHas P := by
    intro ended
    induction ended generalizing core with
    | nil => exact h
    | cons entry ended ih =>
      rw [releaseAll, List.foldl_cons, ← releaseAll]
      refine ih fun motion hmotion => ?_
      rw [motion_release] at hmotion
      split at hmotion
      · obtain ⟨before, hbefore, rfl⟩ := Option.map_eq_some_iff.1 hmotion
        exact hkeep.stopMotion (h before hbefore)
      · exact h motion hmotion
  exact hall _

/-- A request calls the executor, or leaves it alone. -/
theorem MotionHas.dispatch (hkeep : RequestsKeep P) (h : core.MotionHas P) :
    (core.dispatch board request now).2.MotionHas P := by
  by_cases hcommand : request.header.command = Command.motionEnqueue
  · have hdispatch : core.dispatch board request now = core.handleMotionEnqueue board request := by
      unfold RemoteCore.dispatch
      simp only [hcommand]
      rfl
    rw [hdispatch]
    exact h.handleMotionEnqueue hkeep
  -- Of the other requests, the effect says what they do to the executor.
  · intro motion' hmotion'
    have heffect : Effect board core request now (core.dispatch board request now).2 :=
      dispatch_effect
    revert hmotion'
    generalize (core.dispatch board request now).2 = core' at heffect
    intro hmotion'
    cases heffect with
    | release token hrelease =>
      rw [show _ = (core.releaseResourceObjects board token.resourceId
        request.header.sessionId).motion from rfl, motion_release] at hmotion'
      split at hmotion'
      · obtain ⟨before, hbefore, rfl⟩ := Option.map_eq_some_iff.1 hmotion'
        exact hkeep.stopMotion (h before hbefore)
      · exact h motion' hmotion'
    | useMotion hmotion hmotionEffect =>
      obtain rfl := Option.some.inj hmotion'
      have hbefore := h _ hmotion
      cases hmotionEffect with
      | reset => exact hkeep.resetMotion hbefore
      | enqueue decoded henqueue => exact absurd henqueue hcommand
      | abort _ habort => exact hkeep.abort _ _ _ habort hbefore
      | clearFault _ hclear => exact hkeep.clearFault _ _ hclear hbefore
    | _ => exact h motion' hmotion'

/-- Requests keep what each call keeps. -/
theorem MotionHas.handle (hkeep : RequestsKeep P) (h : core.MotionHas P) :
    (core.handle board request now).2.MotionHas P := by
  unfold RemoteCore.handle
  split
  · exact h
  · split
    · exact h
    · exact (h.endLeases hkeep _).dispatch hkeep

/-- The ports have nothing to do with the executor. -/
theorem MotionHas.pollUartEvents (h : core.MotionHas P) (maximumPayload : ℕ) :
    (core.pollUartEvents maximumPayload).2.MotionHas P := by
  intro motion hmotion
  rw [motion_pollUartEvents] at hmotion
  exact h motion hmotion

end

/-- The requests to a node are calls of its executor. -/
theorem requestsKeep_reaches (initial : MotionExecutor) : RequestsKeep initial.Reaches where
  enqueue motion segment htyped h :=
    have hcall : ExecutorCall.Typed (.enqueue segment motion.nowNs) := htyped
    h.call hcall
  abort _ _ _ habort h := h.abort habort
  clearFault _ _ hclear h := h.clearFault hclear

/-- Whatever happens to a core, it calls the executor or leaves it alone. -/
theorem MotionHas.step (h : core.MotionHas initial.Reaches) (event : CoreEvent) :
    (core.step board event).MotionHas initial.Reaches := by
  have hkeep := requestsKeep_reaches initial
  cases event with
  | handle request now => exact h.handle hkeep
  | expireLeases now => exact h.endLeases hkeep _
  | releaseSession sessionId => exact h.endLeases hkeep _
  | pollUartEvents maximumPayload => exact h.pollUartEvents maximumPayload
  | setGpio bsp => exact h
  | setUart bsp => exact h
  | advanceMotion nowNs =>
    intro motion hmotion
    obtain ⟨before, hbefore, rfl⟩ := Option.map_eq_some_iff.1 hmotion
    split
    · exact h before hbefore
    · next hadvance => exact (h before hbefore).advanceTo hadvance
  | triggerLimit axisResourceId nowNs =>
    intro motion hmotion
    obtain ⟨before, hbefore, rfl⟩ := Option.map_eq_some_iff.1 hmotion
    exact (h before hbefore).triggerLimit axisResourceId nowNs

/-- The ends of leases neither bring an executor nor take it away. -/
theorem isSome_motion_endLeases (ends : Lease → Bool) :
    (core.endLeases board ends).2.motion.isSome = core.motion.isSome := by
  have hall : ∀ ended : List (UInt32 × Lease),
      (core.releaseAll board ended).motion.isSome = core.motion.isSome := by
    intro ended
    induction ended generalizing core with
    | nil => rfl
    | cons entry ended ih =>
      rw [releaseAll, List.foldl_cons, ← releaseAll, ih, motion_release]
      split
      · exact Option.isSome_map
      · rfl
  exact hall _

/-- No request brings an executor or takes it away. -/
theorem isSome_motion_effect (h : Effect board core request now core') :
    core'.motion.isSome = core.motion.isSome := by
  cases h with
  | release token =>
    show (core.releaseResourceObjects board token.resourceId
      request.header.sessionId).motion.isSome = _
    rw [motion_release]
    split
    · exact Option.isSome_map
    · rfl
  | useMotion hmotion =>
    rw [hmotion]
    rfl
  | _ => rfl

/-- No event brings an executor or takes it away. -/
theorem isSome_motion_step (board : Board) (core : RemoteCore) (event : CoreEvent) :
    (core.step board event).motion.isSome = core.motion.isSome := by
  cases event with
  | handle request now =>
    change (core.handle board request now).2.motion.isSome = _
    unfold RemoteCore.handle
    split
    · rfl
    · split
      · rfl
      · exact (isSome_motion_effect dispatch_effect).trans (isSome_motion_endLeases _)
  | expireLeases now => exact isSome_motion_endLeases _
  | releaseSession sessionId => exact isSome_motion_endLeases _
  | pollUartEvents maximumPayload =>
    exact congrArg Option.isSome (motion_pollUartEvents maximumPayload)
  | setGpio bsp => rfl
  | setUart bsp => rfl
  | advanceMotion nowNs => exact Option.isSome_map
  | triggerLimit axisResourceId nowNs => exact Option.isSome_map

/-- A core refines its executor: after any events, it still has one, and it is the one that some
calls, with arguments in the range of their types, make from the one that the core began with. -/
theorem node_refines_executor (board : Board) (gpioBsp : Option MockGpioBsp)
    (uartBsp : Option MockUartBsp) (initial : MotionExecutor) (events : List CoreEvent) :
    ∃ calls : List ExecutorCall, (∀ call ∈ calls, call.Typed) ∧
      ((coreMachine board).run ⟨fresh gpioBsp uartBsp (some initial), 0⟩ events).core.motion =
        some (MotionExecutor.machine.run initial calls) := by
  obtain ⟨hsome, hreached⟩ := (coreMachine board).run_induction
    (P := fun ledger => ledger.core.motion.isSome = true ∧ ledger.core.MotionHas initial.Reaches)
    (s := ⟨fresh gpioBsp uartBsp (some initial), 0⟩)
    (fun ledger event h => ⟨(isSome_motion_step board ledger.core event).trans h.1, h.2.step event⟩)
    ⟨rfl, fun motion hmotion => Option.some.inj hmotion ▸ ⟨[], List.forall_mem_nil _, rfl⟩⟩ events
  obtain ⟨motion, hmotion⟩ := Option.isSome_iff_exists.1 hsome
  obtain ⟨calls, htyped, hrun⟩ := hreached motion hmotion
  exact ⟨calls, htyped, hrun ▸ hmotion⟩

end RemoteCore

end RemoteBSP.MockMcu
