import RemoteBSP.Lib.Timeline
import RemoteBSP.Firmware.MotionSafety

/-!
# The ring buffer of the motion queue

The segments that the firmware has accepted and not completed lie in a ring buffer. Read from its
head (`MotionQueue.queued`) they form a timeline, which ends at the last accepted sequence and the
next available time (`RingOrder`). What a tick does to the buffer is little: the emission of steps
leaves it alone (`Frames`), and at most one segment is completed, or all are dropped
(`Executor.tick_effect`). `ring_invariant` is the invariant of all runs; with a log of the segments
that are accepted and completed (`motionLog`) it says that they are completed in the order in which
they were accepted.
-/

namespace RemoteBSP.Firmware

variable {W : Type} {config : MotionConfig} {io : MotionIo W}

/-- The queue without what the emission of steps changes. What is left is the buffer, the sequences,
the fault and the counters of the segments. -/
def MotionQueue.ring (q : MotionQueue) : MotionQueue :=
  { q with
    state := .idle
    activeEmitted := fun _ => 0
    activePhase := fun _ => 0
    activeLastTickNs := 0
    emittedSteps := fun _ => 0
    positionSteps := fun _ => 0
    stepHigh := fun _ => false
    enabled := fun _ => false
    directionPositive := fun _ => false
    emittedEdges := 0 }

/-- The number of the segments is about the buffer. -/
theorem MotionQueue.size_of_ring {q q' : MotionQueue} (h : q'.ring = q.ring) : q'.size = q.size :=
  (congrArg MotionQueue.size h : q'.ring.size = q.ring.size)

/-- The fault is left as well. -/
theorem MotionQueue.fault_of_ring {q q' : MotionQueue} (h : q'.ring = q.ring) :
    q'.fault = q.fault := (congrArg MotionQueue.fault h : q'.ring.fault = q.ring.fault)

namespace Executor

/-! ## What a tick leaves alone -/

/-- A part of the tick leaves the ring buffer alone, and if it aborts, it names a fault. -/
def Frames (e : Executor W) : Except (Stop × Executor W) (Executor W) → Prop :=
  Except.Ends (fun e' => e'.queue.ring = e.queue.ring ∧ e'.queue.state = e.queue.state)
    fun exit => exit.2.queue.ring = e.queue.ring ∧ exit.1.fault ≠ .none

/-- What does nothing keeps the ring and the state. -/
theorem Frames.ok (e : Executor W) : e.Frames (.ok e) := ⟨rfl, rfl⟩

/-- A part of the tick that begins where another one has left the buffer alone. -/
theorem Frames.after {e e' : Executor W} {x : Except (Stop × Executor W) (Executor W)}
    (hring : e'.queue.ring = e.queue.ring) (hstate : e'.queue.state = e.queue.state)
    (h : e'.Frames x) : e.Frames x :=
  h.mono (fun _ hend => ⟨hend.1.trans hring, hend.2.trans hstate⟩)
    fun _ hend => ⟨hend.1.trans hring, hend.2⟩

/-- A loop over the axes keeps the ring and the state if each iteration does. -/
theorem Frames.loop {f : Executor W → ℕ → Except (Stop × Executor W) (Executor W)}
    (hf : ∀ (e : Executor W) (axis : ℕ), e.Frames (f e axis)) (e : Executor W) (n : ℕ) :
    e.Frames ((List.range n).foldlM f e) :=
  List.range_foldlM_ends
    (P := fun _ (e' : Executor W) => e'.queue.ring = e.queue.ring ∧ e'.queue.state = e.queue.state)
    (fun _ e' _ hp => (hf e' _).after hp.1 hp.2) ⟨rfl, rfl⟩

/-- The check of a limit switch. -/
theorem checkLimit_frames (e : Executor W) (axis : ℕ) : e.Frames (checkLimit io e axis) := by
  unfold checkLimit
  split
  · exact .ok e
  · split
    · exact ⟨rfl, nofun⟩
    · split
      · exact ⟨rfl, nofun⟩
      · exact ⟨rfl, rfl⟩

/-- Ending a step pulse keeps the ring and the state. -/
theorem lowerStep_frames (e : Executor W) (axis : ℕ) : e.Frames (lowerStep io e axis) := by
  unfold lowerStep
  split
  · split
    · exact ⟨rfl, nofun⟩
    · exact ⟨rfl, rfl⟩
  · exact .ok e

/-- Advancing the phase of an axis keeps the ring and the state. -/
theorem advancePhase_frames (segment : MotionSegment) (deltaNs : UInt64) (e : Executor W)
    (axis : ℕ) : e.Frames (advancePhase segment deltaNs e axis) := by
  unfold advancePhase
  dsimp only
  split
  · split
    · exact ⟨rfl, nofun⟩
    · exact ⟨rfl, rfl⟩
  · exact .ok e

/-- Beginning a step pulse keeps the ring and the state. -/
theorem raiseStep_frames (segment : MotionSegment) (e : Executor W) (axis : ℕ) :
    e.Frames (raiseStep io segment e axis) := by
  unfold raiseStep
  split
  · dsimp only
    split
    · exact ⟨rfl, nofun⟩
    · exact ⟨rfl, rfl⟩
  · exact .ok e

/-- Enabling or disabling a driver keeps the ring and the state. -/
theorem setAxisEnabled_frames (segment : MotionSegment) (e : Executor W) (axis : ℕ) :
    e.Frames (setAxisEnabled io segment e axis) := by
  unfold setAxisEnabled
  dsimp only
  split
  · exact .ok e
  · split
    · exact ⟨rfl, nofun⟩
    · exact ⟨rfl, rfl⟩

/-- Setting the direction of an axis keeps the ring and the state. -/
theorem setAxisDirection_frames (segment : MotionSegment) (e : Executor W) (axis : ℕ) :
    e.Frames (setAxisDirection io segment e axis) := by
  unfold setAxisDirection
  dsimp only
  split
  · exact ⟨rfl, nofun⟩
  · exact ⟨rfl, rfl⟩

/-- One iteration of the loop over the axes. -/
theorem emitAxis_frames (segment : MotionSegment) (deltaNs : UInt64) (r : Executor W × Bool)
    (axis : ℕ) : (emitAxis io segment deltaNs r axis).Ends
      (fun r' => r'.1.queue.ring = r.1.queue.ring ∧ r'.1.queue.state = r.1.queue.state)
      fun exit => exit.2.queue.ring = r.1.queue.ring ∧ exit.1.fault ≠ .none := by
  unfold emitAxis
  refine Except.Ends.bind (lowerStep_frames r.1 axis) fun lowered hlowered => ?_
  refine Except.Ends.bind ((advancePhase_frames segment deltaNs lowered axis).after hlowered.1
    hlowered.2) fun advanced hadvanced => ?_
  refine Except.Ends.bind ((raiseStep_frames segment advanced axis).after hadvanced.1
    hadvanced.2) fun raised hraised => ?_
  split
  · exact hraised
  · exact hraised

/-- The loop that emits the steps keeps the ring and the state. -/
theorem emitSteps_frames (segment : MotionSegment) (e : Executor W) (nowNs : UInt64) :
    (emitSteps io segment e nowNs).Ends
      (fun r => r.1.queue.ring = e.queue.ring ∧ r.1.queue.state = e.queue.state)
      fun exit => exit.2.queue.ring = e.queue.ring ∧ exit.1.fault ≠ .none := by
  unfold emitSteps
  dsimp only
  refine List.range_foldlM_ends (P := fun _ (r : Executor W × Bool) =>
    r.1.queue.ring = e.queue.ring ∧ r.1.queue.state = e.queue.state) (fun k r _ hp => ?_)
    ⟨rfl, rfl⟩
  exact (emitAxis_frames segment _ r k).mono
    (fun _ hend => ⟨hend.1.trans hp.1, hend.2.trans hp.2⟩)
    fun _ hend => ⟨hend.1.trans hp.1, hend.2⟩

/-- The start of a segment makes the queue running. -/
theorem startSegment_frames (segment : MotionSegment) (e : Executor W) :
    (startSegment io segment e).Ends
      (fun e' => e'.queue.ring = e.queue.ring ∧ e'.queue.state = .running)
      fun exit => exit.2.queue.ring = e.queue.ring ∧ exit.1.fault ≠ .none := by
  unfold startSegment
  dsimp only
  refine Except.Ends.bind (Frames.loop (setAxisDirection_frames segment) _ _)
    fun directed hdirected => ?_
  refine Except.Ends.bind ((Frames.loop (setAxisEnabled_frames segment) directed _).after
    hdirected.1 hdirected.2) fun enabled henabled => ?_
  exact ⟨henabled.1, rfl⟩

/-- Stopping the outputs of one axis keeps the ring. -/
theorem stopAxis_ring (e : Executor W) (axis : ℕ) :
    (stopAxis io e axis).queue.ring = e.queue.ring := by
  unfold stopAxis
  dsimp only
  split <;> split <;> rfl

/-- Stopping the outputs keeps the ring. -/
theorem stopOutputs_ring (e : Executor W) : (stopOutputs io e).queue.ring = e.queue.ring := by
  unfold stopOutputs
  generalize List.range e.queue.axisCount.toNat = axes
  induction axes generalizing e with
  | nil => rfl
  | cons axis axes ih => exact (ih _).trans (stopAxis_ring e axis)

/-! ## What a tick does to the buffer -/

/-- What a tick does to the queue, but for the steps: nothing, or a segment at the front starts to
run; or the front segment is completed; or the motion is aborted. -/
inductive TickEffect (config : MotionConfig) (q q' : MotionQueue) : Prop
  /-- No segment enters or leaves the ring. -/
  | alone (ring : q'.ring = q.ring)
    (state : q'.state = q.state ∨ q.fault = .none ∧ 0 < q.size ∧ q'.state = .running)
  /-- The segment at the front is completed, and leaves the ring. -/
  | completed (fault : q.fault = .none) (size : 0 < q.size)
    (ring : q'.ring = (q.completeFront config).2.ring)
    (state : q'.state = (q.completeFront config).2.state)
  /-- The motion is aborted, and the ring emptied. -/
  | aborted (fault : q.fault = .none) (cause : MotionFault) (named : cause ≠ .none)
    (underruns : UInt64)
    (ring : q'.ring = { (q.abort cause).ring with queueUnderruns := underruns })
    (state : q'.state = .faulted)

/-- Completing the front segment is about the buffer. -/
theorem completeFront_ring {q q' : MotionQueue} (hring : q'.ring = q.ring) (hsize : 0 < q.size)
    (hfault : q.fault = .none) :
    (q'.completeFront config).2.ring = (q.completeFront config).2.ring ∧
      (q'.completeFront config).2.state = (q.completeFront config).2.state := by
  have hcommute : ∀ q : MotionQueue, ¬(q.size = 0 ∨ q.fault ≠ .none) →
      (q.completeFront config).2.ring = (q.ring.completeFront config).2.ring ∧
        (q.completeFront config).2.state = (q.ring.completeFront config).2.state := by
    intro q hopen
    have hopen' : ¬(q.ring.size = 0 ∨ q.ring.fault ≠ .none) := hopen
    unfold MotionQueue.completeFront
    rw [if_neg hopen, if_neg hopen']
    dsimp only
    have hsegments : q.ring.segments q.ring.head = q.segments q.head := rfl
    have hsizes : q.ring.size = q.size := rfl
    rw [hsegments, hsizes]
    split
    · exact ⟨rfl, rfl⟩
    · split
      · exact ⟨rfl, rfl⟩
      · exact ⟨rfl, rfl⟩
  have hopen : ¬(q.size = 0 ∨ q.fault ≠ .none) := by
    rintro (hzero | hne)
    · exact hsize.ne' hzero
    · exact hne hfault
  have hopen' : ¬(q'.size = 0 ∨ q'.fault ≠ .none) := by
    have hsizes : q'.size = q.size := MotionQueue.size_of_ring hring
    have hfaults : q'.fault = q.fault := MotionQueue.fault_of_ring hring
    rwa [hsizes, hfaults]
  rw [(hcommute q hopen).1, (hcommute q hopen).2, (hcommute q' hopen').1, (hcommute q' hopen').2,
    hring]
  exact ⟨rfl, rfl⟩

/-- Aborting the motion is about the buffer. -/
theorem abort_ring {q q' : MotionQueue} (hring : q'.ring = q.ring) {cause : MotionFault}
    (hnamed : cause ≠ .none) : (q'.abort cause).ring = (q.abort cause).ring := by
  have hcommute : ∀ q : MotionQueue, (q.abort cause).ring = (q.ring.abort cause).ring := by
    intro q
    unfold MotionQueue.abort
    rw [if_neg hnamed, if_neg hnamed]
    rfl
  rw [hcommute q, hcommute q', hring]

/-- At the end of a tick the front segment may be completed, or the motion aborted. -/
theorem finishTick_effect {q : MotionQueue} {e : Executor W} (segment : MotionSegment)
    (hring : e.queue.ring = q.ring) (hstate : e.queue.state = .running) (hfault : q.fault = .none)
    (hsize : 0 < q.size) (allEmitted : Bool) (nowNs : UInt64) :
    TickEffect config q (finishTick config io segment e allEmitted nowNs).2.queue := by
  -- The queue is the one of the tick, and can be completed.
  have hsizes : e.queue.size = q.size := MotionQueue.size_of_ring hring
  have hfaults : e.queue.fault = q.fault := MotionQueue.fault_of_ring hring
  have hopen : ¬(e.queue.size = 0 ∨ e.queue.fault ≠ .none) := by
    rw [hsizes, hfaults]
    rintro (hzero | hne)
    · exact hsize.ne' hzero
    · exact hne hfault
  unfold finishTick
  dsimp only
  split
  · -- The segment is completed.
    obtain ⟨hring', hstate'⟩ : (e.queue.completeFront config).2.ring = _ ∧ _ :=
      completeFront_ring hring hsize hfault
    have hdone : (e.queue.completeFront config).1 = true := by
      unfold MotionQueue.completeFront
      rw [if_neg hopen]
    generalize e.queue.completeFront config = done at hring' hstate' hdone ⊢
    obtain ⟨result, completed⟩ := done
    subst hdone
    dsimp only at hring' hstate' ⊢
    split
    · exact .completed hfault hsize ((stopOutputs_ring _).trans hring')
        ((stopOutputs_agrees _).state.trans hstate')
    · exact .completed hfault hsize hring' hstate'
  · split
    · -- The segment is overdue.
      have hnamed : MotionFault.underrun ≠ .none := nofun
      refine .aborted hfault .underrun hnamed ((e.queue.abort .underrun).queueUnderruns + 1)
        ((stopOutputs_ring _).trans ?_) ((stopOutputs_agrees _).state.trans ?_)
      · rw [← abort_ring hring hnamed]
        rfl
      · rfl
    -- The segment goes on.
    · exact .alone hring (.inr ⟨hfault, hsize, hstate⟩)

/-- A part of the tick has aborted the motion. -/
theorem abort_effect {q : MotionQueue} {exit : Stop × Executor W} (hfault : q.fault = .none)
    (hring : exit.2.queue.ring = q.ring) (hnamed : exit.1.fault ≠ .none) :
    TickEffect config q
      (stopOutputs io (exit.2.withQueue (exit.2.queue.abort exit.1.fault))).queue := by
  refine .aborted hfault exit.1.fault hnamed (q.abort exit.1.fault).queueUnderruns
    ((stopOutputs_ring _).trans ?_) ((stopOutputs_agrees _).state.trans ?_)
  · exact abort_ring hring hnamed
  · unfold withQueue MotionQueue.abort
    rw [if_neg hnamed]

/-- What a tick does to the queue. -/
theorem tick_effect (e : Executor W) (nowNs : UInt64)
    (hnonempty : 0 < e.queue.size → e.queue.state = .armed ∨ e.queue.state = .running) :
    TickEffect config e.queue (tick config io e nowNs).2.queue := by
  unfold tick
  by_cases hfault : e.queue.fault = .none
  · rw [if_neg (not_not.2 hfault)]
    have hrun : (runTick config io e nowNs).Ends
        -- Each part of the tick leaves the ring alone, until the end of the segment is reached.
        (fun result => TickEffect config e.queue result.2.queue)
        fun exit => exit.2.queue.ring = e.queue.ring ∧ exit.1.fault ≠ .none := by
      unfold runTick
      refine Except.Ends.bind (Frames.loop checkLimit_frames e _) fun checked hchecked => ?_
      have hsizes : checked.queue.size = e.queue.size := MotionQueue.size_of_ring hchecked.1
      cases hfront : checked.queue.front with
      | none =>
        exact .alone ((stopOutputs_ring checked).trans hchecked.1)
          (.inl ((stopOutputs_agrees checked).state.trans hchecked.2))
      | some segment =>
        have hsize : 0 < e.queue.size := by
          unfold MotionQueue.front at hfront
          split at hfront
          · cases hfront
          · next hne => exact hsizes ▸ Nat.pos_of_ne_zero hne
        dsimp only
        split
        · exact .alone hchecked.1 (.inl hchecked.2)
        · -- The segment starts, or it is running.
          have hopened : (openSegment io segment checked).Ends
              (fun e' => e'.queue.ring = e.queue.ring ∧ e'.queue.state = .running)
              fun exit => exit.2.queue.ring = e.queue.ring ∧ exit.1.fault ≠ .none := by
            unfold openSegment
            split
            · exact (startSegment_frames segment checked).mono
                (fun _ hend => ⟨hend.1.trans hchecked.1, hend.2⟩)
                fun _ hend => ⟨hend.1.trans hchecked.1, hend.2⟩
            · next harmed =>
              exact ⟨hchecked.1, (hchecked.2 ▸ hnonempty hsize).resolve_left harmed⟩
          refine Except.Ends.bind hopened fun opened hopened => ?_
          refine Except.Ends.bind ((emitSteps_frames segment opened nowNs).mono
            (fun _ hend => (⟨hend.1.trans hopened.1, hend.2.trans hopened.2⟩ :
              _ ∧ _ = MotionState.running)) fun _ hend => ⟨hend.1.trans hopened.1, hend.2⟩)
            fun emitted hemitted => ?_
          exact finishTick_effect segment hemitted.1 hemitted.2 hfault hsize _ nowNs
    -- A part that stops the tick is followed by an abort.
    cases hresult : runTick config io e nowNs with
    | ok result => rw [hresult] at hrun; exact hrun
    | error exit => rw [hresult] at hrun; exact abort_effect hfault hrun.1 hrun.2
  · rw [if_pos hfault]
    exact .alone (stopOutputs_ring e) (.inl (stopOutputs_agrees e).state)

end Executor

/-! ## The segments in the buffer -/

/-- A segment as a piece of a timeline, from its start for its duration. -/
def MotionSegment.slot (segment : MotionSegment) : Slot where
  number := segment.sequence.toNat
  start := segment.startTimeNs.toNat
  stop := segment.startTimeNs.toNat + segment.durationNs.toNat
  final := segment.finalSegment

namespace MotionQueue

variable {q q' : MotionQueue} {requested : MotionSegment} {nowNs startTimeNs : UInt64}

/-- The segments in the buffer, from the head on. -/
def queued (config : MotionConfig) (q : MotionQueue) : List MotionSegment :=
  (List.range q.size).map fun i => q.segments ((q.head + i) % config.queueDepth)

/-- The segments are about the buffer. -/
theorem queued_of_ring (h : q'.ring = q.ring) : q'.queued config = q.queued config :=
  (congrArg (queued config) h : q'.ring.queued config = q.ring.queued config)

/-- A ring without segments holds none. -/
theorem queued_of_size_eq_zero (h : q.size = 0) : q.queued config = [] := by
  unfold queued
  rw [h]
  rfl

/-- Two places that are less than the length of the buffer apart are different. -/
theorem place_inj {head i j : ℕ} (hi : i < config.queueDepth) (hj : j < config.queueDepth) :
    (head + i) % config.queueDepth = (head + j) % config.queueDepth ↔ i = j := by
  refine ⟨fun h => ?_, fun h => by rw [h]⟩
  have hmod : i % config.queueDepth = j % config.queueDepth := Nat.ModEq.add_left_cancel' head h
  rwa [Nat.mod_eq_of_lt hi, Nat.mod_eq_of_lt hj] at hmod

/-- A segment is put behind the others. -/
theorem queued_push (hroom : q.size < config.queueDepth) (value : MotionSegment) :
    queued config { q with
      segments := Function.update q.segments (q.tailIndex config) value
      size := q.size + 1 } = q.queued config ++ [value] := by
  unfold queued
  dsimp only
  rw [List.range_succ, List.map_append, List.map_singleton, tailIndex, Function.update_self]
  congr 1
  refine List.map_congr_left fun i hi => Function.update_of_ne ?_ _ _
  have hi := List.mem_range.1 hi
  rw [Ne, place_inj (hi.trans hroom) hroom]
  exact hi.ne

/-- The front segment is taken out. -/
theorem queued_pop (hhead : q.head < config.queueDepth) (hsize : 0 < q.size)
    (hle : q.size ≤ config.queueDepth) (value : MotionSegment) :
    q.queued config = q.segments q.head :: queued config { q with
      segments := Function.update q.segments q.head value
      head := (q.head + 1) % config.queueDepth
      size := q.size - 1 } := by
  have hsucc : q.size = (q.size - 1) + 1 := (Nat.sub_add_cancel hsize).symm
  unfold queued
  dsimp only
  conv_lhs => rw [hsucc, List.range_succ_eq_map]
  rw [List.map_cons, Nat.add_zero, Nat.mod_eq_of_lt hhead, List.map_map]
  congr 1
  refine List.map_congr_left fun i hi => ?_
  have hi := List.mem_range.1 hi
  have hplace : ((q.head + 1) % config.queueDepth + i) % config.queueDepth =
      (q.head + (i + 1)) % config.queueDepth := by
    rw [Nat.mod_add_mod, Nat.add_assoc, Nat.add_comm 1 i]
  have hne : (q.head + (i + 1)) % config.queueDepth ≠ q.head := by
    intro heq
    have hzero : q.head = (q.head + 0) % config.queueDepth := (Nat.mod_eq_of_lt hhead).symm
    have hsame := (place_inj (by omega) (by omega)).1 (heq.trans hzero)
    omega
  rw [Function.comp_apply, hplace, Function.update_of_ne hne]

/-- The last segment in the buffer. -/
theorem getLast?_queued (hsize : 0 < q.size) : (q.queued config).getLast? =
    some (q.segments ((q.head + q.size - 1) % config.queueDepth)) := by
  have hsucc : q.size = (q.size - 1) + 1 := (Nat.sub_add_cancel hsize).symm
  unfold queued
  conv_lhs => rw [hsucc, List.range_succ]
  rw [List.map_append, List.map_singleton, List.getLast?_concat, Nat.add_sub_assoc hsize]

/-- What `rbsp_motion_enqueue` has checked of a segment that it accepts. -/
structure Accepted (config : MotionConfig) (q : MotionQueue) (requested : MotionSegment)
    (nowNs startTimeNs : UInt64) : Prop where
  /-- The segment takes some time. -/
  durationNs : requested.durationNs ≠ 0
  /-- The segment is about the axes there are. -/
  axisCount : requested.axisCount = q.axisCount
  /-- The steps are possible in the time. -/
  steps : ∀ axis < q.axisCount.toNat, stepsPossible config requested axis = true
  /-- No fault is latched. -/
  fault : q.fault = .none
  /-- There is room for another segment. -/
  room : q.size < config.queueDepth
  /-- The sequence is the next one. -/
  sequence : requested.sequence.toNat = q.lastAcceptedSequence.toNat + 1
  /-- The segment before is not final. -/
  notFinal : 0 < q.size →
    (q.segments ((q.head + q.size - 1) % config.queueDepth)).finalSegment = false
  /-- There is time before the start. -/
  lead : minimumStartTime config nowNs ≤ startTimeNs
  /-- The segment starts where the one before ends. -/
  joined : 0 < q.size → startTimeNs = q.nextAvailableTimeNs
  /-- The end of the segment is a time of the clock. -/
  end_lt : startTimeNs.toNat + requested.durationNs.toNat < 2^64

/-- Guards that compare with the largest word say that a sum does not overflow. -/
theorem add_lt_of_not_lt {a b : UInt64} (h : ¬0xFFFFFFFFFFFFFFFF - a < b) :
    a.toNat + b.toNat < 2^64 := by
  have hmax : (0xFFFFFFFFFFFFFFFF : UInt64).toNat = 2^64 - 1 := rfl
  have ha := a.toNat_lt
  rw [UInt64.not_lt, UInt64.le_iff_toNat_le, UInt64.toNat_sub_of_le _ _
    (by rw [UInt64.le_iff_toNat_le, hmax]; omega), hmax] at h
  omega

/-- A segment passes the checks of `rbsp_motion_enqueue` only if it may be accepted. -/
theorem validate_spec (h : q.validate config requested nowNs = .ok startTimeNs) :
    q.Accepted config requested nowNs startTimeNs := by
  unfold validate at h
  obtain ⟨hfields, h⟩ := Except.guard_ok h
  obtain ⟨hsteps, h⟩ := Except.guard_ok h
  obtain ⟨hfault, h⟩ := Except.guard_ok h
  obtain ⟨hfull, h⟩ := Except.guard_ok h
  obtain ⟨hsequence, h⟩ := Except.guard_ok h
  obtain ⟨hfinal, h⟩ := Except.guard_ok h
  obtain ⟨hlate, h⟩ := Except.guard_ok h
  obtain ⟨hjoined, h⟩ := Except.guard_ok h
  obtain ⟨hend, h⟩ := Except.guard_ok h
  have hstart := Except.ok.inj h
  -- Each check that is passed gives one part of what is accepted.
  rw [not_or, not_or, not_or] at hfields
  obtain ⟨hzero, hduration, haxes, -⟩ := hfields
  rw [hstart] at hjoined hend
  have hsequence := not_not.1 hsequence
  refine ⟨hduration, not_not.1 haxes, fun axis haxis => ?_, not_not.1 hfault, not_le.1 hfull, ?_,
    fun hsize => ?_, ?_, fun hsize => ?_, add_lt_of_not_lt hend⟩
  · rw [Bool.not_eq_true', Bool.not_eq_false, List.all_eq_true] at hsteps
    exact hsteps axis (List.mem_range.2 haxis)
  · -- The sequence behind the largest one is zero, and no segment has it.
    have hlt := q.lastAcceptedSequence.toNat_lt
    have hword : requested.sequence.toNat = (q.lastAcceptedSequence.toNat + 1) % 2^32 := by
      rw [hsequence, UInt32.toNat_add]
      rfl
    have hpos : requested.sequence.toNat ≠ 0 := fun heq => hzero (UInt32.toNat_inj.1 heq)
    omega
  · exact Bool.not_eq_true _ ▸ fun htrue => hfinal ⟨hsize, htrue⟩
  -- The start is the requested one or the earliest one that is possible.
  · rw [← hstart]
    split
    · split
      · next hlater => exact UInt64.le_of_lt hlater
      · exact UInt64.le_refl _
    · next hgiven => exact UInt64.not_lt.1 fun hlt => hlate ⟨hgiven, hlt⟩
  · exact not_not.1 fun hne => hjoined ⟨hsize, hne⟩

/-! ## The invariant of the buffer -/

/-- The segments in the buffer form a timeline, and there is room for them. -/
structure RingOrder (config : MotionConfig) (q : MotionQueue) : Prop where
  /-- The head lies in the buffer. -/
  head_lt : q.head < config.queueDepth
  /-- The largest size so far is at least the size. -/
  size_le : q.size ≤ q.maximumQueueDepth
  /-- The ring has never held more segments than it has room for. -/
  maximum_le : q.maximumQueueDepth ≤ config.queueDepth
  /-- The segments in the ring follow each other in time without gaps. -/
  timeline : Timeline (2^64) ((q.queued config).map MotionSegment.slot)
    q.lastAcceptedSequence.toNat q.nextAvailableTimeNs.toNat
  /-- A queue with a fault is empty. -/
  faulted : q.fault ≠ .none → q.size = 0
  /-- A queue with segments is armed or running. -/
  nonempty : 0 < q.size → q.state = .armed ∨ q.state = .running

/-- An idle queue is empty. -/
theorem RingOrder.idle (h : q.RingOrder config) (hidle : q.state = .idle) : q.size = 0 := by
  by_contra hne
  rcases h.nonempty (Nat.pos_of_ne_zero hne) with harmed | hrunning
  · rw [hidle] at harmed
    cases harmed
  · rw [hidle] at hrunning
    cases hrunning

/-- Behind `rbsp_motion_init` the ring is in order. -/
theorem ringOrder_init {axisCount : UInt8} (h : init config axisCount = some q) :
    q.RingOrder config := by
  have hdepth := config.two_le_queueDepth
  unfold init at h
  split at h
  · cases h
  · obtain rfl := Option.some.inj h
    exact ⟨by show 0 < _; omega, le_rfl, Nat.zero_le _, .nil _ _ _, fun _ => rfl,
      fun hpos => absurd hpos (Nat.lt_irrefl 0)⟩

/-- The order is about the buffer and the state. -/
theorem RingOrder.of_ring (h : q.RingOrder config) (hring : q'.ring = q.ring)
    (hstate : 0 < q.size → q'.state = .armed ∨ q'.state = .running) : q'.RingOrder config := by
  have hsize := size_of_ring hring
  have hhead : q'.head = q.head := (congrArg head hring : q'.ring.head = q.ring.head)
  have hmaximum : q'.maximumQueueDepth = q.maximumQueueDepth :=
    (congrArg maximumQueueDepth hring : q'.ring.maximumQueueDepth = q.ring.maximumQueueDepth)
  have hlast : q'.lastAcceptedSequence = q.lastAcceptedSequence :=
    (congrArg lastAcceptedSequence hring :
      q'.ring.lastAcceptedSequence = q.ring.lastAcceptedSequence)
  have hnext : q'.nextAvailableTimeNs = q.nextAvailableTimeNs :=
    (congrArg nextAvailableTimeNs hring : q'.ring.nextAvailableTimeNs = q.ring.nextAvailableTimeNs)
  refine ⟨hhead ▸ h.head_lt, ?_, hmaximum ▸ h.maximum_le, ?_, ?_, ?_⟩
  · rw [hsize, hmaximum]
    exact h.size_le
  · rw [queued_of_ring hring, hlast, hnext]
    exact h.timeline
  · rw [hsize, fault_of_ring hring]
    exact h.faulted
  · rw [hsize]
    exact hstate

/-- An accepted segment is put behind the others. -/
theorem RingOrder.push (h : q.RingOrder config)
    (hvalidate : q.validate config requested nowNs = .ok startTimeNs) :
    (q.enqueue config requested nowNs).2.2.RingOrder config ∧
      (q.enqueue config requested nowNs).2.2.queued config =
        q.queued config ++ [{ requested with startTimeNs := startTimeNs }] := by
  have haccepted := validate_spec hvalidate
  have hqueued := queued_push haccepted.room { requested with startTimeNs := startTimeNs }
  -- With a segment in the queue, the new one has to follow it.
  have hne : (q.queued config).map MotionSegment.slot ≠ [] → 0 < q.size := by
    intro hslots
    refine Nat.pos_of_ne_zero fun hzero => hslots ?_
    rw [queued_of_size_eq_zero hzero]
    rfl
  have hstop : (startTimeNs + requested.durationNs).toNat =
      startTimeNs.toNat + requested.durationNs.toNat := by
    rw [UInt64.toNat_add, Nat.mod_eq_of_lt haccepted.end_lt]
  have hfinal : ∀ last ∈ ((q.queued config).map MotionSegment.slot).getLast?,
      last.final = false := by
    intro last hmem
    have hsize := hne (by rintro hnil; rw [hnil] at hmem; cases hmem)
    rw [List.getLast?_map, getLast?_queued hsize] at hmem
    obtain rfl := Option.some.inj hmem
    exact haccepted.notFinal hsize
  have htimeline : Timeline (2^64) ((q.queued config).map MotionSegment.slot ++
      [MotionSegment.slot { requested with startTimeNs := startTimeNs }]) _ _ :=
    h.timeline.concat (fun _ => haccepted.sequence)
      (fun hslots => congrArg UInt64.toNat (haccepted.joined (hne hslots))) hfinal
      haccepted.end_lt
  -- The queue with the new segment lists the old ones and it.
  have hlonger : Timeline (2^64) ((queued config { q with
      segments := Function.update q.segments (q.tailIndex config)
        { requested with startTimeNs := startTimeNs }
      size := q.size + 1 }).map MotionSegment.slot) requested.sequence.toNat
      (startTimeNs + requested.durationNs).toNat := by
    rw [hqueued, List.map_append, List.map_singleton, hstop]
    exact htimeline
  unfold enqueue
  rw [hvalidate]
  exact ⟨⟨h.head_lt, le_max_right _ _, max_le h.maximum_le haccepted.room, hlonger,
    fun hfault => absurd haccepted.fault hfault, fun _ => .inl rfl⟩, hqueued⟩

/-- A segment that is not accepted is counted at most. -/
theorem enqueue_error {rejection : EnqueueResult × Bool}
    (hvalidate : q.validate config requested nowNs = .error rejection) :
    (q.enqueue config requested nowNs).2.1 = none ∧
      ∃ rejected, (q.enqueue config requested nowNs).2.2 =
        { q with rejectedSegments := rejected } := by
  unfold enqueue
  rw [hvalidate]
  refine ⟨rfl, ?_⟩
  dsimp only
  split
  · exact ⟨_, rfl⟩
  · exact ⟨q.rejectedSegments, rfl⟩

/-- The counters are not about the segments. -/
theorem RingOrder.counted (h : q.RingOrder config) (rejected underruns : UInt64) :
    RingOrder config
      { q with rejectedSegments := rejected, queueUnderruns := underruns } :=
  ⟨h.head_lt, h.size_le, h.maximum_le, h.timeline, h.faulted, h.nonempty⟩

/-- The fault is cleared if there are no segments. -/
theorem RingOrder.clearFault (h : q.RingOrder config) (nowNs : UInt64) :
    (q.clearFault nowNs).2.RingOrder config ∧
      (q.clearFault nowNs).2.queued config = q.queued config := by
  unfold MotionQueue.clearFault
  split
  · exact ⟨h, rfl⟩
  · next hempty =>
    have hempty := not_not.1 hempty
    have hnone : queued config { q with
        fault := .none
        state := .idle
        nextAvailableTimeNs := nowNs } = [] := queued_of_size_eq_zero hempty
    refine ⟨⟨h.head_lt, h.size_le, h.maximum_le, ?_, fun hne => absurd rfl hne,
      fun hpos => absurd hempty hpos.ne'⟩, rfl⟩
    rw [hnone]
    exact .nil _ _ _

/-- The front segment is completed. If it is final, there is no other one. -/
theorem RingOrder.pop (h : q.RingOrder config) (hsize : 0 < q.size) (hfault : q.fault = .none) :
    (q.completeFront config).2.RingOrder config ∧
      q.queued config = q.segments q.head :: (q.completeFront config).2.queued config := by
  have hle := h.size_le.trans h.maximum_le
  have hpop := queued_pop h.head_lt hsize hle .zero
  -- Without its front, the timeline of the queue is the one of the segments behind it.
  have htimeline := h.timeline
  rw [hpop, List.map_cons] at htimeline
  have hrest := (List.singleton_append ▸ htimeline).suffix
  have hhead : (q.head + 1) % config.queueDepth < config.queueDepth :=
    Nat.mod_lt _ (by have := config.two_le_queueDepth; omega)
  have hopen : ¬(q.size = 0 ∨ q.fault ≠ .none) := by
    rintro (hzero | hne)
    · exact hsize.ne' hzero
    · exact hne hfault
  have hsizes := h.size_le
  unfold completeFront
  rw [if_neg hopen]
  dsimp only
  split
  · next hfinal =>
    -- Nothing follows a final segment.
    have hlast : queued config { q with
        segments := Function.update q.segments q.head .zero
        head := (q.head + 1) % config.queueDepth
        size := q.size - 1 } = [] := by
      generalize queued config { q with
        segments := Function.update q.segments q.head .zero
        head := (q.head + 1) % config.queueDepth
        size := q.size - 1 } = rest at htimeline ⊢
      cases rest with
      | nil => rfl
      | cons next rest =>
        have hfollows := (List.isChain_cons.1 htimeline.follows).1 next.slot rfl
        exact absurd hfinal (Bool.not_eq_true _ ▸ hfollows.notFinal)
    rw [hlast] at hpop
    exact ⟨⟨hhead, Nat.zero_le _, h.maximum_le, .nil _ _ _, fun _ => rfl,
      fun hpos => absurd hpos (Nat.lt_irrefl 0)⟩, hpop⟩
  -- Behind any other segment the queue goes on, or has run dry.
  · split
    · next hempty =>
      exact ⟨⟨hhead, (Nat.sub_le _ _).trans hsizes, h.maximum_le, hrest, fun _ => hempty,
        fun hpos => absurd hempty hpos.ne'⟩, hpop⟩
    · exact ⟨⟨hhead, (Nat.sub_le _ _).trans hsizes, h.maximum_le, hrest,
        fun hne => absurd hfault hne, fun _ => .inl rfl⟩, hpop⟩

/-- An abort leaves a ring in order and without segments. -/
theorem RingOrder.abort (h : q.RingOrder config) {cause : MotionFault} (hnamed : cause ≠ .none) :
    (q.abort cause).RingOrder config ∧ (q.abort cause).queued config = [] := by
  have hdepth := config.two_le_queueDepth
  unfold MotionQueue.abort
  rw [if_neg hnamed]
  exact ⟨⟨by show 0 < _; omega, Nat.zero_le _, h.maximum_le, .nil _ _ _, fun _ => rfl,
    fun hpos => absurd hpos (Nat.lt_irrefl 0)⟩, rfl⟩

end MotionQueue

/-! ## Runs -/

namespace Executor

/-- The segment that a call accepts. -/
def accepted (config : MotionConfig) (e : Executor W) : MotionOp W → List MotionSegment
  | .enqueue requested nowNs => (e.queue.enqueue config requested nowNs).2.1.toList
  | .tick _ | .abort _ | .clearFault _ | .completeFront | .environment _ => []

/-- The segment that is completed between two states. -/
def completed (e e' : Executor W) : List MotionSegment :=
  if e'.queue.completedSegments = e.queue.completedSegments then [] else e.queue.front.toList

end Executor

/-- The motion queue as a machine that reports the segments accepted and completed. -/
def motionLog (config : MotionConfig) (io : MotionIo W) :
    Machine (Executor W) (MotionOp W) (List MotionSegment × List MotionSegment) where
  step e op :=
    let e' := ((motionOutputs config io).step e op).1
    (e', (e.accepted config op, e.completed e'))

namespace Executor

variable {e d : Executor W}

/-- A call that completes no segment. -/
theorem completed_of_eq (h : d.queue.completedSegments = e.queue.completedSegments) :
    e.completed d = [] := if_pos h

/-- The ring buffer and the logs of a run so far. -/
structure RingLogged (config : MotionConfig) (q : MotionQueue)
    (accepted completed : List MotionSegment) : Prop where
  /-- The ring is in order. -/
  order : q.RingOrder config
  /-- What has been completed and what is in the buffer was accepted in this order. -/
  sublist : (completed ++ q.queued config).Sublist accepted

variable {q q' : MotionQueue} {accepted completed : List MotionSegment}

/-- The buffer is left alone, or it is emptied. -/
theorem RingLogged.of_order (h : RingLogged config q accepted completed)
    (horder : q'.RingOrder config)
    (hqueued : q'.queued config = q.queued config ∨ q'.queued config = []) :
    RingLogged config q' accepted completed := by
  refine ⟨horder, ?_⟩
  rcases hqueued with hsame | hempty
  · rw [hsame]
    exact h.sublist
  · rw [hempty, List.append_nil]
    exact (List.sublist_append_left _ _).trans h.sublist

/-- A call that completes no segment and accepts none leaves the log as it is. -/
theorem RingLogged.silent (h : RingLogged config d.queue accepted completed)
    (hsame : d.queue.completedSegments = e.queue.completedSegments) :
    RingLogged config d.queue (accepted ++ []) (completed ++ e.completed d) := by
  rwa [completed_of_eq hsame, List.append_nil, List.append_nil]

/-- The motion is aborted, or not if no fault is named. -/
theorem RingLogged.abort (h : RingLogged config q accepted completed) (cause : MotionFault) :
    RingLogged config (q.abort cause) accepted completed := by
  by_cases hnamed : cause = .none
  · unfold MotionQueue.abort
    rw [if_pos hnamed]
    exact h
  · obtain ⟨horder, hempty⟩ := h.order.abort hnamed
    exact h.of_order horder (.inr hempty)

/-- A tick, in which the front segment may be completed. -/
theorem RingLogged.effect (h : RingLogged config e.queue accepted completed)
    (heffect : TickEffect config e.queue d.queue) :
    RingLogged config d.queue accepted (completed ++ e.completed d) := by
  have hcompleted : ∀ {q : MotionQueue}, d.queue.ring = q.ring →
      q.completedSegments = e.queue.completedSegments → e.completed d = [] := by
    intro q hring hsame
    exact completed_of_eq ((congrArg MotionQueue.completedSegments hring :
      d.queue.ring.completedSegments = q.ring.completedSegments).trans hsame)
  cases heffect with
  -- No segment is completed: the log of completed segments stays.
  | alone hring hstate =>
    rw [hcompleted hring rfl, List.append_nil]
    refine h.of_order (h.order.of_ring hring fun hsize => ?_)
      (.inl (MotionQueue.queued_of_ring hring))
    rcases hstate with hsame | ⟨-, -, hrunning⟩
    · rw [hsame]
      exact h.order.nonempty hsize
    · exact .inr hrunning
  | completed hfault hsize hring hstate =>
    -- One segment is completed: it is the front one, and moves from the queue to the log.
    obtain ⟨horder, hqueued⟩ := h.order.pop hsize hfault
    have hmore : d.queue.completedSegments = e.queue.completedSegments + 1 := by
      have hsame : d.queue.completedSegments =
          (e.queue.completeFront config).2.completedSegments :=
        (congrArg MotionQueue.completedSegments hring : d.queue.ring.completedSegments =
          (e.queue.completeFront config).2.ring.completedSegments)
      rw [hsame]
      exact (MotionQueue.completeFront_spec rfl hsize
        (h.order.size_le.trans h.order.maximum_le) hfault).2.2.1
    -- The counter cannot come back to where it was.
    have hne : d.queue.completedSegments ≠ e.queue.completedSegments := by
      rw [hmore]
      intro heq
      have htoNat := congrArg UInt64.toNat heq
      rw [UInt64.toNat_add, UInt64.toNat_one] at htoNat
      have hlt := e.queue.completedSegments.toNat_lt
      omega
    have hfront : e.completed d = [e.queue.segments e.queue.head] := by
      unfold Executor.completed MotionQueue.front
      rw [if_neg hne, if_neg hsize.ne']
      rfl
    refine ⟨horder.of_ring hring fun hpos => hstate ▸ horder.nonempty hpos, ?_⟩
    rw [hfront, MotionQueue.queued_of_ring hring, List.append_assoc, List.singleton_append,
      ← hqueued]
    exact h.sublist
  | aborted hfault cause hnamed underruns hring hstate =>
    -- The queue is dropped, and with it segments that have been accepted and not completed.
    obtain ⟨horder, hempty⟩ := h.order.abort hnamed
    generalize haborted : e.queue.abort cause = aborted at hring horder hempty
    have hcounted : { aborted with queueUnderruns := underruns }.RingOrder config :=
      horder.counted aborted.rejectedSegments underruns
    have hring : d.queue.ring = { aborted with queueUnderruns := underruns }.ring := hring
    have hsame : aborted.completedSegments = e.queue.completedSegments := by
      rw [← haborted, MotionQueue.abort, if_neg hnamed]
    have hsize : aborted.size = 0 := by
      rw [← haborted, MotionQueue.abort, if_neg hnamed]
    rw [hcompleted hring hsame, List.append_nil]
    refine h.of_order (hcounted.of_ring hring fun hpos => absurd hsize hpos.ne') (.inr ?_)
    rw [MotionQueue.queued_of_ring hring]
    exact hempty

/-- A call logs what it accepts and what it completes. -/
theorem RingLogged.step (h : RingLogged config e.queue accepted completed) (op : MotionOp W) :
    RingLogged config ((motionLog config io).step e op).1.queue
      (accepted ++ ((motionLog config io).step e op).2.1)
      (completed ++ ((motionLog config io).step e op).2.2) := by
  cases op with
  | enqueue requested nowNs =>
    show RingLogged config (e.queue.enqueue config requested nowNs).2.2
      (accepted ++ (e.queue.enqueue config requested nowNs).2.1.toList)
      (completed ++ e.completed (e.withQueue (e.queue.enqueue config requested nowNs).2.2))
    cases hvalidate : e.queue.validate config requested nowNs with
    -- A rejected segment is counted, and not logged.
    | error rejection =>
      obtain ⟨hnone, rejected, hsame⟩ := MotionQueue.enqueue_error hvalidate
      rw [hnone, hsame]
      have hcounted : RingLogged config { e.queue with rejectedSegments := rejected } accepted
          completed := h.of_order (h.order.counted rejected e.queue.queueUnderruns) (.inl rfl)
      exact RingLogged.silent (d := e.withQueue _) hcounted rfl
    | ok startTimeNs =>
      -- An accepted one stands in the log and at the end of the queue.
      obtain ⟨horder, hqueued⟩ := h.order.push hvalidate
      have hsome : (e.queue.enqueue config requested nowNs).2.1 =
          some { requested with startTimeNs := startTimeNs } := by
        unfold MotionQueue.enqueue
        rw [hvalidate]
      have hnone : e.completed (e.withQueue (e.queue.enqueue config requested nowNs).2.2) = [] := by
        refine completed_of_eq ?_
        unfold MotionQueue.enqueue withQueue
        rw [hvalidate]
      refine ⟨horder, ?_⟩
      rw [hnone, List.append_nil, hsome, hqueued, ← List.append_assoc]
      exact h.sublist.append_right _
  | tick nowNs =>
    -- A tick completes at most the front segment.
    have heffect : TickEffect config e.queue (e.tick config io nowNs).2.queue :=
      tick_effect e nowNs h.order.nonempty
    show RingLogged config (e.tick config io nowNs).2.queue (accepted ++ []) _
    rw [List.append_nil]
    exact h.effect heffect
  | abort cause =>
    -- An abort completes nothing, and neither does a fault that is cleared.
    have hsame : (e.queue.abort cause).completedSegments = e.queue.completedSegments := by
      unfold MotionQueue.abort
      split <;> rfl
    exact RingLogged.silent (d := e.withQueue (e.queue.abort cause)) (h.abort cause) hsame
  | clearFault nowNs =>
    have hsame : (e.queue.clearFault nowNs).2.completedSegments = e.queue.completedSegments := by
      unfold MotionQueue.clearFault
      split <;> rfl
    obtain ⟨horder, hqueued⟩ := h.order.clearFault nowNs
    exact RingLogged.silent (d := e.withQueue (e.queue.clearFault nowNs).2)
      (h.of_order horder (.inl hqueued)) hsame
  | completeFront =>
    show RingLogged config (e.queue.completeFront config).2 (accepted ++ [])
      (completed ++ e.completed (e.withQueue (e.queue.completeFront config).2))
    rw [List.append_nil]
    refine h.effect (d := e.withQueue (e.queue.completeFront config).2) ?_
    by_cases hopen : e.queue.size = 0 ∨ e.queue.fault ≠ .none
    · unfold withQueue MotionQueue.completeFront
      rw [if_pos hopen]
      exact .alone rfl (.inl rfl)
    -- A segment completed from outside is the front one, too.
    · obtain ⟨hsize, hfault⟩ := not_or.1 hopen
      exact .completed (not_not.1 hfault) (Nat.pos_of_ne_zero hsize) rfl rfl
  | environment world =>
    exact RingLogged.silent (d := { e with world := world }) h rfl

/-- Whatever is called, the log says what has been accepted and what has been completed. -/
theorem RingLogged.run (h : RingLogged config e.queue accepted completed)
    (ops : List (MotionOp W)) :
    RingLogged config ((motionLog config io).run e ops).queue
      (accepted ++ ((motionLog config io).outcomes e ops).flatMap Prod.fst)
      (completed ++ ((motionLog config io).outcomes e ops).flatMap Prod.snd) := by
  induction ops generalizing e accepted completed with
  | nil =>
    show RingLogged config e.queue (accepted ++ []) (completed ++ [])
    rwa [List.append_nil, List.append_nil]
  | cons op ops ih =>
    have hrest := ih (e := ((motionOutputs config io).step e op).1) (h.step op)
    rw [List.append_assoc, List.append_assoc] at hrest
    exact hrest

/-- What holds of the queue in every run from `rbsp_motion_init`. -/
theorem kept_run {axisCount : UInt8} {queue : MotionQueue}
    (hinit : MotionQueue.init config axisCount = some queue) (world : W) (ops : List (MotionOp W)) :
    ((motionOutputs config io).run ⟨queue, world⟩ ops).queue.RingOrder config ∧
      ((motionOutputs config io).run ⟨queue, world⟩ ops).queue.Safe axisCount.toNat := by
  refine (motionOutputs config io).run_induction
    (P := fun e => e.queue.RingOrder config ∧ e.queue.Safe axisCount.toNat)
    (fun e op h => ⟨?_, motionOutputs_safe h.2 op⟩)
    ⟨MotionQueue.ringOrder_init hinit, MotionQueue.safe_init hinit⟩ ops
  have hlogged : RingLogged config e.queue (e.queue.queued config) [] :=
    ⟨h.1, List.Sublist.refl _⟩
  have hnext : RingLogged config ((motionLog config io).step e op).1.queue _ _ := hlogged.step op
  exact hnext.order

end Executor

/-- The ring buffer, in every run from `rbsp_motion_init`. It is in order, it is empty with a fault
or when idle, what is completed and then what is in the buffer was accepted in this order, and a
segment that is not accepted changes nothing but the counter of the rejected ones. -/
theorem ring_invariant (config : MotionConfig) (io : MotionIo W) (axisCount : UInt8)
    (queue : MotionQueue) (hinit : MotionQueue.init config axisCount = some queue) (world : W)
    (ops : List (MotionOp W)) :
    let last := ((motionLog config io).run ⟨queue, world⟩ ops).queue
    let log := (motionLog config io).outcomes ⟨queue, world⟩ ops
    last.RingOrder config ∧
      (last.fault ≠ .none ∨ last.state = .idle → last.queued config = []) ∧
      (log.flatMap Prod.snd ++ last.queued config).Sublist (log.flatMap Prod.fst) ∧
      ∀ requested nowNs, (last.enqueue config requested nowNs).1 ≠ .ok →
        ∃ rejected, (last.enqueue config requested nowNs).2.2 =
          { last with rejectedSegments := rejected } := by
  have hstart : Executor.RingLogged config queue [] [] := by
    refine ⟨MotionQueue.ringOrder_init hinit, ?_⟩
    unfold MotionQueue.init at hinit
    split at hinit
    · cases hinit
    · obtain rfl := Option.some.inj hinit
      exact .slnil
  have hrun : Executor.RingLogged config ((motionLog config io).run ⟨queue, world⟩ ops).queue
      _ _ := Executor.RingLogged.run (e := ⟨queue, world⟩) hstart ops
  refine ⟨hrun.order, fun hstopped => ?_, hrun.sublist, fun requested nowNs hrejected => ?_⟩
  · refine MotionQueue.queued_of_size_eq_zero ?_
    rcases hstopped with hfault | hidle
    · exact hrun.order.faulted hfault
    · exact hrun.order.idle hidle
  · cases hvalidate : ((motionLog config io).run ⟨queue, world⟩ ops).queue.validate config requested
        nowNs with
    | error rejection => exact (MotionQueue.enqueue_error hvalidate).2
    | ok startTimeNs =>
      refine absurd ?_ hrejected
      unfold MotionQueue.enqueue
      rw [hvalidate]

/-- Two segments, the first of which is completed. -/
theorem ring_invariant_two_segments :
    ((motionLog testMotionConfig steadyIo).run ⟨oneAxis.executor.queue, ()⟩
      [.enqueue (twoSteps 1 1000000 false) 0, .enqueue (twoSteps 2 1100000 true) 0,
        .tick 1050000, .tick 1060000, .tick 1100000, .tick 1110000]).queue.RingOrder
      testMotionConfig :=
  (ring_invariant testMotionConfig steadyIo 1 _ rfl () _).1

end RemoteBSP.Firmware
