import RemoteBSP.Firmware.MotionSteps

/-!
# The calls of a motion tick

Which callbacks a tick calls, and with which fault in the queue. The callbacks of a tick act on a
world of any type, so they can be made to write down their calls (`recording`). A call is written
down with the fault that the queue has at the time; `tickWith` is the tick with callbacks that see
the fault, and `tickWith_forget` says that the one that writes its calls down behaves like `tick`.

The rest of the module says what each part of a tick calls (`Keeps`), up to the whole tick
(`tickWith_spec`).
-/

namespace RemoteBSP.Firmware

/-- A call of a callback of `rbsp_motion_io_t`. -/
inductive MotionCall
  | setEnable (axis : ℕ) (enabled : Bool)
  | setDirection (axis : ℕ) (positive : Bool)
  | setStep (axis : ℕ) (level : Bool)
  | limitActive (axis : ℕ)
deriving DecidableEq, Repr

/-- The call drives an axis: it begins a step pulse or enables a driver. -/
def MotionCall.drives : MotionCall → Bool
  | .setEnable _ enabled => enabled
  | .setStep _ level => level
  | .setDirection _ _ | .limitActive _ => false

/-- A world, and the calls that have been made, each with the fault at the time. -/
structure Recorded (W : Type) where
  /-- What lies behind the callbacks that are recorded. -/
  world : W
  /-- The calls so far, each with the fault that the queue had at the time. -/
  calls : List (MotionFault × MotionCall)

variable {W : Type}

/-- Writes down a call with the fault of the time, and lets the world go on. -/
def Recorded.record (recorded : Recorded W) (fault : MotionFault) (call : MotionCall) (world : W) :
    Recorded W :=
  ⟨world, recorded.calls ++ [(fault, call)]⟩

/-- The callbacks that write their calls down. -/
def recording (io : MotionIo W) (fault : MotionFault) : MotionIo (Recorded W) where
  setEnable recorded axis enabled :=
    let (done, world) := io.setEnable recorded.world axis enabled
    (done, recorded.record fault (.setEnable axis enabled) world)
  setDirection recorded axis positive :=
    let (done, world) := io.setDirection recorded.world axis positive
    (done, recorded.record fault (.setDirection axis positive) world)
  setStep recorded axis level :=
    let (done, world) := io.setStep recorded.world axis level
    (done, recorded.record fault (.setStep axis level) world)
  limitActive := io.limitActive.map fun limitActive recorded axis =>
    let (reading, world) := limitActive recorded.world axis
    (reading, recorded.record fault (.limitActive axis) world)

/-- No step output is high and no driver is enabled. -/
def MotionQueue.AllOff (queue : MotionQueue) : Prop :=
  ∀ a, queue.stepHigh a = false ∧ queue.enabled a = false

namespace Executor

/-! ## A tick whose callbacks see the fault -/

section

variable (config : MotionConfig) (io : MotionFault → MotionIo W)

/-- `finishTick`, with callbacks that see the fault of the queue that is stopped. -/
def finishTickWith (segment : MotionSegment) (executor : Executor W) (allEmitted : Bool)
    (nowNs : UInt64) : Bool × Executor W :=
  let elapsed := elapsed segment nowNs
  if elapsed ≥ segment.durationNs ∧ allEmitted then
    match executor.queue.completeFront config with
    | (false, queue) => (false, executor.withQueue queue)
    | (true, queue) =>
      if segment.finalSegment ∨ queue.fault ≠ .none then
        (true, stopOutputs (io queue.fault) (executor.withQueue queue))
      else (true, executor.withQueue queue)
  else if elapsed > segment.durationNs + 1000000000 / config.timerHz then
    let queue := executor.queue.abort .underrun
    (true, stopOutputs (io queue.fault)
      (executor.withQueue { queue with queueUnderruns := queue.queueUnderruns + 1 }))
  else (true, executor)

/-- `runTick`, with callbacks that see the fault. Its parts do not change the fault. -/
def runTickWith (executor : Executor W) (nowNs : UInt64) :
    Except (Stop × Executor W) (Bool × Executor W) := do
  let executor ← (List.range executor.queue.axisCount.toNat).foldlM
    (fun executor => checkLimit (io executor.queue.fault) executor) executor
  match executor.queue.front with
  | none => return (true, stopOutputs (io executor.queue.fault) executor)
  | some segment =>
    if executor.queue.state = .armed ∧ nowNs < segment.startTimeNs then
      return (true, executor)
    let executor ← openSegment (io executor.queue.fault) segment executor
    let (executor, allEmitted) ← emitSteps (io executor.queue.fault) segment executor nowNs
    return finishTickWith config io segment executor allEmitted nowNs

/-- `tick`, with callbacks that see the fault. -/
def tickWith (executor : Executor W) (nowNs : UInt64) : Bool × Executor W :=
  if executor.queue.fault ≠ .none then (true, stopOutputs (io executor.queue.fault) executor)
  else
    match runTickWith config io executor nowNs with
    | .ok result => result
    | .error (stop, executor) =>
      let queue := executor.queue.abort stop.fault
      (stop.result, stopOutputs (io queue.fault) (executor.withQueue queue))

end

/-! ## Writing the calls down changes nothing -/

section

/-- The executor on the world itself, without the record of the calls. -/
def forget (e : Executor (Recorded W)) : Executor W := ⟨e.queue, e.world.world⟩

/-- The two computations end alike, up to the calls. -/
def Mirrors (x : Except (Stop × Executor (Recorded W)) (Executor (Recorded W)))
    (y : Except (Stop × Executor W) (Executor W)) : Prop :=
  x.Alike (fun e e' => e.forget = e') (fun exit exit' => (exit.1, exit.2.forget) = exit') y

variable (io : MotionIo W) (fault : MotionFault) (e : Executor (Recorded W)) (axis : ℕ)
  (segment : MotionSegment)

/-- A direction that is set, and written down. -/
theorem recording_setDirection {recorded : Recorded W} {axis : ℕ} {positive done : Bool} {world : W}
    (h : io.setDirection recorded.world axis positive = (done, world)) :
    (recording io fault).setDirection recorded axis positive =
      (done, recorded.record fault (.setDirection axis positive) world) := by
  change ((io.setDirection recorded.world axis positive).1, recorded.record fault _
    (io.setDirection recorded.world axis positive).2) = _
  rw [h]

/-- A driver that is enabled or disabled, and written down. -/
theorem recording_setEnable {recorded : Recorded W} {axis : ℕ} {enabled done : Bool} {world : W}
    (h : io.setEnable recorded.world axis enabled = (done, world)) :
    (recording io fault).setEnable recorded axis enabled =
      (done, recorded.record fault (.setEnable axis enabled) world) := by
  change ((io.setEnable recorded.world axis enabled).1, recorded.record fault _
    (io.setEnable recorded.world axis enabled).2) = _
  rw [h]

/-- A step output that is set, and written down. -/
theorem recording_setStep {recorded : Recorded W} {axis : ℕ} {level done : Bool} {world : W}
    (h : io.setStep recorded.world axis level = (done, world)) :
    (recording io fault).setStep recorded axis level =
      (done, recorded.record fault (.setStep axis level) world) := by
  change ((io.setStep recorded.world axis level).1, recorded.record fault _
    (io.setStep recorded.world axis level).2) = _
  rw [h]

/-- The check of a limit switch does the same with and without a record of the calls. -/
theorem checkLimit_mirrors :
    Mirrors (checkLimit (recording io fault) e axis) (checkLimit io e.forget axis) := by
  obtain ⟨queue, world, calls⟩ := e
  change Mirrors (checkLimit (recording io fault) ⟨queue, world, calls⟩ axis)
    (checkLimit io ⟨queue, world⟩ axis)
  unfold checkLimit recording
  cases io.limitActive with
  | none => exact rfl
  | some limitActive =>
    dsimp only [Option.map_some]
    rcases limitActive world axis with ⟨⟨_ | _, active⟩, world'⟩
    · exact rfl
    · dsimp only
      by_cases hactive : active = true ∧ queue.state = .running
      · rw [if_pos hactive, if_pos hactive]
        exact rfl
      · rw [if_neg hactive, if_neg hactive]
        exact rfl

/-- Setting the direction of an axis does the same with and without a record of the calls. -/
theorem setAxisDirection_mirrors :
    Mirrors (setAxisDirection (recording io fault) segment e axis)
      (setAxisDirection io segment e.forget axis) := by
  obtain ⟨queue, world, calls⟩ := e
  change Mirrors (setAxisDirection (recording io fault) segment ⟨queue, world, calls⟩ axis)
    (setAxisDirection io segment ⟨queue, world⟩ axis)
  unfold setAxisDirection
  dsimp only
  rcases hset : io.setDirection world axis (decide (segment.steps axis ≥ 0)) with
    ⟨_ | _, world'⟩
  · rw [recording_setDirection io fault hset]
    exact rfl
  · rw [recording_setDirection io fault hset]
    exact rfl

/-- Enabling or disabling a driver does the same with and without a record of the calls. -/
theorem setAxisEnabled_mirrors :
    Mirrors (setAxisEnabled (recording io fault) segment e axis)
      (setAxisEnabled io segment e.forget axis) := by
  obtain ⟨queue, world, calls⟩ := e
  change Mirrors (setAxisEnabled (recording io fault) segment ⟨queue, world, calls⟩ axis)
    (setAxisEnabled io segment ⟨queue, world⟩ axis)
  unfold setAxisEnabled
  dsimp only
  by_cases hsame : queue.enabled axis = (segment.steps axis != 0)
  · rw [if_pos hsame, if_pos hsame]
    exact rfl
  · rw [if_neg hsame, if_neg hsame]
    rcases hset : io.setEnable world axis (segment.steps axis != 0) with ⟨_ | _, world'⟩
    · rw [recording_setEnable io fault hset]
      exact rfl
    · rw [recording_setEnable io fault hset]
      exact rfl

variable {io fault} in
/-- A loop over the axes does the same with and without a record if each iteration does. -/
theorem loop_mirrors {f : Executor (Recorded W) → ℕ → _} {g : Executor W → ℕ → _}
    (hstep : ∀ e axis, Mirrors (f e axis) (g e.forget axis)) (axes : List ℕ) :
    Mirrors (axes.foldlM f e) (axes.foldlM g e.forget) := by
  refine List.foldlM_alike ?_ axes rfl
  rintro axis e _ rfl
  exact hstep e axis

/-- The start of a segment does the same with and without a record of the calls. -/
theorem openSegment_mirrors :
    Mirrors (openSegment (recording io fault) segment e) (openSegment io segment e.forget) := by
  obtain ⟨queue, world, calls⟩ := e
  change Mirrors (openSegment (recording io fault) segment ⟨queue, world, calls⟩)
    (openSegment io segment ⟨queue, world⟩)
  unfold openSegment startSegment
  dsimp only [withQueue]
  split
  · refine (loop_mirrors _ (setAxisDirection_mirrors io fault · · segment) _).bind ?_
    rintro directed _ rfl
    refine (loop_mirrors _ (setAxisEnabled_mirrors io fault · · segment) _).bind ?_
    rintro enabled _ rfl
    exact rfl
  · exact rfl

/-- Ending a step pulse does the same with and without a record of the calls. -/
theorem lowerStep_mirrors :
    Mirrors (lowerStep (recording io fault) e axis) (lowerStep io e.forget axis) := by
  obtain ⟨queue, world, calls⟩ := e
  change Mirrors (lowerStep (recording io fault) ⟨queue, world, calls⟩ axis)
    (lowerStep io ⟨queue, world⟩ axis)
  unfold lowerStep
  dsimp only
  by_cases hhigh : queue.stepHigh axis = true
  · rw [if_pos hhigh, if_pos hhigh]
    rcases hset : io.setStep world axis false with ⟨_ | _, world'⟩
    · rw [recording_setStep io fault hset]
      exact rfl
    · rw [recording_setStep io fault hset]
      exact rfl
  · rw [if_neg hhigh, if_neg hhigh]
    exact rfl

/-- Advancing a phase calls nothing, and does the same with and without a record. -/
theorem advancePhase_mirrors (deltaNs : UInt64) :
    Mirrors (advancePhase segment deltaNs e axis) (advancePhase segment deltaNs e.forget axis) := by
  obtain ⟨queue, world, calls⟩ := e
  change Mirrors (advancePhase segment deltaNs ⟨queue, world, calls⟩ axis)
    (advancePhase segment deltaNs ⟨queue, world⟩ axis)
  unfold advancePhase
  dsimp only
  by_cases hmoves : absoluteSteps (segment.steps axis) ≠ 0 ∧ deltaNs ≠ 0
  · rw [if_pos hmoves, if_pos hmoves]
    by_cases hoverflow : 0xFFFFFFFFFFFFFFFF - queue.activePhase axis <
        absoluteSteps (segment.steps axis) * deltaNs
    · rw [if_pos hoverflow, if_pos hoverflow]
      exact rfl
    · rw [if_neg hoverflow, if_neg hoverflow]
      exact rfl
  · rw [if_neg hmoves, if_neg hmoves]
    exact rfl

/-- Beginning a step pulse does the same with and without a record of the calls. -/
theorem raiseStep_mirrors :
    Mirrors (raiseStep (recording io fault) segment e axis)
      (raiseStep io segment e.forget axis) := by
  obtain ⟨queue, world, calls⟩ := e
  change Mirrors (raiseStep (recording io fault) segment ⟨queue, world, calls⟩ axis)
    (raiseStep io segment ⟨queue, world⟩ axis)
  unfold raiseStep
  dsimp only
  by_cases hdue : queue.activeEmitted axis < absoluteSteps (segment.steps axis) ∧
      queue.activePhase axis ≥ segment.durationNs
  · rw [if_pos hdue, if_pos hdue]
    rcases hset : io.setStep world axis true with ⟨_ | _, world'⟩
    · rw [recording_setStep io fault hset]
      exact rfl
    · rw [recording_setStep io fault hset]
      exact rfl
  · rw [if_neg hdue, if_neg hdue]
    exact rfl

/-- The loop that emits the steps does the same with and without a record of the calls. -/
theorem emitSteps_mirrors (nowNs : UInt64) :
    (emitSteps (recording io fault) segment e nowNs).Alike
      (fun r r' => (r.1.forget, r.2) = r') (fun exit exit' => (exit.1, exit.2.forget) = exit')
      (emitSteps io segment e.forget nowNs) := by
  unfold emitSteps
  dsimp only
  refine List.foldlM_alike (fun axis r _ hr => ?_) _ rfl
  subst hr
  unfold emitAxis
  refine (lowerStep_mirrors io fault r.1 axis).bind ?_
  rintro lowered _ rfl
  refine (advancePhase_mirrors lowered axis segment _).bind ?_
  rintro advanced _ rfl
  refine (raiseStep_mirrors io fault advanced axis segment).bind ?_
  rintro raised _ rfl
  by_cases hopen : raised.queue.activeEmitted axis ≠ absoluteSteps (segment.steps axis) ∨
      raised.queue.stepHigh axis
  · have hopen' : raised.forget.queue.activeEmitted axis ≠ absoluteSteps (segment.steps axis) ∨
        raised.forget.queue.stepHigh axis := hopen
    rw [if_pos hopen, if_pos hopen']
    exact rfl
  · have hopen' : ¬(raised.forget.queue.activeEmitted axis ≠ absoluteSteps (segment.steps axis) ∨
        raised.forget.queue.stepHigh axis) := hopen
    rw [if_neg hopen, if_neg hopen']
    exact rfl

/-- Stopping the outputs of one axis does the same with and without a record of the calls. -/
theorem stopAxis_forget :
    (stopAxis (recording io fault) e axis).forget = stopAxis io e.forget axis := by
  obtain ⟨queue, world, calls⟩ := e
  change (stopAxis (recording io fault) ⟨queue, world, calls⟩ axis).forget =
    stopAxis io ⟨queue, world⟩ axis
  unfold stopAxis
  dsimp only
  by_cases hhigh : queue.stepHigh axis = true
  · simp only [hhigh, if_true]
    by_cases hon : queue.enabled axis = true
    · simp only [hon, if_true]
      rfl
    · simp only [hon, Bool.false_eq_true, if_false]
      rfl
  · simp only [hhigh, Bool.false_eq_true, if_false]
    by_cases hon : queue.enabled axis = true
    · simp only [hon, if_true]
      rfl
    · simp only [hon, Bool.false_eq_true, if_false]
      rfl

/-- Stopping the outputs does the same with and without a record of the calls. -/
theorem stopOutputs_forget :
    (stopOutputs (recording io fault) e).forget = stopOutputs io e.forget := by
  unfold stopOutputs
  rw [show e.forget.queue = e.queue from rfl]
  generalize List.range e.queue.axisCount.toNat = axes
  induction axes generalizing e with
  | nil => rfl
  | cons axis axes ih => rw [List.foldl_cons, List.foldl_cons, ih, stopAxis_forget]

variable (config : MotionConfig)

/-- The end of the tick does the same with and without a record of the calls. -/
theorem finishTickWith_forget (allEmitted : Bool) (nowNs : UInt64) :
    let result := finishTickWith config (recording io) segment e allEmitted nowNs
    (result.1, result.2.forget) = finishTick config io segment e.forget allEmitted nowNs := by
  obtain ⟨queue, world, calls⟩ := e
  change (_, Executor.forget _) = finishTick config io segment ⟨queue, world⟩ allEmitted nowNs
  unfold finishTickWith finishTick
  dsimp only
  split
  · rcases queue.completeFront config with ⟨_ | _, queue'⟩
    · rfl
    · dsimp only
      split
      · exact congrArg (Prod.mk true) (stopOutputs_forget io _ _)
      · rfl
  · split
    · exact congrArg (Prod.mk true) (stopOutputs_forget io _ _)
    · rfl

/-- The tick that writes its calls down behaves like the tick. -/
theorem tickWith_forget (nowNs : UInt64) :
    let result := tickWith config (recording io) e nowNs
    (result.1, result.2.forget) = tick config io e.forget nowNs := by
  have hrun : (runTickWith config (recording io) e nowNs).Alike
      (fun r r' => (r.1, r.2.forget) = r') (fun exit exit' => (exit.1, exit.2.forget) = exit')
      (runTick config io e.forget nowNs) := by
    unfold runTickWith runTick
    -- The checks of the limits, the choice of the segment and its loop mirror each other in turn.
    refine (loop_mirrors e (fun e axis => checkLimit_mirrors io e.queue.fault e axis)
      (List.range e.queue.axisCount.toNat)).bind ?_
    rintro ⟨queue, world, calls⟩ ⟨queue', world'⟩ hchecked
    obtain ⟨rfl, rfl⟩ : queue = queue' ∧ world = world' := Executor.mk.inj hchecked
    dsimp only
    cases queue.front with
    | none => exact congrArg (Prod.mk true) (stopOutputs_forget io _ _)
    | some segment =>
      by_cases hwait : queue.state = .armed ∧ nowNs < segment.startTimeNs
      · dsimp only
        rw [if_pos hwait, if_pos hwait]
        exact rfl
      · dsimp only
        rw [if_neg hwait, if_neg hwait]
        refine (openSegment_mirrors io queue.fault ⟨queue, world, calls⟩ segment).bind ?_
        rintro opened _ rfl
        refine (emitSteps_mirrors io opened.queue.fault opened segment nowNs).bind ?_
        rintro ⟨emitted, allEmitted⟩ _ rfl
        exact finishTickWith_forget io emitted segment config allEmitted nowNs
  unfold tickWith tick
  rw [show e.forget.queue = e.queue from rfl]
  dsimp only
  split
  · rw [stopOutputs_forget]
  -- Both ticks succeed, or both stop and then hold the outputs low.
  · rcases hwith : runTickWith config (recording io) e nowNs with exit | result <;>
      rcases hplain : runTick config io e.forget nowNs with exit' | result' <;>
      rw [hwith, hplain] at hrun
    · obtain rfl := hrun
      dsimp only
      rw [stopOutputs_forget]
      rfl
    · exact hrun.elim
    · exact hrun.elim
    · exact hrun

end

/-! ## What the parts of a tick call -/

/-- The calls that a tick may make in any case, among those that meet `A`: the calls that do not
drive an axis, and without a fault the calls that enable a driver. -/
structure Permits (A : MotionFault × MotionCall → Prop) : Prop where
  /-- Calls that switch an output off, or read one, may come at any time. -/
  passive : ∀ fault call, call.drives = false → A (fault, call)
  /-- A driver may be enabled while there is no fault. -/
  enable : ∀ axis, A (.none, .setEnable axis true)

/-- The segments and the state are those of the queue `q`, the axes from `n` on are off, and all
calls meet `A`. -/
structure Keeps (n : ℕ) (q : MotionQueue) (A : MotionFault × MotionCall → Prop)
    (e : Executor (Recorded W)) : Prop where
  /-- The segments of the queue are those from before. -/
  same : q.SameSegments e.queue
  /-- The state of the queue is that from before. -/
  state : e.queue.state = q.state
  /-- The outputs beyond the axes in use are off. -/
  beyond : ∀ a, n ≤ a → e.queue.stepHigh a = false ∧ e.queue.enabled a = false
  /-- All calls so far are allowed. -/
  calls : ∀ call ∈ e.world.calls, A call

/-- A part of a tick exits with a fault, and has kept the segments. -/
def Exits (n : ℕ) (q : MotionQueue) (A : MotionFault × MotionCall → Prop)
    (exit : Stop × Executor (Recorded W)) : Prop :=
  exit.1.fault ≠ .none ∧ Keeps n q A exit.2

variable {config : MotionConfig} {io : MotionIo W} {n : ℕ} {q : MotionQueue}
  {A : MotionFault × MotionCall → Prop} {e : Executor (Recorded W)} {axis : ℕ}
  {segment : MotionSegment}

/-- A call that is written down. -/
theorem Keeps.record (h : Keeps n q A e) {fault : MotionFault} {call : MotionCall}
    (hcall : A (fault, call)) (world : W) :
    Keeps n q A { e with world := e.world.record fault call world } := by
  refine ⟨h.same, h.state, h.beyond, fun c hc => ?_⟩
  rcases List.mem_append.1 hc with hold | hnew
  · exact h.calls c hold
  · exact List.mem_singleton.1 hnew ▸ hcall

/-- A change of the queue that leaves the segments and the state alone. -/
theorem Keeps.withQueue (h : Keeps n q A e) {queue : MotionQueue}
    (hsame : e.queue.SameSegments queue) (hstate : queue.state = e.queue.state)
    (hbeyond : ∀ a, n ≤ a → queue.stepHigh a = e.queue.stepHigh a ∧
      queue.enabled a = e.queue.enabled a) :
    Keeps n q A (e.withQueue queue) := by
  refine ⟨h.same.trans hsame, hstate.trans h.state, fun a ha => ?_, h.calls⟩
  obtain ⟨hstep, henabled⟩ := hbeyond a ha
  obtain ⟨hstep', henabled'⟩ := h.beyond a ha
  exact ⟨hstep.trans hstep', henabled.trans henabled'⟩

/-- An update below `n` does not reach the axes from `n` on. -/
theorem update_beyond {α : Type} {f : ℕ → α} (haxis : axis < n) (x : α) {a : ℕ} (ha : n ≤ a) :
    Function.update f axis x a = f a :=
  Function.update_of_ne (haxis.trans_le ha).ne' x f

/-- The check of a limit switch keeps the queue, and its call is allowed. -/
theorem checkLimit_keeps (hA : Permits A) (h : Keeps n q A e) (fault : MotionFault) (axis : ℕ) :
    (checkLimit (recording io fault) e axis).Ends
      (fun e' => e'.queue = e.queue ∧ Keeps n q A e') (Exits n q A) := by
  have hcall : A (fault, .limitActive axis) := hA.passive _ _ rfl
  unfold checkLimit recording
  cases io.limitActive with
  | none => exact ⟨rfl, h⟩
  | some limitActive =>
    dsimp only [Option.map_some]
    split
    · next hread =>
      obtain ⟨-, rfl⟩ := Prod.mk.inj hread
      exact ⟨nofun, h.record hcall _⟩
    · next hread =>
      obtain ⟨-, rfl⟩ := Prod.mk.inj hread
      split
      · exact ⟨nofun, h.record hcall _⟩
      · exact ⟨rfl, h.record hcall _⟩

/-- Setting the direction of an axis keeps the segments, and its calls are allowed. -/
theorem setAxisDirection_keeps (hA : Permits A) (h : Keeps n q A e) (fault : MotionFault)
    (segment : MotionSegment) (axis : ℕ) :
    (setAxisDirection (recording io fault) segment e axis).Ends
      (fun e' => e'.queue.activePhase = e.queue.activePhase ∧
        e'.queue.activeEmitted = e.queue.activeEmitted ∧
        e'.queue.activeLastTickNs = e.queue.activeLastTickNs ∧ Keeps n q A e')
      (Exits n q A) := by
  unfold setAxisDirection recording
  dsimp only
  split
  · next hset =>
    obtain ⟨-, rfl⟩ := Prod.mk.inj hset
    exact ⟨nofun, h.record (hA.passive _ _ rfl) _⟩
  · next hset =>
    obtain ⟨-, rfl⟩ := Prod.mk.inj hset
    refine ⟨rfl, rfl, rfl, ?_⟩
    exact (h.record (hA.passive _ _ rfl) _).withQueue ⟨rfl, rfl, rfl, rfl, rfl, rfl⟩ rfl
      fun _ _ => ⟨rfl, rfl⟩

/-- Enabling or disabling a driver keeps the segments, and its call is allowed. -/
theorem setAxisEnabled_keeps (hA : Permits A) (h : Keeps n q A e) (segment : MotionSegment)
    (haxis : axis < n) :
    (setAxisEnabled (recording io .none) segment e axis).Ends
      (fun e' => e'.queue.activePhase = e.queue.activePhase ∧
        e'.queue.activeEmitted = e.queue.activeEmitted ∧
        e'.queue.activeLastTickNs = e.queue.activeLastTickNs ∧ Keeps n q A e')
      (Exits n q A) := by
  have hcall : ∀ enabled, A (.none, .setEnable axis enabled) := by
    intro enabled
    cases enabled with
    | false => exact hA.passive _ _ rfl
    | true => exact hA.enable axis
  unfold setAxisEnabled recording
  dsimp only
  split
  · exact ⟨rfl, rfl, rfl, h⟩
  · split
    · next hset =>
      obtain ⟨-, rfl⟩ := Prod.mk.inj hset
      exact ⟨nofun, h.record (hcall _) _⟩
    · next hset =>
      obtain ⟨-, rfl⟩ := Prod.mk.inj hset
      refine ⟨rfl, rfl, rfl, ?_⟩
      exact (h.record (hcall _) _).withQueue ⟨rfl, rfl, rfl, rfl, rfl, rfl⟩ rfl
        fun a ha => ⟨rfl, update_beyond haxis _ ha⟩

/-- Ending a step pulse keeps the segments and the phases, and its call is allowed. -/
theorem lowerStep_keeps (hA : Permits A) (h : Keeps n q A e) (haxis : axis < n) :
    (lowerStep (recording io .none) e axis).Ends
      (fun e' => e'.queue.activePhase = e.queue.activePhase ∧ Keeps n q A e') (Exits n q A) := by
  have hcall : A (.none, .setStep axis false) := hA.passive _ _ rfl
  unfold lowerStep recording
  dsimp only
  split
  · split
    · next hset =>
      obtain ⟨-, rfl⟩ := Prod.mk.inj hset
      exact ⟨nofun, h.record hcall _⟩
    · next hset =>
      obtain ⟨-, rfl⟩ := Prod.mk.inj hset
      refine ⟨rfl, ?_⟩
      exact (h.record hcall _).withQueue ⟨rfl, rfl, rfl, rfl, rfl, rfl⟩ rfl
        fun a ha => ⟨update_beyond haxis _ ha, rfl⟩
  · exact ⟨rfl, h⟩

/-- Advancing a phase keeps the segments, and calls nothing. -/
theorem advancePhase_keeps (h : Keeps n q A e) (segment : MotionSegment) (deltaNs : UInt64)
    (axis : ℕ) :
    (advancePhase segment deltaNs e axis).Ends
      (fun e' => (e'.queue.activePhase axis = e.queue.activePhase axis ∨
          e'.queue.activePhase axis =
            e.queue.activePhase axis + absoluteSteps (segment.steps axis) * deltaNs) ∧
        (∀ a ≠ axis, e'.queue.activePhase a = e.queue.activePhase a) ∧ Keeps n q A e')
      (Exits n q A) := by
  unfold advancePhase
  dsimp only
  split
  · split
    · exact ⟨nofun, h⟩
    · refine ⟨.inr (Function.update_self ..), fun a ha => Function.update_of_ne ha .., ?_⟩
      exact h.withQueue ⟨rfl, rfl, rfl, rfl, rfl, rfl⟩ rfl fun _ _ => ⟨rfl, rfl⟩
  · exact ⟨.inl rfl, fun _ _ => rfl, h⟩

/-- Beginning a step pulse, which is only called if a step is due. -/
theorem raiseStep_keeps (h : Keeps n q A e) (haxis : axis < n)
    (hraise : absoluteSteps (segment.steps axis) ≠ 0 →
      segment.durationNs ≤ e.queue.activePhase axis → A (.none, .setStep axis true)) :
    (raiseStep (recording io .none) segment e axis).Ends
      (fun e' => (∀ a ≠ axis, e'.queue.activePhase a = e.queue.activePhase a) ∧ Keeps n q A e')
      (Exits n q A) := by
  unfold raiseStep recording
  dsimp only
  split
  · next hdue =>
    have hsome : absoluteSteps (segment.steps axis) ≠ 0 := by
      intro hzero
      rw [hzero] at hdue
      exact UInt64.not_lt_zero hdue.1
    have hcall := hraise hsome hdue.2
    split
    · next hset =>
      obtain ⟨-, rfl⟩ := Prod.mk.inj hset
      refine ⟨nofun, (h.record hcall _).withQueue ⟨rfl, rfl, rfl, rfl, rfl, rfl⟩ rfl ?_⟩
      exact fun _ _ => ⟨rfl, rfl⟩
    · next hset =>
      obtain ⟨-, rfl⟩ := Prod.mk.inj hset
      refine ⟨fun a ha => Function.update_of_ne ha .., ?_⟩
      exact (h.record hcall _).withQueue ⟨rfl, rfl, rfl, rfl, rfl, rfl⟩ rfl
        fun a ha => ⟨update_beyond haxis _ ha, rfl⟩
  · exact ⟨fun _ _ => rfl, h⟩

/-- One iteration of the loop that emits the steps keeps the segments, and its calls are allowed if
a rising step output is. -/
theorem emitAxis_keeps (hA : Permits A) {r : Executor (Recorded W) × Bool} (h : Keeps n q A r.1)
    (haxis : axis < n) {deltaNs : UInt64}
    (hraise : ∀ phase, phase = r.1.queue.activePhase axis ∨
        phase = r.1.queue.activePhase axis + absoluteSteps (segment.steps axis) * deltaNs →
      absoluteSteps (segment.steps axis) ≠ 0 → segment.durationNs ≤ phase →
        A (.none, .setStep axis true)) :
    (emitAxis (recording io .none) segment deltaNs r axis).Ends
      (fun r' => (∀ a ≠ axis, r'.1.queue.activePhase a = r.1.queue.activePhase a) ∧
        Keeps n q A r'.1) (Exits n q A) := by
  unfold emitAxis
  refine (lowerStep_keeps hA h haxis).bind ?_
  rintro lowered ⟨hphases, hlowered⟩
  refine (advancePhase_keeps hlowered segment deltaNs axis).bind ?_
  rintro advanced ⟨hphase, hothers, hadvanced⟩
  rw [hphases] at hphase hothers
  refine (raiseStep_keeps hadvanced haxis (hraise _ hphase)).bind ?_
  rintro raised ⟨hraised, hkeeps⟩
  have hstill : ∀ a ≠ axis, raised.queue.activePhase a = r.1.queue.activePhase a :=
    fun a ha => (hraised a ha).trans (hothers a ha)
  split <;> exact ⟨hstill, hkeeps⟩

/-- The part of the duration of a segment that has passed. -/
def boundedElapsed (segment : MotionSegment) (nowNs : UInt64) : UInt64 :=
  if elapsed segment nowNs < segment.durationNs then elapsed segment nowNs else segment.durationNs

/-- The time since the last tick, by which a tick advances the phases. -/
def deltaNs (segment : MotionSegment) (lastTickNs nowNs : UInt64) : UInt64 :=
  let tickTime := segment.startTimeNs + boundedElapsed segment nowNs
  if tickTime > lastTickNs then tickTime - lastTickNs else 0

/-- The loop that emits the steps keeps the segments, and its calls are allowed if rising step
outputs are. -/
theorem emitSteps_keeps (hA : Permits A) (h : Keeps n q A e)
    (hcount : e.queue.axisCount.toNat = n) {nowNs : UInt64}
    (hraise : ∀ axis < n, ∀ phase, phase = e.queue.activePhase axis ∨
        phase = e.queue.activePhase axis + absoluteSteps (segment.steps axis) *
          deltaNs segment e.queue.activeLastTickNs nowNs →
      absoluteSteps (segment.steps axis) ≠ 0 → segment.durationNs ≤ phase →
        A (.none, .setStep axis true)) :
    (emitSteps (recording io .none) segment e nowNs).Ends (fun r => Keeps n q A r.1)
      (Exits n q A) := by
  subst hcount
  unfold emitSteps
  dsimp only
  refine Except.Ends.mono (List.range_foldlM_ends (P := fun k (r : Executor (Recorded W) × Bool) =>
    (∀ a, k ≤ a → r.1.queue.activePhase a = e.queue.activePhase a) ∧
      Keeps e.queue.axisCount.toNat q A r.1)
    (fun k r hk hr => ?_) ?_) (fun _ hr => hr.2) fun _ => id
  · obtain ⟨hphases, hkeeps⟩ := hr
    have hraise' := hraise k hk
    rw [← hphases k le_rfl] at hraise'
    refine (emitAxis_keeps hA hkeeps hk hraise').mono ?_ fun _ => id
    rintro r' ⟨hothers, hkeeps'⟩
    refine ⟨fun a ha => ?_, hkeeps'⟩
    rw [hothers a (by omega), hphases a (by omega)]
  · refine ⟨fun _ _ => rfl, ?_⟩
    exact h.withQueue ⟨rfl, rfl, rfl, rfl, rfl, rfl⟩ rfl fun _ _ => ⟨rfl, rfl⟩

/-- The start of a segment keeps the segments, and its calls are allowed. -/
theorem startSegment_keeps (hA : Permits A) (h : Keeps n q A e)
    (hcount : e.queue.axisCount.toNat = n) (segment : MotionSegment) :
    (startSegment (recording io .none) segment e).Ends
      (fun e' => (∀ a, e'.queue.activePhase a = 0 ∧ e'.queue.activeEmitted a = 0) ∧
        e'.queue.activeLastTickNs = segment.startTimeNs ∧
          Keeps n { q with state := .running } A e')
      (Exits n q A) := by
  subst hcount
  -- What the loops keep.
  let P : ℕ → Executor (Recorded W) → Prop := fun _ e' =>
    (∀ a, e'.queue.activePhase a = 0 ∧ e'.queue.activeEmitted a = 0) ∧
      e'.queue.activeLastTickNs = segment.startTimeNs ∧ Keeps e.queue.axisCount.toNat q A e'
  have hreset : P 0 (e.withQueue { e.queue with
      activeEmitted := fun _ => 0
      activePhase := fun _ => 0
      activeLastTickNs := segment.startTimeNs }) :=
    ⟨fun _ => ⟨rfl, rfl⟩, rfl, h.withQueue ⟨rfl, rfl, rfl, rfl, rfl, rfl⟩ rfl fun _ _ => ⟨rfl, rfl⟩⟩
  unfold startSegment
  dsimp only
  refine (List.range_foldlM_ends (P := P) (fun k e' _ he' => ?_) hreset).bind
    fun directed hdirected => ?_
  · obtain ⟨hzero, hlast, hkeeps⟩ := he'
    refine (setAxisDirection_keeps hA hkeeps .none segment k).mono ?_ fun _ => id
    rintro e'' ⟨hphase, hemitted, hlast', hkeeps'⟩
    refine ⟨?_, hlast'.trans hlast, hkeeps'⟩
    rw [hphase, hemitted]
    exact hzero
  · refine (List.range_foldlM_ends (P := P) (fun k e' hk he' => ?_) hdirected).bind
      fun enabled henabled => ?_
    · obtain ⟨hzero, hlast, hkeeps⟩ := he'
      refine (setAxisEnabled_keeps hA hkeeps segment hk).mono ?_ fun _ => id
      rintro e'' ⟨hphase, hemitted, hlast', hkeeps'⟩
      refine ⟨?_, hlast'.trans hlast, hkeeps'⟩
      rw [hphase, hemitted]
      exact hzero
    · obtain ⟨hzero, hlast, hsame, -, hbeyond, hcalls⟩ := henabled
      refine ⟨hzero, hlast, ?_, rfl, hbeyond, hcalls⟩
      exact ⟨hsame.segments, hsame.axisCount, hsame.head, hsame.size, hsame.fault,
        hsame.completedSegments⟩

/-- Stopping the outputs of one axis keeps the segments, and its calls are allowed. -/
theorem stopAxis_keeps (hA : Permits A) (h : Keeps n q A e) (fault : MotionFault)
    (haxis : axis < n) : Keeps n q A (stopAxis (recording io fault) e axis) := by
  have hlower : A (fault, .setStep axis false) := hA.passive _ _ rfl
  have hdisable : A (fault, .setEnable axis false) := hA.passive _ _ rfl
  -- The second half, behind the end of a step pulse.
  have hdisabled : ∀ e' : Executor (Recorded W), Keeps n q A e' → Keeps n q A
      (if e'.queue.enabled axis then
        { queue := { e'.queue with enabled := Function.update e'.queue.enabled axis false }
          world := ((recording io fault).setEnable e'.world axis false).2 }
      else e') := by
    intro e' he'
    split
    · exact (he'.record hdisable _).withQueue ⟨rfl, rfl, rfl, rfl, rfl, rfl⟩ rfl
        fun a ha => ⟨rfl, update_beyond haxis _ ha⟩
    · exact he'
  unfold stopAxis
  refine hdisabled _ ?_
  split
  · exact (h.record hlower _).withQueue ⟨rfl, rfl, rfl, rfl, rfl, rfl⟩ rfl
      fun a ha => ⟨update_beyond haxis _ ha, rfl⟩
  · exact h

/-- The outputs of the axis that is stopped are off. -/
theorem stopAxis_outputs (io : MotionIo W) (e : Executor W) (axis : ℕ) :
    (stopAxis io e axis).queue.stepHigh = Function.update e.queue.stepHigh axis false ∧
      (stopAxis io e axis).queue.enabled = Function.update e.queue.enabled axis false := by
  have hsame : ∀ f : ℕ → Bool, ¬f axis = true → f = Function.update f axis false := by
    intro f hf
    rw [Bool.not_eq_true] at hf
    exact (Function.update_eq_self_iff.2 hf.symm).symm
  unfold stopAxis
  by_cases hhigh : e.queue.stepHigh axis = true
  · simp only [hhigh, if_true]
    split
    · exact ⟨rfl, rfl⟩
    · next hoff => exact ⟨rfl, hsame _ hoff⟩
  · simp only [hhigh, Bool.false_eq_true, if_false]
    split
    · exact ⟨hsame _ hhigh, rfl⟩
    · next hoff => exact ⟨hsame _ hhigh, hsame _ hoff⟩

/-- An axis that is off stays off, and the axis that is stopped is off. -/
theorem stopAxis_off (io : MotionIo W) (e : Executor W) (axis a : ℕ)
    (h : a = axis ∨ e.queue.stepHigh a = false ∧ e.queue.enabled a = false) :
    (stopAxis io e axis).queue.stepHigh a = false ∧
      (stopAxis io e axis).queue.enabled a = false := by
  obtain ⟨hstep, henabled⟩ := stopAxis_outputs io e axis
  rw [hstep, henabled]
  by_cases ha : a = axis
  · rw [ha, Function.update_self, Function.update_self]
    exact ⟨rfl, rfl⟩
  · rw [Function.update_of_ne ha, Function.update_of_ne ha]
    exact h.resolve_left ha

/-- Stopping the outputs: all axes are off. -/
theorem stopOutputs_keeps (hA : Permits A) (h : Keeps n q A e)
    (hcount : e.queue.axisCount.toNat = n) (fault : MotionFault) :
    Keeps n q A (stopOutputs (recording io fault) e) ∧
      (stopOutputs (recording io fault) e).queue.AllOff := by
  have hkeeps : Keeps n q A (stopOutputs (recording io fault) e) := by
    unfold stopOutputs
    rw [hcount]
    exact List.foldlRecOn _ _ h fun e' he' axis haxis =>
      stopAxis_keeps hA he' fault (List.mem_range.1 haxis)
  refine ⟨hkeeps, fun a => ?_⟩
  rcases Nat.lt_or_ge a n with ha | ha
  · unfold stopOutputs
    rw [hcount]
    exact List.foldl_reaches (P := fun _ => True)
      (Q := fun e' : Executor (Recorded W) =>
        e'.queue.stepHigh a = false ∧ e'.queue.enabled a = false)
      (fun _ _ _ _ => trivial) (fun e' axis _ he' => stopAxis_off _ e' axis a (.inr he'))
      (List.mem_range.2 ha) (fun e' _ => stopAxis_off _ e' a a (.inl rfl)) trivial
  · exact hkeeps.beyond a ha

/-! ## What a tick calls -/

variable (io) in
/-- Whether one of the limit switches of the axes is reported to be active, when they are read one
after the other until a read fails. -/
def limitReported (world : W) : List ℕ → Bool
  | [] => false
  | axis :: axes =>
    match io.limitActive with
    | none => false
    | some limitActive =>
      match limitActive world axis with
      | ((false, _), _) => false
      | ((true, active), world) => active || limitReported world axes

/-- While a segment is running, no limit is active behind the check of one that has been passed. -/
theorem checkLimit_passes {fault : MotionFault} {e' : Executor (Recorded W)}
    (h : checkLimit (recording io fault) e axis = .ok e') (hrunning : e.queue.state = .running)
    {axes : List ℕ} (hrest : limitReported io e'.world.world axes = false) :
    limitReported io e.world.world (axis :: axes) = false := by
  unfold checkLimit recording at h
  unfold limitReported
  cases hlimit : io.limitActive with
  | none => rfl
  | some limitActive =>
    rw [hlimit] at h
    dsimp only [Option.map_some] at h ⊢
    split at h
    · cases h
    · next active recorded hread =>
      obtain ⟨hreading, rfl⟩ := Prod.mk.inj hread
      split at h
      · cases h
      · next hpassed =>
        obtain rfl := Except.ok.inj h
        have hinactive : active = false :=
          Bool.not_eq_true _ ▸ fun hactive => hpassed ⟨hactive, hrunning⟩
        split
        · rfl
        · next world hread' =>
          rw [hread'] at hreading hrest
          obtain ⟨-, rfl⟩ := Prod.mk.inj hreading
          rw [hinactive]
          exact hrest

/-- The checks of the limit switches. -/
theorem checkLimits_keeps (hA : Permits A) (axes : List ℕ) (h : Keeps n q A e) :
    (axes.foldlM (fun executor => checkLimit (recording io executor.queue.fault) executor) e).Ends
      (fun e' => e'.queue = e.queue ∧ Keeps n q A e' ∧
        (e.queue.state = .running → limitReported io e.world.world axes = false))
      (Exits n q A) := by
  induction axes generalizing e with
  | nil => exact ⟨rfl, h, fun _ => rfl⟩
  | cons axis axes ih =>
    have hone : (checkLimit (recording io e.queue.fault) e axis).Ends _ _ :=
      checkLimit_keeps hA h e.queue.fault axis
    rw [List.foldlM_cons]
    cases hcheck : checkLimit (recording io e.queue.fault) e axis with
    | error exit =>
      rw [hcheck] at hone
      exact hone
    | ok e' =>
      rw [hcheck] at hone
      obtain ⟨hqueue, hkeeps⟩ := hone
      refine (ih hkeeps).mono (fun e'' he'' => ?_) fun _ => id
      obtain ⟨hqueue', hkeeps', hlimits⟩ := he''
      refine ⟨hqueue'.trans hqueue, hkeeps', fun hrunning => ?_⟩
      exact checkLimit_passes hcheck hrunning (hlimits (hqueue ▸ hrunning))

/-- A step of an axis is due at the first tick of a segment, since that much of it has passed. -/
def StepDue (segment : MotionSegment) (nowNs : UInt64) (axis : ℕ) : Prop :=
  absoluteSteps (segment.steps axis) ≠ 0 ∧
    segment.durationNs ≤ absoluteSteps (segment.steps axis) * boundedElapsed segment nowNs

instance (segment : MotionSegment) (nowNs : UInt64) (axis : ℕ) :
    Decidable (StepDue segment nowNs axis) :=
  inferInstanceAs (Decidable (_ ∧ _))

/-- At the first tick of a segment a pulse is begun only if a step is due. -/
theorem stepDue_of_phase {phase nowNs : UInt64}
    (hphase : phase = 0 ∨ phase = 0 + absoluteSteps (segment.steps axis) *
      deltaNs segment segment.startTimeNs nowNs)
    (hsteps : absoluteSteps (segment.steps axis) ≠ 0) (hdue : segment.durationNs ≤ phase) :
    StepDue segment nowNs axis := by
  have hzero : segment.durationNs ≤ 0 → StepDue segment nowNs axis :=
    fun h => ⟨hsteps, UInt64.le_trans h UInt64.zero_le⟩
  rcases hphase with rfl | rfl
  · exact hzero hdue
  · rw [UInt64.zero_add] at hdue
    unfold deltaNs at hdue
    dsimp only at hdue
    split at hdue
    · rw [UInt64.add_comm, UInt64.add_sub_cancel] at hdue
      exact ⟨hsteps, hdue⟩
    · rw [UInt64.mul_zero] at hdue
      exact hzero hdue

end Executor

/-- What holds of the queue behind every call: with a fault it is empty, with segments it is armed
or running, and the axes from `n` on are off. -/
structure MotionQueue.Safe (n : ℕ) (q : MotionQueue) : Prop where
  /-- The queue has as many axes as there are. -/
  axisCount : q.axisCount.toNat = n
  /-- A queue with a fault is empty. -/
  faulted : q.fault ≠ .none → q.size = 0
  /-- A queue with segments is armed or running. -/
  nonempty : 0 < q.size → q.state = .armed ∨ q.state = .running
  /-- The outputs beyond the axes in use are off. -/
  beyond : ∀ a, n ≤ a → q.stepHigh a = false ∧ q.enabled a = false

namespace MotionQueue

variable {n : ℕ} {q : MotionQueue}

/-- An abort keeps a queue safe. -/
theorem Safe.abort (h : q.Safe n) (fault : MotionFault) : (q.abort fault).Safe n := by
  unfold MotionQueue.abort
  split
  · exact h
  · exact ⟨h.axisCount, fun _ => rfl, fun hpos => absurd hpos (Nat.lt_irrefl 0), h.beyond⟩

/-- The queue after the front segment has been completed. It is empty only behind the end of the
motion. -/
theorem Safe.completeFront (h : q.Safe n) (config : MotionConfig) (hsize : 0 < q.size)
    (hfault : q.fault = .none) :
    (q.completeFront config).1 = true ∧ (q.completeFront config).2.Safe n ∧
      ((q.completeFront config).2.size = 0 →
        (q.segments q.head).finalSegment = true ∨ (q.completeFront config).2.fault ≠ .none) := by
  have hopen : ¬(q.size = 0 ∨ q.fault ≠ .none) := by
    rw [not_or, not_not]
    exact ⟨hsize.ne', hfault⟩
  unfold MotionQueue.completeFront
  rw [if_neg hopen]
  dsimp only
  split
  · next hfinal =>
    refine ⟨rfl, ⟨h.axisCount, fun _ => rfl, ?_, h.beyond⟩, fun _ => .inl hfinal⟩
    exact fun hpos => absurd hpos (Nat.lt_irrefl 0)
  · split
    · next hlast =>
      refine ⟨rfl, ⟨h.axisCount, fun _ => hlast, ?_, h.beyond⟩, fun _ => .inr nofun⟩
      exact fun hpos => absurd hlast hpos.ne'
    · next hmore =>
      refine ⟨rfl, ⟨h.axisCount, ?_, fun _ => .inl rfl, h.beyond⟩, ?_⟩
      · exact fun hne => absurd hfault hne
      · exact fun hzero => absurd hzero hmore

end MotionQueue

namespace Executor

variable {config : MotionConfig} {io : MotionIo W} {n : ℕ} {q : MotionQueue}
  {A : MotionFault × MotionCall → Prop} {e : Executor (Recorded W)} {segment : MotionSegment}
  {nowNs : UInt64}

/-- What a tick leaves: a safe queue, whose outputs are off if it is empty, and calls that
meet `A`. -/
structure Leaves (n : ℕ) (A : MotionFault × MotionCall → Prop) (e : Executor (Recorded W)) :
    Prop where
  /-- The queue is safe. -/
  safe : e.queue.Safe n
  /-- When the queue is empty, all outputs are off. -/
  off : e.queue.size = 0 → e.queue.AllOff
  /-- All calls so far are allowed. -/
  calls : ∀ call ∈ e.world.calls, A call

/-- The segments and the state are those of a safe queue. -/
theorem Keeps.safe (h : Keeps n q A e) (hq : q.Safe n) : e.queue.Safe n := by
  refine ⟨?_, ?_, ?_, h.beyond⟩
  · rw [h.same.axisCount]
    exact hq.axisCount
  · rw [h.same.fault, h.same.size]
    exact hq.faulted
  · rw [h.same.size, h.state]
    exact hq.nonempty

/-- A tick that stops the outputs. -/
theorem Keeps.leaves_stopped (h : Keeps n q A e) (hA : Permits A) (hq : q.Safe n)
    (fault : MotionFault) : Leaves n A (stopOutputs (recording io fault) e) := by
  obtain ⟨hkeeps, hoff⟩ := stopOutputs_keeps hA h (h.safe hq).axisCount fault
  exact ⟨hkeeps.safe hq, fun _ => hoff, hkeeps.calls⟩

/-- The queue may be replaced by another that is safe. -/
theorem Keeps.of_safe (h : Keeps n q A e) {queue : MotionQueue} (hqueue : queue.Safe n) :
    Keeps n queue A (e.withQueue queue) :=
  ⟨.refl _, rfl, hqueue.beyond, h.calls⟩

/-- The end of a tick leaves a safe queue, outputs that are off if it is empty, and calls that are
allowed. -/
theorem finishTickWith_spec (hA : Permits A) (h : Keeps n q A e) (hq : q.Safe n)
    (hsize : 0 < q.size) (hfault : q.fault = .none) (hsegment : q.segments q.head = segment)
    (allEmitted : Bool) :
    Leaves n A (finishTickWith config (recording io) segment e allEmitted nowNs).2 := by
  have hsafe := h.safe hq
  have hsize' : 0 < e.queue.size := by rwa [h.same.size]
  unfold finishTickWith
  dsimp only
  split
  · -- The segment is completed.
    obtain ⟨hdone, hnext, hempty⟩ :=
      hsafe.completeFront config hsize' (h.same.fault.trans hfault)
    rw [h.same.segments, h.same.head, hsegment] at hempty
    split
    · next hfailed =>
      rw [hfailed] at hdone
      exact absurd hdone Bool.false_ne_true
    · next queue hcompleted =>
      rw [hcompleted] at hnext hempty
      split
      · exact (h.of_safe hnext).leaves_stopped hA hnext _
      · next hgoing =>
        refine ⟨hnext, fun hzero => absurd (hempty hzero) hgoing, h.calls⟩
  · split
    · -- The segment is overdue.
      have habort := hsafe.abort .underrun
      refine Keeps.leaves_stopped (q := e.queue.abort .underrun) ?_ hA habort _
      exact ⟨⟨rfl, rfl, rfl, rfl, rfl, rfl⟩, rfl, habort.beyond, h.calls⟩
    · exact ⟨hsafe, fun hzero => absurd hzero hsize'.ne', h.calls⟩

/-- The part of a tick behind the check of the fault, if the calls that begin a pulse meet `A`:
while a segment is running unless a limit is reported, and at the first tick of a segment if a step
is due. -/
theorem runTickWith_spec (hA : Permits A) (hq : e.queue.Safe n) (hfault : e.queue.fault = .none)
    (hcalls : ∀ call ∈ e.world.calls, A call)
    (hrunning : e.queue.state = .running →
      limitReported io e.world.world (List.range n) = false → ∀ axis, A (.none, .setStep axis true))
    (hstarting : e.queue.state = .armed → ∀ segment ∈ e.queue.front, segment.startTimeNs ≤ nowNs →
      ∀ axis < n, StepDue segment nowNs axis → A (.none, .setStep axis true)) :
    (runTickWith config (recording io) e nowNs).Ends (fun r => Leaves n A r.2)
      fun exit => exit.1.fault ≠ .none ∧ ∃ q, q.Safe n ∧ Keeps n q A exit.2 := by
  have hkeeps : Keeps n e.queue A e := ⟨.refl _, rfl, hq.beyond, hcalls⟩
  have hexit : ∀ {q'}, q'.Safe n → ∀ exit : Stop × Executor (Recorded W), Exits n q' A exit →
      exit.1.fault ≠ .none ∧ ∃ q, q.Safe n ∧ Keeps n q A exit.2 :=
    fun hq' exit h => ⟨h.1, _, hq', h.2⟩
  unfold runTickWith
  -- The checks of the limits keep the state, and find a limit if one is reported.
  rw [hq.axisCount]
  refine ((checkLimits_keeps hA (List.range n) hkeeps).mono (fun _ => id) (hexit hq)).bind ?_
  rintro checked ⟨hqueue, hchecked, hlimits⟩
  rw [hqueue]
  split
  · exact hchecked.leaves_stopped hA hq _
  -- With a segment in front, the queue is not empty.
  · next segment hfront =>
    have hsize : 0 < e.queue.size := by
      unfold MotionQueue.front at hfront
      split at hfront
      · cases hfront
      · next hzero => exact Nat.pos_of_ne_zero hzero
    have hsegment : e.queue.segments e.queue.head = segment := by
      unfold MotionQueue.front at hfront
      rw [if_neg hsize.ne'] at hfront
      exact Option.some.inj hfront
    split
    · exact ⟨hchecked.safe hq, fun hzero => absurd hzero (hqueue ▸ hsize.ne'), hchecked.calls⟩
    · next hwait =>
      -- The segment is running behind its start, or it has been.
      have hopened : (openSegment (recording io e.queue.fault) segment checked).Ends
          (fun opened => ∃ q', q'.Safe n ∧ q'.SameSegments e.queue ∧ Keeps n q' A opened ∧
            ∀ axis < n, ∀ phase, phase = opened.queue.activePhase axis ∨
                phase = opened.queue.activePhase axis + absoluteSteps (segment.steps axis) *
                  deltaNs segment opened.queue.activeLastTickNs nowNs →
              absoluteSteps (segment.steps axis) ≠ 0 → segment.durationNs ≤ phase →
                A (.none, .setStep axis true))
          fun exit => exit.1.fault ≠ .none ∧ ∃ q, q.Safe n ∧ Keeps n q A exit.2 := by
        rw [hfault]
        unfold openSegment
        rw [hqueue]
        -- The segment starts with this tick, or is running already.
        split
        · next harmed =>
          have hstarted : segment.startTimeNs ≤ nowNs :=
            UInt64.not_lt.1 fun hlt => hwait ⟨harmed, hlt⟩
          refine (startSegment_keeps hA hchecked ((hchecked.safe hq).axisCount) segment).mono ?_
            (hexit hq)
          rintro opened ⟨hzero, hlast, hkeeps'⟩
          refine ⟨{ e.queue with state := .running },
            ⟨hq.axisCount, hq.faulted, fun _ => .inr rfl, hq.beyond⟩,
            ⟨rfl, rfl, rfl, rfl, rfl, rfl⟩, hkeeps', fun axis haxis phase hphase hsteps hdue => ?_⟩
          rw [(hzero axis).1, hlast] at hphase
          exact hstarting harmed segment hfront hstarted axis haxis
            (stepDue_of_phase hphase hsteps hdue)
        · next harmed =>
          have hstate := (hq.nonempty hsize).resolve_left harmed
          exact ⟨_, hq, .refl _, hchecked, fun axis _ _ _ _ _ =>
            hrunning hstate (hlimits hstate) axis⟩
      -- The loop over the axes keeps the state, and so does the end of the tick.
      refine hopened.bind ?_
      rintro opened ⟨q', hq', hsame, hkeeps', hraise⟩
      have hfault' : opened.queue.fault = .none :=
        (hkeeps'.same.fault.trans hsame.fault.symm).trans hfault
      rw [hfault']
      refine ((emitSteps_keeps hA hkeeps' (hkeeps'.safe hq').axisCount hraise).mono (fun _ => id)
        (hexit hq')).bind ?_
      rintro ⟨emitted, allEmitted⟩ hemitted
      refine finishTickWith_spec hA hemitted hq' ?_ ?_ ?_ allEmitted
      · rwa [← hsame.size]
      · exact hsame.fault.symm.trans hfault
      · rw [← hsame.segments, ← hsame.head, hsegment]

/-- A tick, if the calls that begin a pulse meet `A`: while a segment is running unless a limit is
reported, and at the first tick of a segment if a step is due. -/
theorem tickWith_spec (hA : Permits A) (hq : e.queue.Safe n)
    (hcalls : ∀ call ∈ e.world.calls, A call)
    (hrunning : e.queue.state = .running →
      limitReported io e.world.world (List.range n) = false → ∀ axis, A (.none, .setStep axis true))
    (hstarting : e.queue.state = .armed → ∀ segment ∈ e.queue.front, segment.startTimeNs ≤ nowNs →
      ∀ axis < n, StepDue segment nowNs axis → A (.none, .setStep axis true)) :
    Leaves n A (tickWith config (recording io) e nowNs).2 := by
  unfold tickWith
  split
  · have hkeeps : Keeps n e.queue A e := ⟨.refl _, rfl, hq.beyond, hcalls⟩
    exact hkeeps.leaves_stopped hA hq _
  · next hfault =>
    have hrun : (runTickWith config (recording io) e nowNs).Ends _ _ :=
      runTickWith_spec hA hq (not_not.1 hfault) hcalls hrunning hstarting
    cases htick : runTickWith config (recording io) e nowNs with
    | ok result =>
      rw [htick] at hrun
      exact hrun
    | error exit =>
      rw [htick] at hrun
      obtain ⟨-, q', hq', hkeeps⟩ := hrun
      have habort := (hkeeps.safe hq').abort exit.1.fault
      exact (hkeeps.of_safe habort).leaves_stopped hA habort _

end Executor

end RemoteBSP.Firmware
