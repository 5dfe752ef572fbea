import RemoteBSP.Firmware.MotionCalls

/-!
# The safe state of the motion, and the limit switches

Over runs of the motion queue, with the calls that its ticks make. A queue with a fault is empty, so
it accepts nothing and a tick only stops its outputs; and a tick that leaves the queue empty has
stopped them (`motion_safe_state`).

`rbsp_motion_tick` reads the limit switches before it starts a segment, and takes notice of them
only while a segment is running. A segment that it then starts can have a step due at once, and this
step is emitted (`limit_ignored_at_start`). Where no step is due at the start of a segment, an
active limit stops all step pulses (`limit_stops_steps`).
-/

namespace RemoteBSP.Firmware

variable {W : Type} {config : MotionConfig} {io : MotionIo W} {n : ℕ}

namespace MotionQueue

variable {q : MotionQueue}

/-- The queue behind `rbsp_motion_init`. -/
theorem safe_init {axisCount : UInt8} (h : init config axisCount = some q) :
    q.Safe axisCount.toNat := by
  unfold init at h
  split at h
  · cases h
  · obtain rfl := Option.some.inj h
    exact ⟨rfl, fun _ => rfl, fun hpos => absurd hpos (Nat.lt_irrefl 0), fun _ _ => ⟨rfl, rfl⟩⟩

/-- The queue behind `rbsp_motion_enqueue`. -/
theorem Safe.enqueue (h : q.Safe n) (requested : MotionSegment) (nowNs : UInt64) :
    (q.enqueue config requested nowNs).2.2.Safe n := by
  unfold MotionQueue.enqueue
  cases hvalidate : q.validate config requested nowNs with
  | error rejection =>
    dsimp only
    split
    · exact ⟨h.axisCount, h.faulted, h.nonempty, h.beyond⟩
    · exact h
  | ok startTimeNs =>
    obtain ⟨hfault, -⟩ := validate_ok hvalidate
    exact ⟨h.axisCount, fun hne => absurd hfault hne, fun _ => .inl rfl, h.beyond⟩

/-- The queue behind `rbsp_motion_clear_fault`. -/
theorem Safe.clearFault (h : q.Safe n) (nowNs : UInt64) : (q.clearFault nowNs).2.Safe n := by
  unfold MotionQueue.clearFault
  split
  · exact h
  · next hsize =>
    refine ⟨h.axisCount, fun hne => absurd rfl hne, fun hpos => ?_, h.beyond⟩
    exact absurd (not_not.1 hsize) hpos.ne'

/-- The queue behind `rbsp_motion_complete_front`. -/
theorem Safe.completed (h : q.Safe n) : (q.completeFront config).2.Safe n := by
  by_cases hidle : q.size = 0 ∨ q.fault ≠ .none
  · unfold MotionQueue.completeFront
    rw [if_pos hidle]
    exact h
  · rw [not_or, not_not] at hidle
    exact (h.completeFront config (Nat.pos_of_ne_zero hidle.1) hidle.2).2.1

/-- With a fault no segment passes the checks. -/
theorem validate_faulted (h : q.fault ≠ .none) (requested : MotionSegment) (nowNs : UInt64) :
    ∃ rejection, q.validate config requested nowNs = .error rejection ∧ rejection.1 ≠ .ok := by
  unfold validate
  simp only [throw, throwThe, MonadExceptOf.throw, bind, Except.bind]
  split
  · exact ⟨_, rfl, nofun⟩
  · split
    · exact ⟨_, rfl, nofun⟩
    · exact ⟨_, rfl, nofun⟩

/-- With a fault nothing is accepted, and the fault and the outputs stay. -/
theorem enqueue_faulted (h : q.fault ≠ .none) (requested : MotionSegment) (nowNs : UInt64) :
    (q.enqueue config requested nowNs).1 ≠ .ok ∧
      (q.enqueue config requested nowNs).2.2.fault = q.fault ∧
      (q.enqueue config requested nowNs).2.2.stepHigh = q.stepHigh ∧
      (q.enqueue config requested nowNs).2.2.enabled = q.enabled := by
  obtain ⟨⟨result, counted⟩, hvalidate, hresult⟩ :
      ∃ rejection, q.validate config requested nowNs = .error rejection ∧ rejection.1 ≠ .ok :=
    validate_faulted h requested nowNs
  unfold MotionQueue.enqueue
  rw [hvalidate]
  dsimp only
  refine ⟨hresult, ?_⟩
  split <;> exact ⟨rfl, rfl, rfl⟩

end MotionQueue

/-! ## Runs -/

/-- The calls of a tick, each with the fault of the queue at the time. -/
def tickCalls (config : MotionConfig) (io : MotionIo W) (executor : Executor W) (nowNs : UInt64) :
    List (MotionFault × MotionCall) :=
  (Executor.tickWith config (recording io) ⟨executor.queue, executor.world, []⟩
    nowNs).2.world.calls

/-- The motion queue and its outputs, as a machine. The outcome is the calls that are made. -/
def motionOutputs (config : MotionConfig) (io : MotionIo W) :
    Machine (Executor W) (MotionOp W) (List (MotionFault × MotionCall)) where
  step executor op :=
    match op with
    | .enqueue requested nowNs =>
      (executor.withQueue (executor.queue.enqueue config requested nowNs).2.2, [])
    | .tick nowNs => ((executor.tick config io nowNs).2, tickCalls config io executor nowNs)
    | .abort fault => (executor.withQueue (executor.queue.abort fault), [])
    | .clearFault nowNs => (executor.withQueue (executor.queue.clearFault nowNs).2, [])
    | .completeFront => (executor.withQueue (executor.queue.completeFront config).2, [])
    | .environment world => ({ executor with world := world }, [])

namespace Executor

variable {executor : Executor W} {A : MotionFault × MotionCall → Prop} {nowNs : UInt64}

/-- A tick, if the calls that begin a pulse meet `A`. -/
theorem tick_leaves (hA : Permits A) (hq : executor.queue.Safe n)
    (hrunning : executor.queue.state = .running →
      limitReported io executor.world (List.range n) = false →
        ∀ axis, A (.none, .setStep axis true))
    (hstarting : executor.queue.state = .armed → ∀ segment ∈ executor.queue.front,
      segment.startTimeNs ≤ nowNs → ∀ axis < n, StepDue segment nowNs axis →
        A (.none, .setStep axis true)) :
    (executor.tick config io nowNs).2.queue.Safe n ∧
      ((executor.tick config io nowNs).2.queue.size = 0 →
        (executor.tick config io nowNs).2.queue.AllOff) ∧
      ∀ call ∈ tickCalls config io executor nowNs, A call := by
  have hspec : Leaves n A (tickWith config (recording io) ⟨executor.queue, executor.world, []⟩
      nowNs).2 := tickWith_spec hA hq nofun hrunning hstarting
  have hforget := congrArg (fun result => result.2.queue)
    (tickWith_forget io ⟨executor.queue, executor.world, []⟩ config nowNs)
  change _ = (executor.tick config io nowNs).2.queue at hforget
  rw [← hforget]
  exact ⟨hspec.safe, hspec.off, hspec.calls⟩

end Executor

/-- One call keeps the queue safe. -/
theorem motionOutputs_safe {executor : Executor W} (h : executor.queue.Safe n)
    (op : MotionOp W) : ((motionOutputs config io).step executor op).1.queue.Safe n := by
  cases op with
  | enqueue requested nowNs => exact h.enqueue requested nowNs
  | tick nowNs =>
    have hA : Executor.Permits fun _ => True := ⟨fun _ _ _ => trivial, fun _ => trivial⟩
    exact (Executor.tick_leaves hA h (fun _ _ _ => trivial) fun _ _ _ _ _ _ _ => trivial).1
  | abort fault => exact h.abort fault
  | clearFault nowNs => exact h.clearFault nowNs
  | completeFront => exact h.completed
  | environment world => exact h

/-- The calls that are allowed: with a fault nothing is driven. -/
def Undriven (call : MotionFault × MotionCall) : Prop := call.1 ≠ .none → call.2.drives = false

/-- With a fault a tick drives nothing, and it turns the outputs off if it leaves the queue
empty. -/
theorem tick_undriven {executor : Executor W} (h : executor.queue.Safe n) (nowNs : UInt64) :
    ((executor.tick config io nowNs).2.queue.size = 0 →
        (executor.tick config io nowNs).2.queue.AllOff) ∧
      ∀ call ∈ tickCalls config io executor nowNs, Undriven call := by
  have hA : Executor.Permits Undriven :=
    ⟨fun _ _ hpassive _ => hpassive, fun _ hne => absurd rfl hne⟩
  exact (Executor.tick_leaves hA h (fun _ _ _ hne => absurd rfl hne)
    fun _ _ _ _ _ _ _ hne => absurd rfl hne).2

/-- A call that does not clear the fault keeps it, and it keeps the outputs off. A tick turns them
off. -/
theorem motionOutputs_faulted {executor : Executor W} (h : executor.queue.Safe n)
    (hfault : executor.queue.fault ≠ .none) {op : MotionOp W}
    (hop : ∀ nowNs, op ≠ .clearFault nowNs) :
    let executor' := ((motionOutputs config io).step executor op).1
    executor'.queue.fault ≠ .none ∧
      ((executor.queue.AllOff ∨ ∃ nowNs, op = .tick nowNs) → executor'.queue.AllOff) := by
  cases op with
  -- No segment is accepted under a fault, and the outputs stay as they are.
  | enqueue requested nowNs =>
    obtain ⟨-, hsame, hstep, henabled⟩ :
        (executor.queue.enqueue config requested nowNs).1 ≠ .ok ∧ _ :=
      MotionQueue.enqueue_faulted hfault requested nowNs
    refine ⟨fun hnone => hfault (hsame.symm.trans hnone), fun hoff a => ?_⟩
    obtain hoff | ⟨_, htick⟩ := hoff
    · change (executor.queue.enqueue config requested nowNs).2.2.stepHigh a = false ∧
        (executor.queue.enqueue config requested nowNs).2.2.enabled a = false
      rw [hstep, henabled]
      exact hoff a
    · cases htick
  -- A tick under a fault does nothing but stop the outputs.
  | tick nowNs =>
    have hstopped : (executor.tick config io nowNs).2 = Executor.stopOutputs io executor := by
      unfold Executor.tick
      rw [if_pos hfault]
    have hagrees : executor.queue.Agrees (Executor.stopOutputs io executor).queue :=
      Executor.stopOutputs_agrees executor
    refine ⟨?_, fun _ => (tick_undriven h nowNs).1 ?_⟩
    · change (executor.tick config io nowNs).2.queue.fault ≠ .none
      rw [hstopped, hagrees.fault]
      exact hfault
    · rw [hstopped, hagrees.size]
      exact h.faulted hfault
  -- An abort changes at most the fault, to another one.
  | abort fault =>
    unfold motionOutputs MotionQueue.abort
    dsimp only [Executor.withQueue]
    by_cases hnone : fault = .none
    · rw [if_pos hnone]
      refine ⟨hfault, fun hoff => hoff.resolve_right ?_⟩
      rintro ⟨_, htick⟩
      cases htick
    · rw [if_neg hnone]
      refine ⟨hnone, fun hoff => hoff.resolve_right ?_⟩
      rintro ⟨_, htick⟩
      cases htick
  | clearFault nowNs => exact absurd rfl (hop nowNs)
  | completeFront =>
    have hsame : executor.queue.completeFront config = (false, executor.queue) := by
      unfold MotionQueue.completeFront
      rw [if_pos (.inr hfault)]
    unfold motionOutputs
    dsimp only [Executor.withQueue]
    rw [hsame]
    refine ⟨hfault, fun hoff => hoff.resolve_right ?_⟩
    rintro ⟨_, htick⟩
    cases htick
  | environment world =>
    refine ⟨hfault, fun hoff => hoff.resolve_right ?_⟩
    rintro ⟨_, htick⟩
    cases htick

/-- A run from a fault on that does not clear it keeps the fault, and its first tick turns the
outputs off. -/
theorem run_faulted {executor : Executor W} (h : executor.queue.Safe n)
    (hfault : executor.queue.fault ≠ .none) {ops : List (MotionOp W)}
    (hops : ∀ nowNs, .clearFault nowNs ∉ ops) :
    let executor' := (motionOutputs config io).run executor ops
    executor'.queue.fault ≠ .none ∧
      ((executor.queue.AllOff ∨ ∃ nowNs, .tick nowNs ∈ ops) → executor'.queue.AllOff) := by
  induction ops generalizing executor with
  | nil =>
    refine ⟨hfault, fun hoff => hoff.resolve_right ?_⟩
    rintro ⟨nowNs, hmem⟩
    exact List.not_mem_nil hmem
  | cons op ops ih =>
    have hop : ∀ nowNs, op ≠ .clearFault nowNs :=
      fun nowNs heq => hops nowNs (heq ▸ List.mem_cons_self)
    obtain ⟨hfault', hoff'⟩ :
        ((motionOutputs config io).step executor op).1.queue.fault ≠ .none ∧ _ :=
      motionOutputs_faulted h hfault hop
    obtain ⟨hrun, hrest⟩ := ih (motionOutputs_safe h op) hfault'
      fun nowNs hmem => hops nowNs (List.mem_cons_of_mem _ hmem)
    refine ⟨hrun, fun hoff => hrest ?_⟩
    rcases hoff with hoff | ⟨nowNs, hmem⟩
    · exact .inl (hoff' (.inl hoff))
    · rcases List.mem_cons.1 hmem with heq | hmem
      · exact .inl (hoff' (.inr ⟨nowNs, heq.symm⟩))
      · exact .inr ⟨nowNs, hmem⟩

/-- The safe state of the motion, in every run from `rbsp_motion_init`. While there is a fault, no
call drives an axis. From a fault on until it is cleared, the queue is empty and accepts nothing,
and behind the first tick all outputs are off. They are also off behind every tick that leaves the
queue empty. -/
theorem motion_safe_state (config : MotionConfig) (io : MotionIo W) (axisCount : UInt8)
    (queue : MotionQueue) (hinit : MotionQueue.init config axisCount = some queue) (world : W) :
    (∀ ops, ∀ calls ∈ (motionOutputs config io).outcomes ⟨queue, world⟩ ops,
      ∀ call ∈ calls, Undriven call) ∧
    (∀ ops faulted, ((motionOutputs config io).run ⟨queue, world⟩ ops).queue.fault ≠ .none →
      (∀ nowNs, .clearFault nowNs ∉ faulted) →
        let q := ((motionOutputs config io).run ⟨queue, world⟩ (ops ++ faulted)).queue
        q.fault ≠ .none ∧ q.size = 0 ∧
          (∀ requested nowNs, (q.enqueue config requested nowNs).1 ≠ .ok) ∧
          ((∃ nowNs, .tick nowNs ∈ faulted) → q.AllOff)) ∧
    ∀ ops nowNs,
      let q := ((motionOutputs config io).run ⟨queue, world⟩ (ops ++ [.tick nowNs])).queue
      q.size = 0 → q.AllOff := by
  have hstart := MotionQueue.safe_init hinit
  -- The invariant of the queue holds in every run.
  have hsafe : ∀ ops, ((motionOutputs config io).run ⟨queue, world⟩ ops).queue.Safe
      axisCount.toNat := fun ops =>
    (motionOutputs config io).run_induction
      (P := fun executor => executor.queue.Safe axisCount.toNat)
      (fun _ op h => motionOutputs_safe h op) hstart ops
  refine ⟨fun ops => ?_, fun ops faulted hfault hops => ?_, fun ops nowNs => ?_⟩
  -- Only a tick makes calls, and under a fault it drives nothing.
  · refine (motionOutputs config io).outcomes_induction_of (C := fun _ _ => True)
      (P := fun executor => executor.queue.Safe axisCount.toNat)
      (Q := fun calls => ∀ call ∈ calls, Undriven call) (fun executor op h _ => ?_) hstart
      ((motionOutputs config io).along_of_forall (fun _ _ => trivial) _ _)
    refine ⟨motionOutputs_safe h op, ?_⟩
    cases op with
    | tick nowNs => exact (tick_undriven h nowNs).2
    | enqueue _ _ | abort _ | clearFault _ | completeFront | environment _ =>
      exact fun _ hmem => absurd hmem List.not_mem_nil
  -- The fault stays as long as it is not cleared, and with it the empty queue.
  · obtain ⟨hfault', hoff⟩ :
        ((motionOutputs config io).run ((motionOutputs config io).run ⟨queue, world⟩ ops)
          faulted).queue.fault ≠ .none ∧ _ := run_faulted (hsafe ops) hfault hops
    rw [← Machine.run_append] at hfault' hoff
    refine ⟨hfault', (hsafe _).faulted hfault', fun requested nowNs => ?_, fun htick => ?_⟩
    · exact (MotionQueue.enqueue_faulted hfault' requested nowNs).1
    · exact hoff (.inr htick)
  · rw [Machine.run_concat]
    exact (tick_undriven (hsafe ops) nowNs).1

/-- A segment is stopped by a limit while it is running. -/
def stoppedRun : List (MotionOp Unit) :=
  [.enqueue (twoSteps 1 1000000 true) 0, .tick 1050000, .abort .limit]

/-- The motion behind a limit, and one more tick. -/
theorem motion_safe_state_stopped :
    let q := ((motionOutputs testMotionConfig steadyIo).run oneAxis.executor
      (stoppedRun ++ [.tick 1060000])).queue
    q.fault ≠ .none ∧ q.size = 0 ∧
      (∀ requested nowNs, (q.enqueue testMotionConfig requested nowNs).1 ≠ .ok) ∧
      ((∃ nowNs, .tick nowNs ∈ [MotionOp.tick (W := Unit) 1060000]) → q.AllOff) :=
  (motion_safe_state testMotionConfig steadyIo 1 _ rfl ()).2.1 stoppedRun [.tick 1060000]
    (by decide +kernel) (by simp)

/-! ## The limit switches -/

/-- A tick starts the segment at the front, and a step of it is due. -/
def StartsWithStep (queue : MotionQueue) (nowNs : UInt64) : Prop :=
  queue.fault = .none ∧ queue.state = .armed ∧ ∃ segment ∈ queue.front,
    segment.startTimeNs ≤ nowNs ∧
      ∃ axis < queue.axisCount.toNat, Executor.StepDue segment nowNs axis

instance (queue : MotionQueue) (nowNs : UInt64) : Decidable (StartsWithStep queue nowNs) :=
  inferInstanceAs (Decidable (_ ∧ _))

/-- In every run from `rbsp_motion_init`, a tick at which a limit is active begins no step pulse,
unless it starts a segment of which a step is due. -/
theorem limit_stops_steps (config : MotionConfig) (io : MotionIo W) (axisCount : UInt8)
    (queue : MotionQueue) (hinit : MotionQueue.init config axisCount = some queue) (world : W)
    (ops : List (MotionOp W)) (nowNs : UInt64) :
    let executor := (motionOutputs config io).run ⟨queue, world⟩ ops
    Executor.limitReported io executor.world (List.range axisCount.toNat) = true →
      ¬StartsWithStep executor.queue nowNs →
        ∀ call ∈ tickCalls config io executor nowNs, ∀ axis, call.2 ≠ .setStep axis true := by
  intro executor hlimit hstart
  have hsafe : executor.queue.Safe axisCount.toNat :=
    (motionOutputs config io).run_induction
      (P := fun executor => executor.queue.Safe axisCount.toNat)
      (fun _ op h => motionOutputs_safe h op) (MotionQueue.safe_init hinit) ops
  have hA : Executor.Permits fun call => ∀ axis, call.2 ≠ .setStep axis true := by
    refine ⟨fun fault call hpassive axis heq => ?_, fun axis axis' => nofun⟩
    rw [show call = .setStep axis true from heq] at hpassive
    cases hpassive
  refine (Executor.tick_leaves hA hsafe (fun _ hpassed => ?_) ?_).2.2
  · -- While a segment is running, the limit stops it.
    rw [hlimit] at hpassed
    cases hpassed
  · intro harmed segment hfront hle axis haxis hdue
    refine absurd ⟨?_, harmed, segment, hfront, hle, axis, hsafe.axisCount ▸ haxis, hdue⟩ hstart
    -- There is no segment with a fault.
    by_contra hfault
    rw [MotionQueue.front, if_pos (hsafe.faulted hfault)] at hfront
    cases hfront

/-- Outputs that always succeed, with a limit switch that is always active. -/
def blockedIo : MotionIo Unit := { steadyIo with limitActive := some fun _ _ => ((true, true), ()) }

/-- The start of a motion is accepted at time 0. -/
def armedRun : List (MotionOp Unit) := [.enqueue (twoSteps 1 1000000 true) 0]

/-- A tick at the start of the motion reads the limit and begins no step pulse. -/
theorem limit_stops_steps_at_start :
    Executor.limitReported blockedIo () [0] = true ∧
      ∀ call ∈ tickCalls testMotionConfig blockedIo
          ((motionOutputs testMotionConfig blockedIo).run oneAxis.executor armedRun) 1000000,
        ∀ axis, call.2 ≠ .setStep axis true :=
  ⟨by decide +kernel,
    limit_stops_steps testMotionConfig blockedIo 1 _ rfl () armedRun 1000000 (by decide +kernel)
      (by decide +kernel)⟩

/-- A tick that is late begins a step pulse, although a limit is active. -/
theorem limit_ignored_at_start :
    ¬∀ call ∈ tickCalls testMotionConfig blockedIo
        ((motionOutputs testMotionConfig blockedIo).run oneAxis.executor armedRun) 1050000,
      Executor.limitReported blockedIo () [0] = true → ∀ axis, call.2 ≠ .setStep axis true := by
  intro h
  have hcall : (MotionFault.none, MotionCall.setStep 0 true) ∈ tickCalls testMotionConfig blockedIo
      ((motionOutputs testMotionConfig blockedIo).run oneAxis.executor armedRun) 1050000 := by
    decide +kernel
  exact h _ hcall rfl 0 rfl

end RemoteBSP.Firmware
