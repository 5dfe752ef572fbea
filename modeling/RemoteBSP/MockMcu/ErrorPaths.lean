import RemoteBSP.MockMcu.ExecutorRuns

/-!
# Calls of the motion executor that throw

`enqueue`, `advance_to`, `abort` and `clear_fault` check everything before they change anything, but
for the counter of the refused segments. `trigger_limit` does not: it counts a stop for the limit
switch, and then `abort` may refuse to stop (`RefusedLimit`). This is the only error that leaves
more behind than a refused segment (`call_atomic_iff`).

The edges of a segment look their axis up again while it is executed. They find it in every
executor that can be reached (`reachable_lookups`), so that no call fails in the middle.
-/

namespace RemoteBSP.MockMcu.MotionExecutor

variable {executor : MotionExecutor}

/-- A call that throws leaves the executor as it was, or counts a refused segment. -/
def Atomic (executor : MotionExecutor) (call : ExecutorCall) : Prop :=
  ∀ e, (executor.call call).2 = .error e →
    (executor.call call).1 = executor ∨ (executor.call call).1 = executor.reject

/-- A limit switch of one of the axes, when `abort` does not stop: a fault is latched, or the time
goes backwards. -/
def RefusedLimit (executor : MotionExecutor) : ExecutorCall → Prop
  | .triggerLimit axisResourceId nowNs =>
    (requireAxis executor.axes axisResourceId).isSome ∧
      (executor.fault ≠ .none ∨ nowNs < executor.nowNs)
  | .enqueue _ _ | .advanceTo _ | .abort _ _ | .clearFault => False

/-- The executor that has counted a stop for a limit switch. -/
def countLimit (executor : MotionExecutor) : MotionExecutor :=
  { executor with metrics :=
    { executor.metrics with limitStops := executor.metrics.limitStops + 1 } }

/-- The counter has changed, and it is not the one of the refused segments. -/
theorem countLimit_ne (executor : MotionExecutor) :
    executor.countLimit ≠ executor ∧ executor.countLimit ≠ executor.reject := by
  have hne : executor.metrics.limitStops + 1 ≠ executor.metrics.limitStops := by
    intro h
    have hone : (1 : UInt64) = 0 := by
      rw [← UInt64.add_right_inj executor.metrics.limitStops, h, UInt64.add_zero]
    exact absurd hone (by decide)
  exact ⟨fun h => hne (congrArg (fun e => e.metrics.limitStops) h),
    fun h => hne (congrArg (fun e => e.metrics.limitStops) h)⟩

/-- `abort` for a limit switch refuses a latched fault and a time that goes backwards. -/
theorem abort_limit_isOk_iff (executor : MotionExecutor) (nowNs : UInt64) :
    (∃ result, executor.abort nowNs .limitTriggered = .ok result) ↔
      ¬ (executor.fault ≠ .none ∨ nowNs < executor.nowNs) := by
  unfold MotionExecutor.abort
  rw [if_neg (by decide), advanceTo_eq]
  by_cases hfault : executor.fault ≠ .none
  · rw [if_pos hfault]
    exact ⟨nofun, fun h => absurd (.inl hfault) h⟩
  · rw [if_neg hfault]
    by_cases hnow : nowNs < executor.nowNs
    · rw [if_pos hnow]
      exact ⟨nofun, fun h => absurd (.inr hnow) h⟩
    · rw [if_neg hnow]
      exact ⟨fun _ h => h.elim hfault hnow, fun _ => ⟨_, rfl⟩⟩

/-- `trigger_limit` for one of the axes. -/
theorem triggerLimit_of_isSome {axisResourceId : UInt32} {nowNs : UInt64}
    (haxis : (requireAxis executor.axes axisResourceId).isSome) :
    executor.triggerLimit axisResourceId nowNs =
      match executor.countLimit.abort nowNs .limitTriggered with
      | .error e => (.error e, executor.countLimit)
      | .ok (edges, executor') => (.ok edges, executor') := by
  obtain ⟨axis, haxis⟩ := Option.isSome_iff_exists.1 haxis
  unfold triggerLimit
  rw [haxis]
  rfl

/-- A limit switch is handled in one piece unless `abort` refuses it. -/
theorem triggerLimit_atomic_iff (executor : MotionExecutor) (axisResourceId : UInt32)
    (nowNs : UInt64) : Atomic executor (.triggerLimit axisResourceId nowNs) ↔
      ¬ RefusedLimit executor (.triggerLimit axisResourceId nowNs) := by
  unfold Atomic RefusedLimit call
  dsimp only
  cases haxis : requireAxis executor.axes axisResourceId with
  | none =>
    have hthrown : executor.triggerLimit axisResourceId nowNs =
        (.error ⟨.invalidAxis, "运动段引用了不存在的轴"⟩, executor.reject) := by
      unfold triggerLimit
      rw [haxis]
    rw [hthrown]
    exact ⟨fun _ h => Bool.noConfusion h.1, fun _ _ _ => .inr rfl⟩
  | some axis =>
    have hok := abort_limit_isOk_iff executor.countLimit nowNs
    have hisSome : (requireAxis executor.axes axisResourceId).isSome := by rw [haxis]; rfl
    rw [triggerLimit_of_isSome hisSome]
    cases habort : executor.countLimit.abort nowNs .limitTriggered with
    | ok result =>
      have hstops := hok.1 ⟨result, habort⟩
      exact ⟨fun _ h => hstops h.2, nofun⟩
    | error e =>
      have hrefused : executor.fault ≠ .none ∨ nowNs < executor.nowNs := by
        by_contra hnot
        obtain ⟨result, hresult⟩ := hok.2 hnot
        rw [habort] at hresult
        cases hresult
      refine ⟨fun h => ?_, fun h => absurd ⟨rfl, hrefused⟩ h⟩
      exact ((h e rfl).elim (countLimit_ne executor).1 (countLimit_ne executor).2).elim

/-- The axis of every move in the queue is one of the executor's. -/
theorem reachable_lookups (hreach : Reachable executor) :
    ∀ runtime ∈ executor.queue, ∀ move ∈ runtime.moves,
      (requireAxis executor.axes move.move.resourceId).isSome := by
  obtain ⟨segments, base, hvalid⟩ := reachable_valid hreach
  intro runtime hruntime move hmove
  rw [hvalid.queue] at hruntime
  obtain ⟨segment, hsegment, rfl⟩ := List.mem_map.1 hruntime
  obtain ⟨move', hmove', rfl⟩ := List.mem_map.1 hmove
  obtain ⟨config, hconfig, -⟩ := (hvalid.fits segment hsegment).moves move' hmove'
  have hid : (playedAxis (configsOf executor.axes) segment executor.nowNs.toNat
      move').move.resourceId = move'.resourceId := by
    unfold playedAxis
    rw [hconfig]
    rfl
  rw [hid]
  rw [findConfig_configsOf, Option.map_eq_some_iff] at hconfig
  obtain ⟨axis, haxis, -⟩ := hconfig
  rw [haxis]
  rfl

/-- In every executor that can be reached the lookups of the edges find their axis, and a call that
throws leaves the executor as it was, but for a refused segment that it counts, exactly if it is not
a limit switch that `abort` refuses. -/
theorem call_atomic_iff (hreach : Reachable executor) :
    (∀ runtime ∈ executor.queue, ∀ move ∈ runtime.moves,
      (requireAxis executor.axes move.move.resourceId).isSome) ∧
    ∀ call, Atomic executor call ↔ ¬ RefusedLimit executor call := by
  refine ⟨reachable_lookups hreach, fun call => ?_⟩
  cases call with
  -- A refused segment is counted, and changes nothing else.
  | enqueue segment nowNs =>
    refine ⟨fun _ => id, fun _ e herror => ?_⟩
    unfold call enqueue at herror ⊢
    dsimp only at herror ⊢
    split at herror
    · exact .inr rfl
    · cases herror
  -- The other calls return before they change anything when they throw, except a limit switch.
  | advanceTo nowNs =>
    refine ⟨fun _ => id, fun _ e herror => ?_⟩
    unfold MotionExecutor.call at herror ⊢
    dsimp only at herror ⊢
    cases hadvance : executor.advanceTo nowNs with
    | ok result => rw [hadvance] at herror; cases herror
    | error e => exact .inl rfl
  | abort nowNs fault =>
    refine ⟨fun _ => id, fun _ e herror => ?_⟩
    unfold MotionExecutor.call at herror ⊢
    dsimp only at herror ⊢
    cases habort : executor.abort nowNs fault with
    | ok result => rw [habort] at herror; cases herror
    | error e => exact .inl rfl
  | triggerLimit axisResourceId nowNs =>
    exact triggerLimit_atomic_iff executor axisResourceId nowNs
  | clearFault =>
    refine ⟨fun _ => id, fun _ e herror => ?_⟩
    unfold MotionExecutor.call at herror ⊢
    dsimp only at herror ⊢
    cases hclear : executor.clearFault with
    | ok result => rw [hclear] at herror; cases herror
    | error e => exact .inl rfl

/-- An executor of one axis that has been stopped by a request. -/
def aborted : MotionExecutor :=
  machine.run
    { sort := stableSort
      axes := [{ config := ⟨1, 500000, 1000, 1000, 2000⟩ }]
      queueCapacity := 4
      minimumLeadTimeNs := 1 }
    [.abort 0 .aborted]

/-- The executor has been made and called. -/
theorem reachable_aborted : Reachable aborted :=
  ⟨stableSort, [⟨1, 500000, 1000, 1000, 2000⟩], 4, 1, _, [.abort 0 .aborted], rfl, by decide, rfl⟩

/-- A call on the stopped executor. -/
theorem call_atomic_iff_aborted :
    Atomic aborted (.enqueue ⟨1, 0, 8000, true, [⟨1, 2⟩]⟩ 0) :=
  ((call_atomic_iff reachable_aborted).2 _).2 id

/-- A limit switch behind the stop is counted though nothing stops. -/
theorem refused_limit_counted :
    ¬ ∀ executor, Reachable executor → ∀ call : ExecutorCall, call.Typed →
      Atomic executor call := by
  intro h
  rcases h aborted reachable_aborted (.triggerLimit 1 0) trivial
      ⟨.faultLatched, "运动故障已经锁存"⟩ (by decide +kernel) with hsame | hsame
  · exact absurd (congrArg (fun e => e.metrics.limitStops) hsame) (by decide +kernel)
  · exact absurd (congrArg (fun e => e.metrics.limitStops) hsame) (by decide +kernel)

end RemoteBSP.MockMcu.MotionExecutor
