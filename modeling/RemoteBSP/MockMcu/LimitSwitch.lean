import RemoteBSP.MockMcu.Conservation
import RemoteBSP.MockMcu.ErrorPaths
import RemoteBSP.MockMcu.NodeMotion

/-!
# Limit switches between two polls

A limit switch at a time that is ahead of the clock first lets the executor go on to that time. So
it does not matter whether the executor has been polled in the meantime: it stops in the same state,
and the edges of the poll and of the stop are those of the stop alone (`triggerLimit_poll`). This is
so only if the poll has not stopped the executor already.

`Standing` is what is known of the executor of a node between two calls of `advance_to`: it is
valid, its axes are those it was made with, and its clock shows the time of the last call. No
request changes this (`requestsKeep_standing`).
-/

namespace RemoteBSP.MockMcu

namespace MotionExecutor

variable {executor executor' : MotionExecutor} {segments : List MotionSegment}
  {base : List AxisRuntime}

/-! ## A limit switch between two polls -/

/-- Edges are made whatever has been counted. -/
theorem applyEdges_countLimit (executor : MotionExecutor) (edges : List MotionEdge) :
    executor.countLimit.applyEdges edges = (executor.applyEdges edges).countLimit := by
  rw [applyEdges_eq_play, applyEdges_eq_play]
  rfl

/-- The loop does not look at the counter of the limit switches. -/
theorem unseen_countLimit : Unseen countLimit where
  queue _ := rfl
  setQueue _ _ := rfl
  collect executor _ _ := Prod.ext rfl (Prod.ext rfl
    (congrArg (countEdges · _) (applyEdges_countLimit executor.running _)))
  completeSegment _ _ _ := rfl
  countUnderrun _ := rfl
  stopSafely executor atNs fault := by
    have hsafe : executor.countLimit.enterSafeState atNs fault =
        ((executor.enterSafeState atNs fault).1,
          (executor.enterSafeState atNs fault).2.countLimit) := by
      unfold enterSafeState
      dsimp only
      refine Prod.ext rfl ?_
      dsimp only
      split <;> rfl
    unfold MotionExecutor.stopSafely
    rw [hsafe]
    dsimp only
    rw [applyEdges_countLimit]
    rfl

/-- A poll leaves the counter of the limit switches alone. -/
theorem poll_countLimit {nowNs : UInt64} (hnow : executor.nowNs ≤ nowNs) :
    executor.countLimit.poll nowNs =
      ((executor.poll nowNs).1, (executor.poll nowNs).2.countLimit) := by
  have hnow' : executor.countLimit.nowNs ≤ nowNs := hnow
  rw [poll_of_le hnow, poll_of_le hnow', unseen_countLimit.drain]
  rfl

/-- An executor stays valid when it counts. -/
theorem Valid.countLimit (h : Valid segments base executor) :
    Valid segments base executor.countLimit :=
  ⟨h.toScheduled.congr rfl rfl, h.available, h.lead, h.stopped⟩

/-- A stop for a limit switch is a poll, behind which the outputs are turned off. -/
theorem abort_limit_eq {nowNs : UInt64} (hfault : executor.fault = .none)
    (hnow : executor.nowNs ≤ nowNs) : executor.abort nowNs .limitTriggered =
      .ok (executor.sort.run ((executor.poll nowNs).1 ++
        ((executor.poll nowNs).2.stopSafely nowNs .limitTriggered).1),
        ((executor.poll nowNs).2.stopSafely nowNs .limitTriggered).2) := by
  unfold abort
  rw [if_neg (by decide), if_neg (not_not.2 hfault), advanceTo_eq, if_neg (UInt64.not_lt.2 hnow),
    poll_of_le hnow]

/-- The edges that turn off the outputs are all at one time. -/
theorem time_of_mem_stopSafely {atNs : UInt64} {fault : MotionFault} {edge : MotionEdge}
    (h : edge ∈ (executor.stopSafely atNs fault).1) : edge.time = atNs.toNat := by
  obtain ⟨axis, -, ⟨-, rfl⟩ | ⟨-, rfl⟩⟩ := mem_stopSafely.1 h
  · rfl
  · rfl

/-- The edges of a poll are in order. -/
theorem pairwise_poll {nowNs : UInt64} (hnow : executor.nowNs ≤ nowNs) :
    (executor.poll nowNs).1.Pairwise EdgeLe := by
  rw [poll_of_le hnow]
  exact executor.sort.sorted _

/-- An executor that is polled before a limit switch stops it at the same place, and the edges come
in two parts. They may come in another order, where `edge_less` does not tell them apart: a segment
that starts when the switch is triggered enables an axis that the stop disables. -/
theorem triggerLimit_poll (h : Valid segments base executor) {axisResourceId : UInt32}
    (haxis : (requireAxis executor.axes axisResourceId).isSome) {s t : UInt64}
    (hs : executor.nowNs ≤ s) (hst : s < t) (hfault : executor.fault = .none)
    (hpolled : (executor.poll s).2.fault = .none)
    (haxis' : (requireAxis (executor.poll s).2.axes axisResourceId).isSome) :
    ∃ edges edges', (executor.poll s).2.triggerLimit axisResourceId t =
        (.ok edges, (executor.triggerLimit axisResourceId t).2) ∧
      (executor.triggerLimit axisResourceId t).1 = .ok edges' ∧
      UpToTies MotionEdge.key ((executor.poll s).1 ++ edges) edges' := by
  have hcount := poll_countLimit hs
  have hvalid := h.countLimit
  have hst' : s ≤ t := UInt64.le_of_lt hst
  have hs' : executor.countLimit.nowNs ≤ s := hs
  have hclock : (executor.countLimit.poll s).2.nowNs = s := by
    rw [poll_of_le hs']
    rfl
  have hnow : (executor.countLimit.poll s).2.nowNs ≤ t := hclock.symm ▸ hst'
  have hpoll := poll_poll hvalid hst'
  have hleft : executor.countLimit.abort t .limitTriggered = _ :=
    abort_limit_eq hfault (UInt64.le_trans hs hst')
  have hright : (executor.countLimit.poll s).2.abort t .limitTriggered = _ :=
    abort_limit_eq (by rw [hcount]; exact hpolled) hnow
  obtain ⟨_, _, _, -, hfirst, hmid⟩ := hvalid.poll hs'
  obtain ⟨_, _, _, -, hsecond, -⟩ := hmid.poll hnow
  -- The edges of the poll come before all others.
  have hbefore : ∀ a ∈ (executor.countLimit.poll s).1,
      ∀ b ∈ ((executor.countLimit.poll s).2.poll t).1 ++
        (((executor.countLimit.poll s).2.poll t).2.stopSafely t .limitTriggered).1,
      a.time < b.time := by
    intro a ha b hb
    have hle := (hfirst.times a ha).2
    rcases List.mem_append.1 hb with hb | hb
    · have hlt := (hsecond.times b hb).1
      rw [hclock] at hlt
      exact lt_of_le_of_lt hle hlt
    · rw [time_of_mem_stopSafely hb]
      exact lt_of_le_of_lt hle (UInt64.lt_iff_toNat_lt.1 hst)
  -- So both ways the edges are the same ones in order.
  have hties : ∀ sort sort' : Sorter EdgeLe, UpToTies MotionEdge.key
      ((executor.countLimit.poll s).1 ++ sort.run (((executor.countLimit.poll s).2.poll t).1 ++
        (((executor.countLimit.poll s).2.poll t).2.stopSafely t .limitTriggered).1))
      (sort'.run ((executor.countLimit.poll s).1 ++ (((executor.countLimit.poll s).2.poll t).1 ++
        (((executor.countLimit.poll s).2.poll t).2.stopSafely t .limitTriggered).1))) := by
    intro sort sort'
    refine Sorter.upToTies_of_sorted (fun a b => edgeLe_iff.1) ?_ ?_ (sort'.sorted _)
    · exact ((sort.perm _).append_left _).trans (sort'.perm _).symm
    · exact List.pairwise_append.2 ⟨pairwise_poll hs', sort.sorted _, fun a ha b hb =>
        edgeLe_of_time_lt (hbefore a ha b (Sorter.mem_run.1 hb))⟩
  have hties' := hties (executor.countLimit.poll s).2.sort executor.countLimit.sort
  rw [hpoll] at hleft
  dsimp only at hleft
  rw [List.append_assoc] at hleft
  rw [hcount] at hright hleft hties'
  dsimp only at hright hleft hties'
  rw [triggerLimit_of_isSome haxis, triggerLimit_of_isSome haxis', hleft, hright]
  exact ⟨_, _, rfl, rfl, hties'⟩

/-! ## Between two advances -/

/-- A valid executor with these axes, at this time. -/
structure Standing (configs : List MotionAxisConfig) (nowNs : UInt64) (motion : MotionExecutor) :
    Prop where
  /-- The executor has been reached by valid calls. -/
  valid : ∃ segments base, Valid segments base motion
  /-- The executor has the axes of the board. -/
  configs_eq : configsOf motion.axes = configs
  /-- The executor stands at the given time. -/
  now_eq : motion.nowNs = nowNs

variable {configs : List MotionAxisConfig} {nowNs : UInt64} {motion motion' : MotionExecutor}

/-- A new executor is at time zero. -/
theorem standing_create {sort : Sorter EdgeLe} {axes : List MotionAxisConfig} {capacity : ℕ}
    {lead : UInt64} (h : create sort axes capacity lead = .ok motion) : Standing axes 0 motion := by
  refine ⟨⟨_, _, (create_valid h).1⟩, (create_valid h).2, ?_⟩
  unfold create at h
  split at h
  · cases h
  cases hruntimes : configureAxes [] axes with
  | error e =>
    rw [hruntimes] at h
    cases h
  | ok runtimes =>
    rw [hruntimes] at h
    exact (Except.ok.inj h) ▸ rfl

/-- An axis is found if it is one of those that the executor was made with. -/
theorem Standing.requireAxis_isSome (h : Standing configs nowNs motion) (id : UInt32) :
    (requireAxis motion.axes id).isSome = (findConfig configs id).isSome := by
  rw [← h.configs_eq, findConfig_configsOf, Option.isSome_map]

/-- The executor goes on to a later time. -/
theorem Standing.poll (h : Standing configs nowNs motion) (untilNs : UInt64)
    (hle : nowNs ≤ untilNs) : Standing configs untilNs (motion.poll untilNs).2 := by
  obtain ⟨segments, base, hvalid⟩ := h.valid
  obtain ⟨_, _, _, -, hdrained, hpolled⟩ := hvalid.poll (h.now_eq.symm ▸ hle)
  refine ⟨⟨_, _, hpolled⟩, ?_, ?_⟩
  · calc configsOf (motion.poll untilNs).2.axes
        = _ := hpolled.configsOf_eq
      _ = _ := hdrained.configs
      _ = configsOf motion.axes := hvalid.configsOf_eq.symm
      _ = configs := h.configs_eq
  · rw [poll_of_le (h.now_eq.symm ▸ hle)]
    rfl

/-- A stop neither changes the axes nor the time. -/
theorem Standing.stopSafely (h : Standing configs nowNs motion) (atNs : UInt64)
    (fault : MotionFault) : Standing configs nowNs (motion.stopSafely atNs fault).2 := by
  obtain ⟨segments, base, hvalid⟩ := h.valid
  refine ⟨⟨_, _, hvalid.stopSafely atNs fault⟩,
    (stopSafely_rest motion atNs fault).1.trans h.configs_eq, ?_⟩
  rw [← h.now_eq]
  unfold MotionExecutor.stopSafely countEdges
  dsimp only
  rw [applyEdges_eq_play]
  unfold enterSafeState
  dsimp only
  split <;> rfl

/-- Nothing of this has to do with what has been counted. -/
theorem Standing.countLimit (h : Standing configs nowNs motion) :
    Standing configs nowNs motion.countLimit := by
  obtain ⟨segments, base, hvalid⟩ := h.valid
  exact ⟨⟨_, _, hvalid.countLimit⟩, h.configs_eq, h.now_eq⟩

/-- A stop is a poll, behind which the outputs are turned off. -/
theorem Standing.abort (h : Standing configs nowNs motion) {untilNs : UInt64} {fault : MotionFault}
    {edges : List MotionEdge} (habort : motion.abort untilNs fault = .ok (edges, motion')) :
    Standing configs untilNs motion' := by
  unfold MotionExecutor.abort at habort
  split at habort
  · cases habort
  split at habort
  · cases habort
  split at habort
  · cases habort
  next hadvance =>
  rw [advanceTo_eq] at hadvance
  split at hadvance
  · cases hadvance
  next hnow =>
  have hle : nowNs ≤ untilNs := h.now_eq ▸ UInt64.not_lt.1 hnow
  have hpolled := h.poll untilNs hle
  rw [poll_of_le (h.now_eq.symm ▸ hle)] at hpolled
  obtain ⟨rfl, rfl⟩ := Prod.mk.inj (Except.ok.inj hadvance)
  obtain rfl := (Prod.mk.inj (Except.ok.inj habort)).2
  exact hpolled.stopSafely untilNs fault

/-- No request changes the axes or the time. -/
theorem requestsKeep_standing (configs : List MotionAxisConfig) (nowNs : UInt64) :
    RemoteCore.RequestsKeep (Standing configs nowNs) where
  -- A segment that comes in is queued or rejected.
  enqueue motion segment htyped h := by
    obtain ⟨segments, base, hvalid⟩ := h.valid
    have hcall : ExecutorCall.Typed (.enqueue segment motion.nowNs) := htyped
    refine ⟨hvalid.call hcall, ?_, ?_⟩
    · obtain hreject | ⟨runtime, -, hpush⟩ :
          (motion.enqueue segment motion.nowNs).2 = motion.reject ∨ _ := enqueue_cases _ _
      · rw [hreject]
        exact h.configs_eq
      · rw [hpush]
        exact h.configs_eq
    · obtain hreject | ⟨runtime, -, hpush⟩ :
          (motion.enqueue segment motion.nowNs).2 = motion.reject ∨ _ := enqueue_cases _ _
      · rw [hreject]
        exact h.now_eq
      · rw [hpush]
        exact h.now_eq
  abort motion edges motion' habort h := by
    have hstanding := h.abort habort
    rwa [h.now_eq] at hstanding
  -- A fault is cleared by one of the calls that keep the executor valid.
  clearFault motion motion' hclear h := by
    obtain ⟨segments, base, hvalid⟩ := h.valid
    obtain ⟨segments', base', hvalid'⟩ : ∃ segments base,
        Valid segments base (motion.call .clearFault).1 := hvalid.call trivial
    unfold MotionExecutor.call at hvalid'
    dsimp only at hvalid'
    rw [hclear] at hvalid'
    unfold MotionExecutor.clearFault at hclear
    split at hclear
    · cases hclear
    · obtain rfl := Except.ok.inj hclear
      exact ⟨⟨_, _, hvalid'⟩, h.configs_eq, h.now_eq⟩

/-- A limit switch of an axis that the executor has stops it, unless a fault is latched or the clock
is past the time. If it does not, only the counter changes. -/
theorem Standing.triggerLimit (h : Standing configs nowNs motion) {axisResourceId : UInt32}
    (haxis : (findConfig configs axisResourceId).isSome) (atNs : UInt64) :
    (motion.fault = .none ∧ nowNs ≤ atNs → ∃ edges stopped,
      motion.triggerLimit axisResourceId atNs = (.ok edges, stopped) ∧
        Standing configs atNs stopped ∧ stopped.fault = .limitTriggered) ∧
    (¬(motion.fault = .none ∧ nowNs ≤ atNs) → ∃ e,
      motion.triggerLimit axisResourceId atNs = (.error e, motion.countLimit)) := by
  rw [triggerLimit_of_isSome ((h.requireAxis_isSome axisResourceId).trans haxis)]
  have hok := abort_limit_isOk_iff motion.countLimit atNs
  rw [not_or, not_not, UInt64.not_lt] at hok
  have hnow : motion.countLimit.nowNs = nowNs := h.now_eq
  rw [hnow] at hok
  cases habort : motion.countLimit.abort atNs .limitTriggered with
  | ok result =>
    obtain ⟨edges, stopped⟩ := result
    refine ⟨fun _ => ⟨edges, stopped, rfl, h.countLimit.abort habort, (abort_spec habort).2.1⟩,
      fun hnot => absurd (hok.1 ⟨_, habort⟩) hnot⟩
  | error e =>
    refine ⟨fun hstops => ?_, fun _ => ⟨e, rfl⟩⟩
    obtain ⟨result, hresult⟩ := hok.2 hstops
    rw [habort] at hresult
    cases hresult

/-- An executor that a limit switch has stopped had no fault, and its clock was not past the
time. -/
theorem Standing.of_triggerLimit_ok (h : Standing configs nowNs motion) {axisResourceId : UInt32}
    (haxis : (findConfig configs axisResourceId).isSome) {atNs : UInt64} {edges : List MotionEdge}
    {stopped : MotionExecutor}
    (htrigger : motion.triggerLimit axisResourceId atNs = (.ok edges, stopped)) :
    (motion.fault = .none ∧ nowNs ≤ atNs) ∧ Standing configs atNs stopped ∧
      stopped.fault = .limitTriggered := by
  obtain ⟨hstops, hrefused⟩ := h.triggerLimit haxis atNs
  have hready : motion.fault = .none ∧ nowNs ≤ atNs := by
    by_contra hnot
    obtain ⟨e, he⟩ := hrefused hnot
    rw [htrigger] at he
    cases he
  obtain ⟨_, _, htrigger', hstopped⟩ := hstops hready
  rw [htrigger] at htrigger'
  obtain ⟨-, rfl⟩ := Prod.mk.inj htrigger'
  exact ⟨hready, hstopped⟩

/-- An executor that refuses a limit switch has a fault, or its clock is past the time. It only
counts. -/
theorem Standing.of_triggerLimit_error (h : Standing configs nowNs motion) {axisResourceId : UInt32}
    (haxis : (findConfig configs axisResourceId).isSome) {atNs : UInt64} {e : MotionException}
    {counted : MotionExecutor}
    (htrigger : motion.triggerLimit axisResourceId atNs = (.error e, counted)) :
    ¬(motion.fault = .none ∧ nowNs ≤ atNs) ∧ counted = motion.countLimit := by
  obtain ⟨hstops, hrefused⟩ := h.triggerLimit haxis atNs
  have hnot : ¬(motion.fault = .none ∧ nowNs ≤ atNs) := by
    intro hready
    obtain ⟨_, _, htrigger', -⟩ := hstops hready
    rw [htrigger] at htrigger'
    cases htrigger'
  obtain ⟨_, htrigger'⟩ := hrefused hnot
  rw [htrigger] at htrigger'
  exact ⟨hnot, (Prod.mk.inj htrigger').2⟩

end MotionExecutor

end RemoteBSP.MockMcu
