import RemoteBSP.MockMcu.Leases
import RemoteBSP.MockMcu.Waveform

/-!
# Motion under leases

All axes share one executor, while leases are on single axes. `motion_lease_isolates`: as long as a
session has the axes to itself that the queue moves, the requests of other sessions leave the queue,
the fault and the axes as they are, except for those of `Disturbs`: a stop, the reset of an axis
that the other session may use, the end of a fault on an empty queue, a segment when nothing moves,
and the end of any lease on an axis while the executor is armed or running, which stops it.

A segment names every axis, so that a queue that moves something is closed to the segments of the
others. Nothing else but the exceptions reaches the executor (`Effect`).
-/

namespace RemoteBSP.MockMcu

/-- The executor has something to execute. -/
def MotionExecutor.Engaged (executor : MotionExecutor) : Prop :=
  executor.state = .armed ∨ executor.state = .running

/-- The queue moves only axes of the board, and a fault leaves nothing in it. -/
structure MotionExecutor.Ready (board : Board) (executor : MotionExecutor) : Prop where
  /-- The segments name axes of the executor that the catalog has. -/
  segments : ∀ segment ∈ executor.segments, ∀ move ∈ segment.axes,
    move.resourceId ∈ executor.axisIds ∧ board.isAxis move.resourceId = true
  /-- A fault has stopped the executor. -/
  stopped : executor.Stopped

namespace RemoteCore

/-- A lease on an axis ends. -/
def EndsAxisLease (board : Board) (core : RemoteCore) (ends : Lease → Bool) : Prop :=
  ∃ resourceId lease, core.Holds resourceId lease ∧ ends lease = true ∧
    board.isAxis resourceId = true

/-- What disturbs the motion of another session. -/
inductive Disturbs (board : Board) (core : RemoteCore) (motion : MotionExecutor)
    (request : Packet) (now : ℤ) : Prop
  /-- A request to stop the executor, which stops the axes of all sessions. -/
  | abort (hcommand : request.header.command = Command.motionAbort)
  /-- The reset of an axis that nobody has leased or that the session has to itself. -/
  | reset (hcommand : request.header.command = Command.resourceReset)
      (haxis : board.isAxis (getU32 request.payload 0) = true)
      (hallowed : (core.expireLeases board now).2.leaseActive (getU32 request.payload 0) = true →
        (core.expireLeases board now).2.sessionHasExclusiveLease (getU32 request.payload 0)
          request.header.sessionId = true)
  /-- The end of a fault on an empty queue. -/
  | clearFault (hcommand : request.header.command = Command.motionClearFault)
      (hempty : motion.queue = [])
  /-- A request for a segment when the executor moves nothing. -/
  | enqueue (hcommand : request.header.command = Command.motionEnqueue)
      (hidle : ∀ segment ∈ motion.segments, ∀ move ∈ segment.axes, move.steps = 0)
  /-- The end of a lease on an axis by the timer. -/
  | expire (hengaged : motion.Engaged)
      (hends : EndsAxisLease board core fun lease => !decide (lease.expiresAt > now))
  /-- The release of a lease on an axis, which the request names. -/
  | release (hcommand : request.header.command = Command.resourceRelease)
      (hengaged : motion.Engaged)
      {token : ResourceLeaseTokenRequest} (hasked : AsksRelease request token)
      (haxis : board.isAxis token.resourceId = true) {lease : Lease}
      (hholds : (core.expireLeases board now).2.Holds token.resourceId lease)
      (hnamed : lease.namedBy token.leaseId request.header.sessionId = true)

/-- The session has the axes to itself that the queue moves. -/
def HoldsMotion (board : Board) (core : RemoteCore) (motion : MotionExecutor) (sessionId : UInt32)
    (now : ℤ) : Prop :=
  ∀ segment ∈ motion.segments, ∀ move ∈ segment.axes, move.steps ≠ 0 →
    board.isAxis move.resourceId = true → ∃ lease, core.Holds move.resourceId lease ∧
      lease.mode = .exclusive ∧ lease.ownerSessionId = sessionId ∧ now < lease.expiresAt

variable {board : Board} {core core' : RemoteCore} {motion motion' : MotionExecutor}
  {request : Packet} {now : ℤ} {grants : ℕ}

/-! ## The ends of leases -/

/-- An executor that has nothing to execute is not stopped. -/
theorem stopMotion_of_not_engaged (h : ¬motion.Engaged) : stopMotion motion = motion := by
  unfold MotionExecutor.Engaged at h
  unfold stopMotion
  rw [if_neg h]

/-- A stop drains the queue of what it has played. -/
theorem stopMotion_drains : motion.Drains (stopMotion motion) := by
  unfold stopMotion
  split
  · split
    · next habort => exact MotionExecutor.abort_drains habort
    · exact .refl _
  · exact .refl _

/-- A stop leaves a fault only on an empty queue. -/
theorem stopMotion_stopped (h : motion.Stopped) : (stopMotion motion).Stopped := by
  unfold stopMotion
  split
  · split
    · next habort =>
      obtain ⟨hqueue, -, hstate⟩ := MotionExecutor.abort_spec habort
      exact fun _ => ⟨hqueue, hstate⟩
    · exact h
  · exact h

/-- An executor that is armed or running is stopped. -/
theorem stopMotion_of_engaged (hstopped : motion.Stopped) (h : motion.Engaged) :
    (stopMotion motion).queue = [] ∧ (stopMotion motion).fault = .aborted ∧
      ¬(stopMotion motion).Engaged := by
  have hfault : motion.fault = .none := by
    by_contra hne
    have hstate := (hstopped hne).2
    rcases h with h | h
    · cases h.symm.trans hstate
    · cases h.symm.trans hstate
  obtain ⟨edges, motion', habort⟩ := MotionExecutor.exists_abort hfault
  obtain ⟨hqueue, hlatched, hstate⟩ := MotionExecutor.abort_spec habort
  unfold MotionExecutor.Engaged at h
  unfold stopMotion
  rw [if_pos h, habort]
  refine ⟨hqueue, hlatched, ?_⟩
  rintro (h | h)
  · cases h.symm.trans hstate
  · cases h.symm.trans hstate

/-- What one release does to the executor. -/
theorem motion_release (resourceId ownerSessionId : UInt32) :
    (core.releaseResourceObjects board resourceId ownerSessionId).motion =
      if board.isAxis resourceId then core.motion.map stopMotion else core.motion := rfl

/-- Releases that reach the executor when it has nothing to execute, or not at all. -/
theorem motion_releaseAll_of_not {ended : List (UInt32 × Lease)}
    (hmotion : core.motion = some motion)
    (h : ¬motion.Engaged ∨ ∀ entry ∈ ended, board.isAxis entry.1 = false) :
    (core.releaseAll board ended).motion = some motion := by
  induction ended generalizing core with
  | nil => exact hmotion
  | cons entry ended ih =>
    rw [releaseAll, List.foldl_cons, ← releaseAll]
    refine ih ?_ (h.imp_right fun hall entry' hmem => hall entry' (List.mem_cons_of_mem _ hmem))
    rw [motion_release]
    split
    · next haxis =>
      rcases h with hidle | hall
      · rw [hmotion, Option.map_some, stopMotion_of_not_engaged hidle]
      · rw [hall entry List.mem_cons_self] at haxis
        cases haxis
    · exact hmotion

/-- Releases, one of which is on an axis, stop an executor that is armed or running. -/
theorem motion_releaseAll_of_engaged {ended : List (UInt32 × Lease)}
    (hmotion : core.motion = some motion) (hstopped : motion.Stopped) (hengaged : motion.Engaged)
    (h : ∃ entry ∈ ended, board.isAxis entry.1 = true) :
    ∃ motion', (core.releaseAll board ended).motion = some motion' ∧ motion'.queue = [] ∧
      motion'.fault = .aborted := by
  induction ended generalizing core with
  | nil => obtain ⟨entry, hmem, -⟩ := h; exact absurd hmem List.not_mem_nil
  | cons entry ended ih =>
    rw [releaseAll, List.foldl_cons, ← releaseAll]
    cases haxis : board.isAxis entry.1 with
    | false =>
      -- The executor is stopped later.
      obtain ⟨entry', hmem, haxis'⟩ := h
      refine ih (by rw [motion_release, haxis]; exact hmotion) ?_
      rcases List.mem_cons.1 hmem with rfl | hmem
      · rw [haxis] at haxis'
        cases haxis'
      · exact ⟨entry', hmem, haxis'⟩
    | true =>
      obtain ⟨hqueue, hfault, hidle⟩ := stopMotion_of_engaged hstopped hengaged
      refine ⟨stopMotion motion, motion_releaseAll_of_not ?_ (.inl hidle), hqueue, hfault⟩
      rw [motion_release, haxis, if_pos rfl, hmotion, Option.map_some]

/-- Leases that end without reaching the executor. -/
theorem motion_endLeases_of_not {ends : Lease → Bool} (hmotion : core.motion = some motion)
    (h : ¬(motion.Engaged ∧ EndsAxisLease board core ends)) :
    (core.endLeases board ends).2.motion = some motion := by
  refine motion_releaseAll_of_not hmotion ((not_and_or.1 h).imp_right ?_)
  rintro hnone ⟨resourceId, lease⟩ hmem
  obtain ⟨hholds, hends⟩ := mem_endedLeases.1 hmem
  rw [← Bool.not_eq_true]
  exact fun haxis => hnone ⟨resourceId, lease, hholds, hends, haxis⟩

/-- A lease on an axis that ends stops an executor that is armed or running. -/
theorem motion_endLeases_of_engaged {ends : Lease → Bool} (hmotion : core.motion = some motion)
    (hstopped : motion.Stopped) (hengaged : motion.Engaged)
    (h : EndsAxisLease board core ends) :
    ∃ motion', (core.endLeases board ends).2.motion = some motion' ∧ motion'.queue = [] ∧
      motion'.fault = .aborted := by
  obtain ⟨resourceId, lease, hholds, hends, haxis⟩ := h
  exact motion_releaseAll_of_engaged hmotion hstopped hengaged
    ⟨(resourceId, lease), mem_endedLeases.2 ⟨hholds, hends⟩, haxis⟩

/-! ## The queue moves axes of the board -/

/-- The executor of a core, if it has one, is ready. -/
def MotionReady (board : Board) (core : RemoteCore) : Prop :=
  ∀ motion, core.motion = some motion → motion.Ready board

/-- What drains the queue keeps the executor ready. -/
theorem ready_of_drains (h : motion.Ready board) (hdrains : motion.Drains motion')
    (hstopped : motion'.Stopped) : motion'.Ready board where
  segments segment hmem move hmove := by
    rw [hdrains.1]
    exact h.segments segment (hdrains.2 hmem) move hmove
  stopped := hstopped

/-- A segment keeps the executor ready, if its axes are axes of the board. -/
theorem ready_enqueue (h : motion.Ready board) {segment : MotionSegment} {nowNs : UInt64}
    (haxes : ∀ move ∈ segment.axes, board.isAxis move.resourceId = true) :
    (motion.enqueue segment nowNs).2.Ready board := by
  rcases MotionExecutor.enqueue_cases segment nowNs with hreject | ⟨runtime, hcheck, hpush⟩
  · rw [hreject]
    exact ⟨h.segments, h.stopped⟩
  · rw [hpush]
    obtain ⟨hsame, -, -, hall⟩ := MotionExecutor.checkSegment_ok hcheck
    constructor
    · intro queued hmem move hmove
      rw [MotionExecutor.segments, MotionExecutor.push, List.map_append, List.mem_append] at hmem
      rcases hmem with hmem | hmem
      · exact h.segments queued hmem move hmove
      · rw [List.map_singleton, List.mem_singleton] at hmem
        rw [hmem, hsame] at hmove
        exact ⟨hall move hmove, haxes move hmove⟩
    · intro hne
      exact absurd (MotionExecutor.fault_of_checkSegment hcheck) hne

/-- The axes of a segment that is not refused. -/
theorem isAxis_of_axisRefused {sessionId resourceId : UInt32}
    (h : core.axisRefused board sessionId resourceId = none) : board.isAxis resourceId = true := by
  unfold axisRefused at h
  split at h
  · cases h
  · next haxis => exact not_not.1 haxis

/-- The axes of a segment that is not refused are not leased by others. -/
theorem not_leased_of_axisRefused {sessionId resourceId : UInt32} {lease : Lease}
    (h : core.axisRefused board sessionId resourceId = none)
    (hlease : core.leases.lookup resourceId = some [lease]) : lease.ownerSessionId = sessionId := by
  unfold axisRefused at h
  split at h
  · cases h
  · split at h
    · cases h
    · next hfree =>
      have hactive : core.leaseActive resourceId = true := by
        rw [leaseActive, hlease]
        rfl
      have hexclusive := not_not.1 (not_and.1 hfree (.inr hactive))
      rw [sessionHasExclusiveLease, hlease] at hexclusive
      obtain ⟨held, hmem, hheld⟩ := List.any_eq_true.1 hexclusive
      rw [← List.mem_singleton.1 hmem]
      exact (of_decide_eq_true hheld).1

/-- A reset keeps the executor ready. -/
theorem ready_resetMotion (h : motion.Ready board) : (resetMotion motion).2.Ready board := by
  have hclear : ∀ {stopped cleared : MotionExecutor}, stopped.Ready board →
      stopped.clearFault = .ok cleared → cleared.Ready board := by
    intro stopped cleared hready hcleared
    obtain ⟨-, rfl⟩ := MotionExecutor.clearFault_eq_ok_iff.1 hcleared
    exact ⟨hready.segments, fun hne => absurd rfl hne⟩
  unfold resetMotion
  dsimp only
  split
  · exact h
  · next stopped hstopped =>
    have hready : stopped.Ready board := by
      split at hstopped
      · cases habort : motion.abort motion.nowNs .aborted with
        | error e => rw [habort] at hstopped; cases hstopped
        | ok outcome =>
          rw [habort] at hstopped
          obtain rfl := Except.ok.inj hstopped
          obtain ⟨hqueue, -, hstate⟩ := MotionExecutor.abort_spec habort
          exact ready_of_drains h (MotionExecutor.abort_drains habort) fun _ => ⟨hqueue, hstate⟩
      · rwa [← Except.ok.inj hstopped]
    split
    · exact hready
    · next hcleared => exact hclear hready hcleared

/-- What a request does to the executor keeps it ready for the next one. -/
theorem ready_motionEffect (h : motion.Ready board)
    (heffect : MotionEffect board core request motion motion') : motion'.Ready board := by
  cases heffect with
  | reset => exact ready_resetMotion h
  | enqueue decoded hcommand haxes =>
    refine ready_enqueue h fun move hmem => ?_
    obtain ⟨axis, haxis, rfl⟩ := List.mem_map.1 hmem
    exact isAxis_of_axisRefused (haxes axis haxis)
  | abort hcommand habort =>
    obtain ⟨hqueue, -, hstate⟩ := MotionExecutor.abort_spec habort
    exact ready_of_drains h (MotionExecutor.abort_drains habort) fun _ => ⟨hqueue, hstate⟩
  | clearFault hcommand hclear =>
    obtain ⟨-, rfl⟩ := MotionExecutor.clearFault_eq_ok_iff.1 hclear
    exact ⟨h.segments, fun hne => absurd rfl hne⟩

/-- A release keeps the executor ready. -/
theorem MotionReady.release (h : core.MotionReady board) (resourceId ownerSessionId : UInt32) :
    (core.releaseResourceObjects board resourceId ownerSessionId).MotionReady board := by
  intro motion hmotion
  rw [motion_release] at hmotion
  split at hmotion
  · obtain ⟨before, hbefore, rfl⟩ := Option.map_eq_some_iff.1 hmotion
    have hready := h before hbefore
    exact ready_of_drains hready stopMotion_drains (stopMotion_stopped hready.stopped)
  · exact h motion hmotion

/-- The ends of leases keep the executor ready. -/
theorem MotionReady.endLeases (h : core.MotionReady board) (ends : Lease → Bool) :
    (core.endLeases board ends).2.MotionReady board := by
  have hall : ∀ ended : List (UInt32 × Lease), (core.releaseAll board ended).MotionReady board := by
    intro ended
    induction ended generalizing core with
    | nil => exact h
    | cons entry ended ih =>
      rw [releaseAll, List.foldl_cons, ← releaseAll]
      exact ih (h.release _ _)
  exact hall _

/-- A request keeps the executor of the core ready for the next one. -/
theorem MotionReady.effect (h : core.MotionReady board)
    (heffect : Effect board core request now core') : core'.MotionReady board := by
  cases heffect with
  | release token => exact h.release token.resourceId request.header.sessionId
  | useMotion hmotion heffect =>
    intro motion' hmotion'
    obtain rfl := Option.some.inj hmotion'
    exact ready_motionEffect (h _ hmotion) heffect
  | _ => exact h

/-- An event keeps the executor ready. -/
theorem MotionReady.step (h : core.MotionReady board) (event : CoreEvent) :
    (core.step board event).MotionReady board := by
  cases event with
  | handle request now =>
    -- A request first ends the leases that have expired.
    change (core.handle board request now).2.MotionReady board
    unfold RemoteCore.handle
    split
    · exact h
    · split
      · exact h
      · exact (h.endLeases _).effect dispatch_effect
  | expireLeases now => exact h.endLeases _
  | releaseSession sessionId => exact h.endLeases _
  | pollUartEvents maximumPayload =>
    intro motion hmotion
    exact h motion ((motion_pollUartEvents maximumPayload).symm.trans hmotion)
  | setGpio bsp => exact h
  | setUart bsp => exact h
  -- The time and the limit switches drain the queue.
  | advanceMotion nowNs =>
    intro motion hmotion
    obtain ⟨before, hbefore, rfl⟩ := Option.map_eq_some_iff.1 hmotion
    have hready := h before hbefore
    split
    · exact hready
    · next hadvance =>
      exact ready_of_drains hready (MotionExecutor.advanceTo_drains hadvance)
        (MotionExecutor.advanceTo_stopped hready.stopped hadvance)
  | triggerLimit axisResourceId nowNs =>
    intro motion hmotion
    obtain ⟨before, hbefore, rfl⟩ := Option.map_eq_some_iff.1 hmotion
    have hready := h before hbefore
    exact ready_of_drains hready (MotionExecutor.triggerLimit_drains _ _)
      (MotionExecutor.triggerLimit_stopped hready.stopped _ _)

/-- In every run the executor is ready. -/
theorem motionReady_run {sort : Sorter EdgeLe} {configs : List MotionAxisConfig}
    {queueCapacity : ℕ} {minimumLeadTimeNs : UInt64} (gpioBsp : Option MockGpioBsp)
    (uartBsp : Option MockUartBsp)
    (hcreate : MotionExecutor.create sort configs queueCapacity minimumLeadTimeNs = .ok motion)
    (events : List CoreEvent) :
    ((coreMachine board).run ⟨fresh gpioBsp uartBsp (some motion), 0⟩ events).core.MotionReady
      board := by
  refine (coreMachine board).run_induction (P := fun ledger => ledger.core.MotionReady board)
    (fun ledger event h => h.step event) ?_ events
  intro motion' hmotion'
  obtain rfl := Option.some.inj hmotion'
  obtain ⟨runtimes, -, rfl⟩ := MotionExecutor.create_eq_ok hcreate
  exact ⟨fun _ hmem => absurd hmem List.not_mem_nil, fun hne => absurd rfl hne⟩

/-! ## The motion of a session -/

/-- The timer leaves the session its axes. -/
theorem HoldsMotion.expire {sessionId : UInt32} (h : core.HoldsMotion board motion sessionId now) :
    (core.expireLeases board now).2.HoldsMotion board motion sessionId now := by
  intro segment hsegment move hmove hsteps haxis
  obtain ⟨lease, hholds, hmode, howner, hnow⟩ := h segment hsegment move hmove hsteps haxis
  refine ⟨lease, holds_endLeases.2 ⟨hholds, ?_⟩, hmode, howner, hnow⟩
  rw [decide_eq_true hnow]
  rfl

/-- A segment of another session is not queued while the queue moves something. -/
theorem enqueue_view (h : Sound board core grants) {sessionId : UInt32}
    (hready : motion.Ready board) (hholds : core.HoldsMotion board motion sessionId now)
    (hother : request.header.sessionId ≠ sessionId) {decoded : MotionSegmentPayload}
    (haxes : ∀ axis ∈ decoded.axes,
      core.axisRefused board request.header.sessionId axis.resourceId = none)
    (hmoves : ¬∀ segment ∈ motion.segments, ∀ move ∈ segment.axes, move.steps = 0) :
    (motion.enqueue (segmentOf decoded) motion.nowNs).2.view = motion.view := by
  rcases MotionExecutor.enqueue_cases (segmentOf decoded) motion.nowNs with
    hreject | ⟨runtime, hcheck, -⟩
  · rw [hreject]
    rfl
  · exfalso
    push Not at hmoves
    obtain ⟨segment, hsegment, move, hmove, hsteps⟩ := hmoves
    -- The segment names the axis that moves, which the other session has to itself.
    obtain ⟨hid, haxis⟩ := hready.segments segment hsegment move hmove
    obtain ⟨named, hnamed, hsame⟩ := MotionExecutor.exists_move_of_checkSegment hcheck hid
    obtain ⟨axis, hmem, rfl⟩ := List.mem_map.1 hnamed
    obtain ⟨lease, ⟨entries, hlookup, hheld⟩, hmode, howner, -⟩ :=
      hholds segment hsegment move hmove hsteps haxis
    rw [(h.entries _ _ hlookup).eq_singleton hheld hmode] at hlookup
    have hrefused := haxes axis hmem
    have haxisId : axis.resourceId = move.resourceId := hsame
    rw [haxisId] at hrefused
    exact hother (howner ▸ (not_leased_of_axisRefused hrefused hlookup).symm)

/-- In every run, while a session has the axes to itself that the queue moves, what other sessions
do leaves the queue, the fault and the axes as they are, but for what `Disturbs` lists; and leases
that end leave the executor as it is, but for a lease on an axis that ends while the executor is
armed or running, which empties the queue and latches a fault. -/
theorem motion_lease_isolates (board : Board) (gpioBsp : Option MockGpioBsp)
    (uartBsp : Option MockUartBsp) (sort : Sorter EdgeLe) (configs : List MotionAxisConfig)
    (queueCapacity : ℕ) (minimumLeadTimeNs : UInt64) (created : MotionExecutor)
    (hcreate : MotionExecutor.create sort configs queueCapacity minimumLeadTimeNs = .ok created)
    (events : List CoreEvent) (motion : MotionExecutor) (sessionId : UInt32) (now : ℤ) :
    let core := ((coreMachine board).run ⟨fresh gpioBsp uartBsp (some created), 0⟩ events).core
    core.motion = some motion → core.HoldsMotion board motion sessionId now →
    (∀ request, request.header.sessionId ≠ sessionId → ¬Disturbs board core motion request now →
      ∃ motion', (core.handle board request now).2.motion = some motion' ∧
        motion'.view = motion.view) ∧
    (∀ ends, ¬(motion.Engaged ∧ EndsAxisLease board core ends) →
      (core.endLeases board ends).2.motion = some motion) ∧
    ∀ ends, motion.Engaged → EndsAxisLease board core ends →
      ∃ motion', (core.endLeases board ends).2.motion = some motion' ∧ motion'.queue = [] ∧
        motion'.fault = .aborted := by
  intro core hmotion hholds
  have hsound : Sound board core _ := sound_run gpioBsp uartBsp (some created) events
  have hready : motion.Ready board :=
    motionReady_run gpioBsp uartBsp hcreate events motion hmotion
  refine ⟨fun request hother hquiet => ?_, fun ends => motion_endLeases_of_not hmotion,
    fun ends => motion_endLeases_of_engaged hmotion hready.stopped⟩
  -- A request that is ignored or refused changes nothing.
  unfold RemoteCore.handle
  split
  · exact ⟨motion, hmotion, rfl⟩
  · split
    · exact ⟨motion, hmotion, rfl⟩
    -- The leases that the request finds expired are none of the axes that are moved.
    · have hexpired : (core.expireLeases board now).2.motion = some motion :=
        motion_endLeases_of_not hmotion fun hends => hquiet (.expire hends.1 hends.2)
      have heffect : Effect board (core.expireLeases board now).2 request now
          ((core.expireLeases board now).2.dispatch board request now).2 := dispatch_effect
      generalize ((core.expireLeases board now).2.dispatch board request now).2 = core' at heffect
      cases heffect with
      -- Of the effects of a request, only those on the axes are left.
      | release token hcommand hasked hentries hnamed =>
        refine ⟨motion, ?_, rfl⟩
        change (releaseResourceObjects board _ token.resourceId request.header.sessionId).motion = _
        rw [motion_release]
        split
        · next haxis =>
          obtain ⟨lease, hmem, hlease⟩ := List.any_eq_true.1 hnamed
          rw [hexpired, Option.map_some, stopMotion_of_not_engaged]
          exact fun hengaged => hquiet (.release hcommand hengaged hasked haxis
            ⟨_, hentries, hmem⟩ hlease)
        · exact hexpired
      | useMotion hmotion' heffect =>
        obtain rfl := Option.some.inj (hmotion'.symm.trans hexpired)
        refine ⟨_, rfl, ?_⟩
        cases heffect with
        | reset hcommand haxis _ hexclusive =>
          exact absurd (.reset hcommand haxis hexclusive) hquiet
        -- A segment of another session cannot name the axes that are leased.
        | enqueue decoded hcommand haxes =>
          exact enqueue_view (hsound.endLeases _) hready hholds.expire hother haxes
            fun hidle => hquiet (.enqueue hcommand hidle)
        | abort hcommand => exact absurd (.abort hcommand) hquiet
        | clearFault hcommand hclear =>
          exact absurd (.clearFault hcommand (MotionExecutor.clearFault_eq_ok_iff.1 hclear).1)
            hquiet
      | _ => exact ⟨motion, hexpired, rfl⟩

/-! ## An example -/

/-- A board with two axes that can be leased. -/
def axisBoard : Board where
  nodeInfo := .unnamed
  capabilities := capabilityMotion
  resources := [{ resourceId := 1, type := .stepgenAxis, instance' := 0 },
    { resourceId := 2, type := .stepgenAxis, instance' := 1 }]
  contracts := [{ resourceId := 1, accessFlags := kResourceAccessLeaseSupported },
    { resourceId := 2, accessFlags := kResourceAccessLeaseSupported }]
  version_ok := NodeInfo.version_unnamed
  resources_ok := by decide
  contracts_ok := by decide

/-- Two axes of a board. -/
def axisConfigs : List MotionAxisConfig :=
  [⟨1, 1000, 1000, 1000, 1000⟩, ⟨2, 1000, 1000, 1000, 1000⟩]

/-- The executor that the constructor makes for the two axes. -/
def axisExecutor : MotionExecutor where
  sort := stableSort
  axes := axisConfigs.map fun config => { config := config }
  queueCapacity := 4
  minimumLeadTimeNs := 1000

/-- One session has the first axis to itself and queues a segment that makes one step on it. Another
one has the second axis to itself. -/
def axisEvents : List CoreEvent :=
  [.handle ⟨{ command := Command.resourceAcquire, sessionId := 7 },
      [1, 0, 0, 0, 0xE8, 0x03, 0, 0, 2]⟩ 0,
    .handle ⟨{ command := Command.motionEnqueue, sessionId := 7 },
      putU32 1 ++ putU64 0 ++ putU64 1000000 ++ [1, 2, 0, 0] ++ putU32 1 ++ putU32 1 ++
        putU32 2 ++ putU32 0⟩ 1,
    .handle ⟨{ command := Command.resourceAcquire, sessionId := 8 },
      [2, 0, 0, 0, 0xE8, 0x03, 0, 0, 2]⟩ 2]

/-- The core after a lease on both axes, a segment and its start. -/
def axisCore : RemoteCore :=
  ((coreMachine axisBoard).run ⟨fresh none none (some axisExecutor), 0⟩ axisEvents).core

/-- The executor of this core. -/
def axisMotion : MotionExecutor := axisCore.motion.getD axisExecutor

/-- The core of the board with axes has an executor. -/
theorem motion_axisCore : axisCore.motion = some axisMotion := by
  have hsome : axisCore.motion.isSome = true := by decide +kernel
  obtain ⟨motion, hmotion⟩ := Option.isSome_iff_exists.1 hsome
  unfold axisMotion
  rw [hmotion]
  rfl

/-- The other session releases its axis. -/
def releaseAxis : Packet :=
  ⟨{ command := Command.resourceRelease, sessionId := 8 }, putU32 2 ++ putU64 2 ++ putU32 0⟩

/-- The first session has to itself what the queue moves. -/
theorem holdsMotion_axisCore : axisCore.HoldsMotion axisBoard axisMotion 7 3 := by
  have hsegments : axisMotion.segments = [⟨1, 1000, 1000000, true, [⟨1, 1⟩, ⟨2, 0⟩]⟩] := by
    decide +kernel
  have hlease : axisCore.leases.lookup 1 = some [⟨1, 7, 1000, .exclusive, 1000000000⟩] := by
    decide +kernel
  intro segment hsegment move hmove hsteps _
  rw [hsegments, List.mem_singleton] at hsegment
  obtain rfl := hsegment
  rcases List.mem_cons.1 hmove with rfl | hmove
  · exact ⟨_, ⟨_, hlease, List.mem_cons_self⟩, rfl, rfl, by decide⟩
  · obtain rfl := List.mem_singleton.1 hmove
    exact absurd rfl hsteps

/-- The release empties the queue of the first session. -/
theorem motion_lease_not_isolates : axisCore.motion = some axisMotion ∧
    axisCore.HoldsMotion axisBoard axisMotion 7 3 ∧ releaseAxis.header.sessionId ≠ 7 ∧
    axisMotion.queue ≠ [] ∧ axisMotion.fault = .none ∧
    (axisCore.handle axisBoard releaseAxis 3).2.motion.map MotionExecutor.queue = some [] ∧
    (axisCore.handle axisBoard releaseAxis 3).2.motion.map MotionExecutor.fault = some .aborted :=
  ⟨motion_axisCore, holdsMotion_axisCore, by decide, by decide +kernel, by decide +kernel,
    by decide +kernel, by decide +kernel⟩

/-- A segment of the other session changes nothing. -/
theorem motion_lease_isolates_axis :
    ∃ motion', (axisCore.handle axisBoard ⟨{ command := Command.motionEnqueue, sessionId := 8 },
      putU32 2 ++ putU64 0 ++ putU64 1000000 ++ [1, 2, 0, 0] ++ putU32 1 ++ putU32 1 ++
        putU32 2 ++ putU32 1⟩ 3).2.motion = some motion' ∧ motion'.view = axisMotion.view := by
  refine (motion_lease_isolates axisBoard none none stableSort axisConfigs 4 1000 axisExecutor rfl
    axisEvents
    axisMotion 7 3 motion_axisCore holdsMotion_axisCore).1 _ (by decide) ?_
  have hsegments : axisMotion.segments = [⟨1, 1000, 1000000, true, [⟨1, 1⟩, ⟨2, 0⟩]⟩] := by
    decide +kernel
  have hended : axisCore.endedLeases (fun lease => !decide (lease.expiresAt > 3)) = [] := by
    decide +kernel
  rintro (hcommand | hcommand | hcommand | ⟨-, hidle⟩ | ⟨-, resourceId, lease, hholds, hends, -⟩ |
    hcommand)
  · exact absurd hcommand (by decide)
  · exact absurd hcommand (by decide)
  · exact absurd hcommand (by decide)
  · rw [hsegments] at hidle
    exact absurd (hidle _ List.mem_cons_self _ List.mem_cons_self) (by decide)
  · have hmem : (resourceId, lease) ∈ axisCore.endedLeases fun lease =>
      !decide (lease.expiresAt > 3) :=
      mem_endedLeases.2 ⟨hholds, hends⟩
    rw [hended] at hmem
    exact absurd hmem List.not_mem_nil
  · exact absurd hcommand (by decide)

end RemoteCore

end RemoteBSP.MockMcu
