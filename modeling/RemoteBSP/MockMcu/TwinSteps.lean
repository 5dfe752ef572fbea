import RemoteBSP.MockMcu.TwinRuns

/-!
# Advancing a digital twin in steps

If each of several calls of `advance_to`, one after another and with times that do not decrease,
returns, then the last of them alone leaves the same twin and the same node, with the same edges,
and tells the sum of what they tell (`advance_in_steps`).

What has to be compared are two twins of which one has been polled at an earlier time. The events
that come later treat them alike, up to the edges of the poll (`applyDue_polledTo`), and behind a
limit switch the two are the same.
-/

namespace RemoteBSP.MockMcu

open DigitalTwin

variable {manifest : BoardManifest} {scenario : FaultScenario} {twin twin' : DigitalTwin}
  {board : Board} {node : TwinNode} {elapsedMs earlierMs laterMs : UInt64} {applied : ℕ}
  {configs : List MotionAxisConfig} {event : FaultEvent} {events : List FaultEvent}

namespace DigitalTwin

/-- With an executor, the twin is polled by polling the executor. -/
theorem polledTo_of_some {motion : MotionExecutor} (h : twin.motion = some motion)
    (nowNs : UInt64) :
    twin.polledTo nowNs = twin.moved (motion.poll nowNs).2 (motion.poll nowNs).1 := by
  unfold polledTo
  rw [h]

/-- Without an executor, there is nothing to poll. -/
theorem polledTo_of_none (h : twin.motion = none) (nowNs : UInt64) :
    twin.polledTo nowNs = twin := by
  unfold polledTo
  rw [h]

/-- Two polls are like the later one. -/
theorem polledTo_polledTo (configs : List MotionAxisConfig)
    (hvalid : ∀ motion ∈ twin.motion, ∃ nowNs, motion.Standing configs nowNs)
    {earlierNs laterNs : UInt64} (hle : earlierNs ≤ laterNs) :
    (twin.polledTo earlierNs).polledTo laterNs = twin.polledTo laterNs := by
  cases hmotion : twin.motion with
  | none => rw [polledTo_of_none hmotion, polledTo_of_none hmotion]
  | some motion =>
    obtain ⟨_, hstanding⟩ := hvalid motion hmotion
    obtain ⟨_, _, hvalid⟩ := hstanding.valid
    rw [polledTo_of_some hmotion, polledTo_of_some hmotion,
      polledTo_of_some (show (twin.moved _ _).motion = some _ from rfl),
      MotionExecutor.poll_poll hvalid hle]
    unfold moved
    dsimp only
    rw [List.append_assoc]

/-- An event that does not stop the executor does the same to a twin that has been polled. -/
theorem apply_polledTo (twin : DigitalTwin) (hlimit : event.action ≠ .triggerMotionLimit)
    (nowNs : UInt64) :
    (twin.polledTo nowNs).apply event =
      ((twin.apply event).1, (twin.apply event).2.polledTo nowNs) := by
  unfold polledTo apply
  cases hmotion : twin.motion with
  | none =>
    generalize event.action = action at hlimit
    cases action with
    | setUartFailed =>
      dsimp only
      split <;> simp only [hmotion]
    | setGpioInput =>
      dsimp only
      split
      · simp only [hmotion]
      · split <;> simp only [hmotion]
    | triggerMotionLimit => exact absurd rfl hlimit
    | setNodeOnline => simp only [hmotion]
  | some motion =>
    generalize event.action = action at hlimit
    cases action with
    | setUartFailed =>
      dsimp only [moved]
      split <;> simp only [hmotion]
    | setGpioInput =>
      dsimp only [moved]
      split
      · simp only [hmotion]
      · split <;> simp only [hmotion]
    | triggerMotionLimit => exact absurd rfl hlimit
    | setNodeOnline => simp only [moved]

/-- A limit switch that stops an executor that has been polled stops the one that has not, and
leaves the same executor. -/
theorem limit_polledTo {motion stopped : MotionExecutor} {edges : List MotionEdge}
    {nowNs earlierNs : UInt64} (hstanding : motion.Standing configs nowNs)
    (hnow : nowNs ≤ earlierNs)
    (haxis : (findConfig configs event.resourceId).isSome) (hearlier : earlierNs < event.atNs)
    (htrigger : (motion.poll earlierNs).2.triggerLimit event.resourceId event.atNs =
      (.ok edges, stopped)) :
    ∃ edges', motion.triggerLimit event.resourceId event.atNs = (.ok edges', stopped) ∧
      UpToTies MotionEdge.key ((motion.poll earlierNs).1 ++ edges) edges' := by
  obtain ⟨segments, base, hvalid⟩ := hstanding.valid
  have hpolled := hstanding.poll earlierNs hnow
  -- The executor that has been polled has no fault, or it would have refused.
  obtain ⟨⟨hready, -⟩, -⟩ := hpolled.of_triggerLimit_ok haxis htrigger
  -- So the one that has not been polled has none either: a poll does not clear a fault.
  have hfault : motion.fault = .none := by
    by_contra hfault
    have hqueue : motion.queue = [] := (hvalid.stopped hfault).1
    rw [MotionExecutor.poll_of_le (hstanding.now_eq.symm ▸ hnow),
      MotionExecutor.drain_nil hqueue] at hready
    exact hfault hready
  obtain ⟨edges', edges'', hafter, hbefore, hties⟩ := MotionExecutor.triggerLimit_poll hvalid
    ((hstanding.requireAxis_isSome event.resourceId).trans haxis) (hstanding.now_eq.symm ▸ hnow)
    hearlier hfault hready ((hpolled.requireAxis_isSome event.resourceId).trans haxis)
  obtain ⟨hedges, hstopped⟩ := Prod.mk.inj (htrigger.symm.trans hafter)
  obtain rfl := Except.ok.inj hedges
  exact ⟨edges'', Prod.ext hbefore hstopped.symm, hties⟩

/-- A later event is also later on the clock of the executor, if that does not overflow. -/
theorem lt_atNs (hlater : earlierMs < event.atMs) (hdue : event.atMs ≤ elapsedMs)
    (hclock : elapsedMs.toNat * 1000000 < 2^64) : earlierMs * 1000000 < event.atNs := by
  have hlt := Nat.mul_lt_mul_of_pos_right (UInt64.lt_iff_toNat_lt.1 hlater)
    (show 0 < 1000000 by norm_num)
  have hle := Nat.mul_le_mul_right 1000000 (UInt64.le_iff_toNat_le.1 hdue)
  have hevent : event.atMs.toNat * 1000000 < 2^64 := lt_of_le_of_lt hle hclock
  unfold FaultEvent.atNs
  rw [UInt64.lt_iff_toNat_lt, toNat_mul_of_lt (hlt.trans hevent), toNat_mul_of_lt hevent]
  exact hlt

/-! ## Twins up to ties -/

/-- Twins that are the same but for the order of pending edges that `edge_less` does not tell
apart. -/
structure Like (twin other : DigitalTwin) : Prop where
  /-- The pending edges of both are the same up to ties. -/
  edges : UpToTies MotionEdge.key twin.pendingMotionEdges other.pendingMotionEdges
  /-- The twins differ in nothing but the order of their pending edges. -/
  rest : other = { twin with pendingMotionEdges := other.pendingMotionEdges }

/-- Every twin has its own pending edges up to their order. -/
theorem Like.refl (twin : DigitalTwin) : Like twin twin := ⟨.refl _, rfl⟩

/-- Like twins are advanced to like twins by their executors. -/
theorem Like.moved (h : Like twin twin') (motion : MotionExecutor) {edges edges' : List MotionEdge}
    (hedges : UpToTies MotionEdge.key edges edges') :
    Like (twin.moved motion edges) (twin'.moved motion edges') := by
  refine ⟨h.edges.append hedges, ?_⟩
  rw [h.rest]
  rfl

/-- An event does the same to twins that are alike. -/
theorem Like.apply (h : Like twin twin') (event : FaultEvent) :
    (twin'.apply event).1 = (twin.apply event).1 ∧
      Like (twin.apply event).2 (twin'.apply event).2 := by
  obtain ⟨hedges, hrest⟩ := h
  generalize twin'.pendingMotionEdges = pending at hedges hrest
  subst hrest
  unfold DigitalTwin.apply
  dsimp only
  split
  · split
    · exact ⟨rfl, hedges, rfl⟩
    · exact ⟨rfl, hedges, rfl⟩
  · split
    · exact ⟨rfl, hedges, rfl⟩
    · split
      · exact ⟨rfl, hedges, rfl⟩
      · exact ⟨rfl, hedges, rfl⟩
  · split
    · exact ⟨rfl, hedges, rfl⟩
    · split
      · exact ⟨rfl, hedges, rfl⟩
      · exact ⟨rfl, hedges.append (.refl _), rfl⟩
  · exact ⟨rfl, hedges, rfl⟩

/-- Like twins count the same events. -/
theorem Like.next (h : Like twin twin') : Like twin.next twin'.next := by
  refine ⟨h.edges, ?_⟩
  rw [h.rest]
  rfl

/-- The loop does the same to like twins. -/
theorem Like.applyDue (h : Like twin twin') (elapsedMs : UInt64) (events : List FaultEvent) :
    (DigitalTwin.applyDue elapsedMs events twin').1 =
        (DigitalTwin.applyDue elapsedMs events twin).1 ∧
      Like (DigitalTwin.applyDue elapsedMs events twin).2
        (DigitalTwin.applyDue elapsedMs events twin').2 := by
  induction events generalizing twin twin' with
  | nil => exact ⟨rfl, h⟩
  | cons event rest ih =>
    by_cases hdue : event.atMs ≤ elapsedMs
    · obtain ⟨hresult, hlike⟩ := h.apply event
      rcases happly : twin.apply event with ⟨result, next⟩
      rcases happly' : twin'.apply event with ⟨result', next'⟩
      rw [happly, happly'] at hresult hlike
      dsimp only at hresult hlike
      subst hresult
      cases result' with
      | error e =>
        rw [applyDue_of_error hdue happly, applyDue_of_error hdue happly']
        exact ⟨rfl, hlike⟩
      | ok =>
        rw [applyDue_of_ok hdue happly, applyDue_of_ok hdue happly']
        obtain ⟨hrest, hlike'⟩ := ih hlike.next
        exact ⟨congrArg (Except.map (· + 1)) hrest, hlike'⟩
    · rw [applyDue_of_later hdue, applyDue_of_later hdue]
      exact ⟨rfl, h⟩

/-- The clocks of like twins are the same. -/
theorem Like.canReach (h : Like twin twin') :
    twin'.CanReach elapsedMs ↔ twin.CanReach elapsedMs := by
  unfold CanReach
  rw [h.rest]

/-- The executors of like twins are the same, and go on alike. -/
theorem Like.polledTo (h : Like twin twin') (nowNs : UInt64) :
    Like (twin.polledTo nowNs) (twin'.polledTo nowNs) := by
  have hmotion : twin'.motion = twin.motion := by rw [h.rest]
  cases hsome : twin.motion with
  | none =>
    rw [polledTo_of_none hsome, polledTo_of_none (hmotion.trans hsome)]
    exact h
  | some motion =>
    rw [polledTo_of_some hsome, polledTo_of_some (hmotion.trans hsome)]
    exact h.moved _ (.refl _)

/-! ## Events for a twin that has been polled -/

/-- What a limit switch makes of a twin that has been polled, it makes of the twin that has not, up
to ties. -/
theorem apply_limit_polledTo {next : DigitalTwin} (hlimit : event.action = .triggerMotionLimit)
    (hfit : DigitalTwin.Fits configs twin event)
    (hstanding : ∀ motion ∈ twin.motion, motion.Standing configs motion.nowNs ∧
      motion.nowNs ≤ earlierMs * 1000000)
    (hlater : twin.motion.isSome → earlierMs * 1000000 < event.atNs)
    (happly : (twin.polledTo (earlierMs * 1000000)).apply event = (.ok (), next)) :
    ∃ next', twin.apply event = (.ok (), next') ∧ Like next next' := by
  have hpolled := happened_polledTo twin (earlierMs * 1000000)
  have heffect := apply_effect (hfit.congr hpolled.manifest_eq hpolled.isSome_motion).admits
  rw [happly] at heffect
  cases heffect with
  | port haction => cases hlimit.symm.trans haction
  | pin haction => cases hlimit.symm.trans haction
  | online haction => cases hlimit.symm.trans haction
  | @limit _ polled stopped edges hmotion htrigger =>
    cases hbefore : twin.motion with
    | none =>
      -- There is no executor to be stopped.
      rw [polledTo_of_none hbefore, hbefore] at hmotion
      cases hmotion
    | some motion =>
      rw [polledTo_of_some hbefore] at hmotion ⊢
      obtain rfl := Option.some.inj hmotion
      obtain ⟨hstands, hnow⟩ := hstanding motion hbefore
      obtain ⟨edges', htrigger', hties⟩ := limit_polledTo hstands hnow (hfit.axis hlimit)
        (hlater (by rw [hbefore]; rfl)) htrigger
      refine ⟨twin.moved stopped edges', ?_, ?_⟩
      · unfold apply
        rw [hlimit, hbefore]
        dsimp only
        rw [show event.atMs * 1000000 = event.atNs from rfl, htrigger']
      · unfold moved
        dsimp only
        rw [List.append_assoc]
        exact ⟨(UpToTies.refl _).append hties, rfl⟩

/-- It does not matter whether an event is counted before or after a poll. -/
theorem next_polledTo (twin : DigitalTwin) (nowNs : UInt64) :
    (twin.polledTo nowNs).next = twin.next.polledTo nowNs := by
  cases hmotion : twin.motion with
  | none =>
    have hnext : twin.next.motion = none := hmotion
    rw [polledTo_of_none hmotion, polledTo_of_none hnext]
  | some motion =>
    have hnext : twin.next.motion = some motion := hmotion
    rw [polledTo_of_some hmotion, polledTo_of_some hnext]
    rfl

/-- Only a limit switch changes the executor. -/
theorem motion_of_effect {middle : DigitalTwin} (hlimit : event.action ≠ .triggerMotionLimit)
    (heffect : EventEffect twin event (.ok (), middle)) : middle.motion = twin.motion := by
  cases heffect with
  | limit haction => exact absurd haction hlimit
  | port => rfl
  | pin => rfl
  | online => rfl

/-- The loop that returns has taken the first event, if it is due, and has returned from the
rest. -/
theorem applyDue_cons_eq_ok {rest : List FaultEvent} (hdue : event.atMs ≤ elapsedMs)
    (h : applyDue elapsedMs (event :: rest) twin = (.ok applied, twin')) :
    ∃ next k, twin.apply event = (.ok (), next) ∧
      applyDue elapsedMs rest next.next = (.ok k, twin') ∧ applied = k + 1 := by
  rcases happly : twin.apply event with ⟨result, next⟩
  cases result with
  | error e =>
    rw [applyDue_of_error hdue happly] at h
    cases h
  | ok =>
    rw [applyDue_of_ok hdue happly] at h
    rcases hrest : applyDue elapsedMs rest next.next with ⟨result, last⟩
    rw [hrest] at h
    cases result with
    | error e => cases (Prod.mk.inj h).1
    | ok k =>
      obtain ⟨happlied, rfl⟩ := Prod.mk.inj h
      exact ⟨next, k, rfl, hrest, (Except.ok.inj happlied).symm⟩

/-- What events make of a twin that has been polled, they make of the twin that has not, up to the
poll, or if there is a limit switch among them, up to ties. -/
theorem applyDue_polledTo (twin : DigitalTwin)
    (hfits : ∀ event ∈ events, DigitalTwin.Fits configs twin event)
    (hstanding : ∀ motion ∈ twin.motion, motion.Standing configs motion.nowNs ∧
      motion.nowNs ≤ earlierMs * 1000000)
    (hlater : ∀ event ∈ events, earlierMs < event.atMs)
    (hclock : twin.motion.isSome → elapsedMs.toNat * 1000000 < 2^64)
    (hdue : applyDue elapsedMs events (twin.polledTo (earlierMs * 1000000)) =
      (.ok applied, twin')) :
    ∃ middle, applyDue elapsedMs events twin = (.ok applied, middle) ∧
      (Like twin' middle ∨ twin' = middle.polledTo (earlierMs * 1000000) ∧
        ∀ motion ∈ middle.motion, motion.Standing configs motion.nowNs) := by
  induction events generalizing twin applied with
  -- No event is left.
  | nil =>
    obtain ⟨happlied, rfl⟩ := Prod.mk.inj hdue
    exact ⟨twin, Prod.ext happlied rfl,
      .inr ⟨rfl, fun motion hmotion => (hstanding motion hmotion).1⟩⟩
  | cons event rest ih =>
    by_cases hle : event.atMs ≤ elapsedMs
    · have hfit := hfits event List.mem_cons_self
      obtain ⟨next, k, happly, hrest, rfl⟩ := applyDue_cons_eq_ok hle hdue
      by_cases hlimit : event.action = .triggerMotionLimit
      · -- Behind the limit switch both twins are the same up to ties, and stay so.
        obtain ⟨next', happly', hlike⟩ := apply_limit_polledTo hlimit hfit hstanding
          (fun hsome => lt_atNs (hlater event List.mem_cons_self) hle (hclock hsome)) happly
        obtain ⟨hresult, hlike'⟩ := hlike.next.applyDue elapsedMs rest
        rw [hrest] at hresult hlike'
        refine ⟨_, ?_, .inl hlike'⟩
        rw [applyDue_of_ok hle happly', hresult]
        rfl
      · -- Any other event is applied before the poll, and the induction hypothesis to the rest.
        have hcommute := apply_polledTo twin hlimit (earlierMs * 1000000)
        rw [happly] at hcommute
        obtain ⟨hresult, hnext⟩ := Prod.mk.inj hcommute
        have hone : EventEffect twin event (.ok (), (twin.apply event).2) := by
          have heffect := apply_effect hfit.admits
          rwa [show twin.apply event = (.ok (), (twin.apply event).2) from
            Prod.ext hresult.symm rfl] at heffect
        have hhappened : Happened [event] twin (twin.apply event).2.next := .cons hone (.refl _)
        have hmotion : (twin.apply event).2.next.motion = twin.motion :=
          (motion_of_effect hlimit hone : (twin.apply event).2.motion = twin.motion)
        rw [hnext, next_polledTo] at hrest
        obtain ⟨middle, hmiddle, hor⟩ := @ih k (twin.apply event).2.next
          (fun later hmem => (hfits later (List.mem_cons_of_mem _ hmem)).congr
            hhappened.manifest_eq hhappened.isSome_motion)
          (fun motion hmem => hstanding motion (hmotion ▸ hmem))
          (fun later hmem => hlater later (List.mem_cons_of_mem _ hmem))
          (fun hsome => hclock (hhappened.isSome_motion ▸ hsome)) hrest
        refine ⟨middle, ?_, hor⟩
        rw [applyDue_of_ok hle (Prod.ext hresult.symm rfl), hmiddle]
        rfl
    -- The next event lies in the future, so that nothing happens.
    · rw [applyDue_of_later hle] at hdue
      obtain ⟨happlied, rfl⟩ := Prod.mk.inj hdue
      exact ⟨twin, (applyDue_of_later hle).trans (Prod.ext happlied rfl),
        .inr ⟨rfl, fun motion hmotion => (hstanding motion hmotion).1⟩⟩

/-- The loop goes on from where it has stopped for an earlier time. -/
theorem applyDue_resume {middle : DigitalTwin} {m n : ℕ} (hle : earlierMs ≤ laterMs)
    (hfirst : applyDue earlierMs events twin = (.ok m, middle))
    (hsecond : applyDue laterMs (events.drop m) middle = (.ok n, twin')) :
    applyDue laterMs events twin = (.ok (m + n), twin') := by
  induction events generalizing twin m with
  | nil =>
    obtain ⟨hm, rfl⟩ := Prod.mk.inj hfirst
    obtain rfl := Except.ok.inj hm
    rw [Nat.zero_add]
    exact hsecond
  | cons event rest ih =>
    by_cases hdue : event.atMs ≤ earlierMs
    · rcases hresult : twin.apply event with ⟨result, next⟩
      cases result with
      | error e =>
        rw [applyDue_of_error hdue hresult] at hfirst
        cases hfirst
      | ok =>
        rw [applyDue_of_ok hdue hresult] at hfirst
        rcases hrest : applyDue earlierMs rest next.next with ⟨result, last⟩
        rw [hrest] at hfirst
        cases result with
        | error e => cases (Prod.mk.inj hfirst).1
        | ok k =>
          obtain ⟨hm, rfl⟩ := Prod.mk.inj hfirst
          obtain rfl := Except.ok.inj hm
          rw [applyDue_of_ok (UInt64.le_trans hdue hle) hresult, ih hrest hsecond]
          exact Prod.ext (congrArg Except.ok (Nat.add_right_comm k n 1)) rfl
    · rw [applyDue_of_later hdue] at hfirst
      obtain ⟨hm, rfl⟩ := Prod.mk.inj hfirst
      obtain rfl := Except.ok.inj hm
      rw [Nat.zero_add]
      exact hsecond

/-- A poll does not turn the clock back. -/
theorem le_nowNs_poll (motion : MotionExecutor) (nowNs : UInt64) :
    motion.nowNs ≤ (motion.poll nowNs).2.nowNs := by
  rcases UInt64.lt_or_le nowNs motion.nowNs with hpast | hnow
  · rw [MotionExecutor.poll_of_lt hpast]
    exact UInt64.le_refl _
  · rw [MotionExecutor.poll_of_le hnow]
    exact hnow

/-- A time that the executor can reach after it has been polled, it can reach without it. -/
theorem canReach_of_polledTo {nowNs : UInt64} (h : (twin.polledTo nowNs).CanReach elapsedMs) :
    twin.CanReach elapsedMs := by
  intro motion hmotion
  rw [polledTo_of_some hmotion] at h
  obtain ⟨hwrap, hnow⟩ := h _ rfl
  exact ⟨hwrap, (UInt64.le_iff_toNat_le.1 (le_nowNs_poll motion nowNs)).trans hnow⟩

end DigitalTwin

/-- Two calls that return are like the later one, up to ties. -/
theorem Running.advance_twice (h : Running manifest scenario node)
    (hsorted : scenario.events.Pairwise fun event later => event.atMs ≤ later.atMs)
    (hle : earlierMs ≤ laterMs) {middle last : DigitalTwin} {m n : ℕ}
    (hfirst : node.twin.advanceTo earlierMs = (.ok m, middle))
    (hsecond : middle.advanceTo laterMs = (.ok n, last)) :
    ∃ last', node.twin.advanceTo laterMs = (.ok (m + n), last') ∧ Like last last' := by
  obtain ⟨before, hdue, hreach, rfl⟩ := advanceTo_eq_ok_iff.1 hfirst
  obtain ⟨after, hdue', hreach', rfl⟩ := advanceTo_eq_ok_iff.1 hsecond
  rw [h.scenario_eq] at hdue
  have hfits : ∀ event ∈ scenario.events.drop node.twin.nextEventIndex,
      DigitalTwin.Fits manifest.motionAxes node.twin event :=
    fun event hmem => h.fits event (List.mem_of_mem_drop hmem)
  have hsorted' := hsorted.sublist (List.drop_sublist node.twin.nextEventIndex _)
  obtain ⟨k, hk, hhappened, hpaced, -, hall⟩ := applyDue_spec earlierMs hfits hsorted'
    h.paced
  rw [hdue] at hhappened hpaced hall
  obtain ⟨rfl, hlater⟩ := hall m rfl
  -- The second call goes on with the events that the first one has left.
  have hpolled := happened_polledTo before (earlierMs * 1000000)
  have hindex : (before.polledTo (earlierMs * 1000000)).nextEventIndex =
      node.twin.nextEventIndex + m := by
    rw [hpolled.index_eq, hhappened.index_eq, List.length_take_of_le hk]
    rfl
  rw [hindex, hpolled.scenario_eq, hhappened.scenario_eq, h.scenario_eq, ← List.drop_drop] at hdue'
  -- The clock of the executor does not wrap around at the later time.
  have hclock : before.motion.isSome → laterMs.toNat * 1000000 < 2^64 := by
    intro hsome
    obtain ⟨motion, hmotion⟩ := Option.isSome_iff_exists.1 hsome
    have hpaced' := hpaced.polledTo hreach hlater
    have hfits' : ∀ event ∈ (scenario.events.drop node.twin.nextEventIndex).drop m,
        DigitalTwin.Fits manifest.motionAxes (before.polledTo (earlierMs * 1000000)) event :=
      fun event hmem => (hfits event (List.mem_of_mem_drop hmem)).congr
        (hpolled.manifest_eq.trans hhappened.manifest_eq)
        (hpolled.isSome_motion.trans hhappened.isSome_motion)
    have hcan := (canReach_applyDue hfits' (hsorted'.sublist (List.drop_sublist _ _)) hpaced'
      hdue').1 hreach'
    rw [polledTo_of_some hmotion] at hcan
    exact (hcan _ rfl).1
  -- So the first call can be put off behind the events of the second one.
  obtain ⟨middle, hmiddle, hor⟩ := applyDue_polledTo before
    (fun event hmem => (hfits event (List.mem_of_mem_drop hmem)).congr hhappened.manifest_eq
      hhappened.isSome_motion)
    (fun motion hmotion => by
      obtain ⟨hwrap, hnow⟩ := hreach motion hmotion
      exact ⟨(hpaced motion hmotion).1,
        UInt64.le_iff_toNat_le.2 ((toNat_mul_of_lt hwrap).symm ▸ hnow)⟩) hlater hclock hdue'
  rw [← h.scenario_eq] at hdue hmiddle
  have hboth := applyDue_resume hle hdue hmiddle
  -- With a limit switch among them, the twins are alike; without one, one poll is left over.
  rcases hor with hlike | ⟨rfl, hstanding⟩
  · exact ⟨_, advanceTo_eq_ok_iff.2 ⟨middle, hboth, hlike.canReach.2 hreach', rfl⟩,
      hlike.polledTo _⟩
  · refine ⟨_, advanceTo_eq_ok_iff.2 ⟨middle, hboth, canReach_of_polledTo hreach', ?_⟩, .refl _⟩
    cases hmotion : middle.motion with
    | none => rw [polledTo_of_none hmotion]
    | some motion =>
      refine polledTo_polledTo manifest.motionAxes
        (fun motion hmotion => ⟨_, hstanding motion hmotion⟩) ?_
      have hwrap := (canReach_of_polledTo hreach' motion hmotion).1
      have hmul := Nat.mul_le_mul_right 1000000 (UInt64.le_iff_toNat_le.1 hle)
      rw [UInt64.le_iff_toNat_le, toNat_mul_of_lt hwrap,
        toNat_mul_of_lt (lt_of_le_of_lt hmul hwrap)]
      exact hmul

/-- A twin with other pending edges, and its node. -/
def TwinNode.withEdges (node : TwinNode) (edges : List MotionEdge) : TwinNode :=
  { node with twin := { node.twin with pendingMotionEdges := edges } }

/-- If several calls of `advance_to`, in any state that a twin and its node get into, return one
after another, then the last of them alone leaves the same twin and the same node, and tells how
many events they have let happen together. Only the order of pending edges that `edge_less` does not
tell apart depends on how `std::sort` treats ties. -/
theorem advance_in_steps {start : TwinNode} (h : Serves manifest scenario board start)
    (ops : List TwinOp) (hrun : (twinMachine board).run start ops = node) (times : List UInt64)
    (last : UInt64) (hmono : (times ++ [last]).Pairwise (· ≤ ·)) (counts : List ℕ)
    (hreturn : (twinMachine board).outcomes node ((times ++ [last]).map .advanceTo) =
      counts.map fun applied => .advanced (.ok applied)) :
    ∃ edges, UpToTies MotionEdge.key ((twinMachine board).run node
        ((times ++ [last]).map .advanceTo)).twin.pendingMotionEdges edges ∧
      (twinMachine board).step node (.advanceTo last) =
        (((twinMachine board).run node ((times ++ [last]).map .advanceTo)).withEdges edges,
          .advanced (.ok counts.sum)) := by
  have hrunning := h.run ops
  rw [hrun] at hrunning
  clear hrun
  induction times generalizing node counts with
  | nil =>
    obtain ⟨applied, counts, rfl, happlied, hnil⟩ := List.map_eq_cons_iff.1 hreturn.symm
    obtain rfl := List.map_eq_nil_iff.1 hnil
    exact ⟨_, .refl _, Prod.ext rfl (by rw [List.sum_singleton]; exact happlied.symm)⟩
  | cons time times ih =>
    obtain ⟨applied, counts, rfl, happlied, hcounts⟩ := List.map_eq_cons_iff.1 hreturn.symm
    obtain ⟨hfirst, hrest⟩ := List.pairwise_cons.1 hmono
    have hnext : Running manifest scenario (node.step board (.advanceTo time)).1 :=
      hrunning.step h.sorted _
    obtain ⟨edges, hties, hlast⟩ := ih hrest counts hcounts.symm hnext
    -- What the first of the calls and the last one do to the twin.
    have htime : node.twin.advanceTo time =
        (.ok applied, (node.step board (.advanceTo time)).1.twin) :=
      Prod.ext (TwinOutcome.advanced.inj happlied).symm rfl
    obtain ⟨hstate, houtcome⟩ := Prod.mk.inj hlast
    have hsecond : (node.step board (.advanceTo time)).1.twin.advanceTo last =
        (.ok counts.sum, ((node.step board (.advanceTo time)).1.twin.advanceTo last).2) :=
      Prod.ext (TwinOutcome.advanced.inj houtcome) rfl
    obtain ⟨both, hboth, hlike⟩ := hrunning.advance_twice h.sorted
      (hfirst last (List.mem_append_right _ (List.mem_singleton_self last))) htime hsecond
    -- They leave the edges of the two calls, up to ties.
    have hedges : ((node.step board (.advanceTo time)).1.twin.advanceTo last).2.pendingMotionEdges =
        edges := congrArg (fun node : TwinNode => node.twin.pendingMotionEdges) hstate
    refine ⟨both.pendingMotionEdges, hties.trans (hedges ▸ hlike.edges), ?_⟩
    rw [List.sum_cons]
    refine Prod.ext ?_ (congrArg TwinOutcome.advanced (congrArg Prod.fst hboth))
    calc (node.step board (.advanceTo last)).1
        = ({ node with twin := (node.twin.advanceTo last).2 } : TwinNode).share := rfl
      _ = ({ node with twin := both } : TwinNode).share := by rw [hboth]
      _ = ((node.step board (.advanceTo time)).1.step board
            (.advanceTo last)).1.withEdges both.pendingMotionEdges := by
        rw [hlike.rest]
        rfl
      _ = _ := congrArg (fun node : TwinNode => node.withEdges both.pendingMotionEdges) hstate

/-- How many events a call of `advance_to` has let happen, if the call has returned. -/
def TwinOutcome.returned : TwinOutcome → Option ℕ
  | .advanced (.ok applied) => some applied
  | _ => none

/-- Calls that have let some events happen have returned. -/
theorem eq_advanced_of_returned {outcomes : List TwinOutcome} {counts : List ℕ}
    (h : outcomes.map TwinOutcome.returned = counts.map some) :
    outcomes = counts.map fun applied => .advanced (.ok applied) := by
  have hone : ∀ outcome : TwinOutcome, ∀ applied, outcome.returned = some applied →
      outcome = .advanced (.ok applied) := by
    intro outcome applied happlied
    unfold TwinOutcome.returned at happlied
    split at happlied
    · rw [Option.some.inj happlied]
    · cases happlied
  induction outcomes generalizing counts with
  | nil =>
    obtain rfl := List.map_eq_nil_iff.1 h.symm
    rfl
  | cons outcome outcomes ih =>
    obtain ⟨applied, counts, rfl, happlied, hcounts⟩ := List.map_eq_cons_iff.1 h.symm
    rw [hone outcome applied happlied.symm, ih hcounts.symm]
    rfl

/-- The board with two pins and two axes, of which one pin is in use and the axes are to move, is
advanced to before the limit switch, to between it and the outage, and to behind the outage. -/
theorem advance_in_steps_bench : ∃ board node, Serves benchManifest benchScenario board node ∧
    BenchUsed ((twinMachine board).run node benchOps).twin ∧
    ∃ steps edges, steps = (twinMachine board).run ((twinMachine board).run node benchOps)
        [.advanceTo 4, .advanceTo 9, .advanceTo 11] ∧
      steps.twin.pendingMotionEdges.length = 11 ∧
      UpToTies MotionEdge.key steps.twin.pendingMotionEdges edges ∧
      ((twinMachine board).run node benchOps).step board (.advanceTo 11) =
        (steps.withEdges edges, .advanced (.ok 3)) := by
  obtain ⟨board, node, h, hfound⟩ := exists_serves_bench (fun board node =>
    decide (BenchUsed ((twinMachine board).run node benchOps).twin ∧
      ((twinMachine board).run ((twinMachine board).run node benchOps)
        [.advanceTo 4, .advanceTo 9, .advanceTo 11]).twin.pendingMotionEdges.length = 11 ∧
      ((twinMachine board).outcomes ((twinMachine board).run node benchOps)
        [.advanceTo 4, .advanceTo 9, .advanceTo 11]).map TwinOutcome.returned =
          [1, 1, 1].map some)) (by decide +kernel)
  obtain ⟨hused, hlength, happlied⟩ := of_decide_eq_true hfound
  have hcalls : ([4, 9] ++ [11] : List UInt64).map TwinOp.advanceTo =
      [.advanceTo 4, .advanceTo 9, .advanceTo 11] := rfl
  have hsum : [1, 1, 1].sum = 3 := rfl
  have hsteps := advance_in_steps h benchOps rfl [4, 9] 11 (by decide) [1, 1, 1]
  rw [hcalls, hsum] at hsteps
  obtain ⟨edges, hties, hstep⟩ := hsteps (eq_advanced_of_returned happlied)
  exact ⟨board, node, h, hused, _, edges, rfl, hlength, hties, hstep⟩

end RemoteBSP.MockMcu
