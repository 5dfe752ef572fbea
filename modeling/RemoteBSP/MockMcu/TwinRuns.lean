import RemoteBSP.MockMcu.NodeLevels
import RemoteBSP.MockMcu.TwinEvents

/-!
# The runs of a digital twin

A twin and its node, whose clients may ask for anything at any time. `Running` is what holds after
every run: the events that have been counted are those that have happened, in the order of the
scenario, and the clock of the executor is not past those that are left.

So each event happens once, neither early nor late (`events_happen_in_order`), and it can be said of
each call of `advance_to` in advance whether it throws (`advance_succeeds_iff`). A call that goes
through can be left out, if another one follows it at once: the later one then does the work of both
(`advance_in_steps`). The reverse does not hold. An executor that is polled between two segments
may run dry there, and then refuses a limit switch that would have come later.
-/

namespace RemoteBSP.MockMcu

open DigitalTwin

variable {manifest : BoardManifest} {scenario : FaultScenario} {twin twin' : DigitalTwin}
  {board : Board} {core : RemoteCore} {node later : TwinNode} {elapsedMs : UInt64} {applied : ℕ}

namespace DigitalTwin

/-! ## The clock of the executor -/

/-- The executor of a twin goes on to a time. -/
def polledTo (twin : DigitalTwin) (nowNs : UInt64) : DigitalTwin :=
  match twin.motion with
  | none => twin
  | some motion => twin.moved (motion.poll nowNs).2 (motion.poll nowNs).1

/-- The clock of the executor can go on to a time. -/
def CanReach (twin : DigitalTwin) (elapsedMs : UInt64) : Prop :=
  ∀ motion ∈ twin.motion, elapsedMs.toNat * 1000000 < 2^64 ∧
    motion.nowNs.toNat ≤ elapsedMs.toNat * 1000000

/-- The time that the executor is given, if it does not wrap. -/
theorem toNat_mul_of_lt (h : elapsedMs.toNat * 1000000 < 2^64) :
    (elapsedMs * 1000000).toNat = elapsedMs.toNat * 1000000 := by
  simp only [UInt64.toNat_mul, UInt64.reduceToNat]
  exact Nat.mod_eq_of_lt h

/-- The check of `advance_to` is that the time does not wrap. -/
theorem overflow_iff (elapsedMs : UInt64) :
    elapsedMs > 0xFFFFFFFFFFFFFFFF / 1000000 ↔ ¬elapsedMs.toNat * 1000000 < 2^64 := by
  rw [gt_iff_lt, UInt64.lt_iff_toNat_lt, show (0xFFFFFFFFFFFFFFFF / 1000000 : UInt64).toNat =
    18446744073709 from rfl]
  omega

/-- What `advance_to` does behind the events. -/
theorem advanceMotion_spec (twin : DigitalTwin) (elapsedMs : UInt64) :
    (twin.CanReach elapsedMs →
      twin.advanceMotion elapsedMs = (.ok (), twin.polledTo (elapsedMs * 1000000))) ∧
    (¬twin.CanReach elapsedMs → ∃ e, twin.advanceMotion elapsedMs = (.error e, twin)) := by
  unfold advanceMotion CanReach polledTo
  cases twin.motion with
  | none => exact ⟨fun _ => rfl, fun h => absurd (fun motion hmotion => by cases hmotion) h⟩
  | some motion =>
    dsimp only
    by_cases hwrap : elapsedMs.toNat * 1000000 < 2^64
    · rw [if_neg ((overflow_iff elapsedMs).not.2 (not_not.2 hwrap)), MotionExecutor.advanceTo_eq]
      have hnow : elapsedMs * 1000000 < motion.nowNs ↔
          ¬motion.nowNs.toNat ≤ elapsedMs.toNat * 1000000 := by
        rw [UInt64.lt_iff_toNat_lt, toNat_mul_of_lt hwrap, not_le]
      by_cases hpast : elapsedMs * 1000000 < motion.nowNs
      · rw [if_pos hpast]
        exact ⟨fun h => absurd (h motion rfl).2 (hnow.1 hpast), fun _ => ⟨_, rfl⟩⟩
      · rw [if_neg hpast, MotionExecutor.poll_of_le (UInt64.not_lt.1 hpast)]
        refine ⟨fun _ => rfl, fun h => absurd (fun motion' hmotion' => ?_) h⟩
        obtain rfl := Option.some.inj hmotion'
        exact ⟨hwrap, not_not.1 (hnow.not.1 hpast)⟩
    · rw [if_pos ((overflow_iff elapsedMs).2 hwrap)]
      exact ⟨fun h => absurd (h motion rfl).1 hwrap, fun _ => ⟨_, rfl⟩⟩

/-- `advance_to` returns the error of the event that is refused. -/
theorem advanceTo_of_error {e : TwinException}
    (h : applyDue elapsedMs (twin.scenario.events.drop twin.nextEventIndex) twin =
      (.error e, twin')) : twin.advanceTo elapsedMs = (.error e, twin') := by
  unfold advanceTo
  rw [h]

/-- The events are followed by the executor. -/
theorem advanceTo_of_ok
    (h : applyDue elapsedMs (twin.scenario.events.drop twin.nextEventIndex) twin =
      (.ok applied, twin')) : twin.advanceTo elapsedMs =
      ((twin'.advanceMotion elapsedMs).1.map fun () => applied,
        (twin'.advanceMotion elapsedMs).2) := by
  unfold advanceTo
  rw [h]

/-- `advance_to` returns if the events and the clock let it. -/
theorem advanceTo_eq_ok_iff : twin.advanceTo elapsedMs = (.ok applied, twin') ↔
    ∃ middle, applyDue elapsedMs (twin.scenario.events.drop twin.nextEventIndex) twin =
      (.ok applied, middle) ∧ middle.CanReach elapsedMs ∧
      twin' = middle.polledTo (elapsedMs * 1000000) := by
  rcases hdue : applyDue elapsedMs (twin.scenario.events.drop twin.nextEventIndex) twin with
    ⟨result, middle⟩
  cases result with
  | error e =>
    rw [advanceTo_of_error hdue]
    exact ⟨fun h => (by cases h), fun ⟨_, h, _⟩ => (by cases h)⟩
  | ok n =>
    rw [advanceTo_of_ok hdue]
    obtain ⟨hreach, hstuck⟩ := advanceMotion_spec middle elapsedMs
    by_cases hcan : middle.CanReach elapsedMs
    · rw [hreach hcan]
      constructor
      · intro h
        obtain ⟨hn, rfl⟩ := Prod.mk.inj h
        obtain rfl := Except.ok.inj hn
        exact ⟨middle, rfl, hcan, rfl⟩
      · rintro ⟨_, h, -, rfl⟩
        obtain ⟨hn, rfl⟩ := Prod.mk.inj h
        obtain rfl := Except.ok.inj hn
        rfl
    · obtain ⟨e, he⟩ := hstuck hcan
      rw [he]
      refine ⟨fun h => (by cases h), fun ⟨_, h, hcan', _⟩ => ?_⟩
      obtain ⟨-, rfl⟩ := Prod.mk.inj h
      exact absurd hcan' hcan

/-- An executor that goes on changes nothing else. -/
theorem happened_polledTo (twin : DigitalTwin) (nowNs : UInt64) :
    Happened [] twin (twin.polledTo nowNs) := by
  unfold polledTo
  cases hmotion : twin.motion with
  | none => exact .refl twin
  | some motion => exact .nil rfl rfl (by rw [hmotion]; rfl) rfl rfl rfl

variable {configs : List MotionAxisConfig} {events : List FaultEvent}

/-- An executor that goes on is not past events that come later. -/
theorem Paced.polledTo (h : Paced configs twin events) (hreach : twin.CanReach elapsedMs)
    (hlater : ∀ event ∈ events, elapsedMs < event.atMs) :
    Paced configs (twin.polledTo (elapsedMs * 1000000)) events := by
  intro motion' hmotion'
  unfold DigitalTwin.polledTo at hmotion'
  cases hmotion : twin.motion with
  | none =>
    rw [hmotion] at hmotion'
    dsimp only at hmotion'
    rw [hmotion] at hmotion'
    cases hmotion'
  | some motion =>
    rw [hmotion] at hmotion'
    obtain rfl := Option.some.inj hmotion'
    obtain ⟨hwrap, hnow⟩ := hreach motion hmotion
    have htime := toNat_mul_of_lt hwrap
    have hstanding := (h motion hmotion).1.poll (elapsedMs * 1000000)
      (UInt64.le_iff_toNat_le.2 (htime ▸ hnow))
    refine ⟨hstanding.now_eq.symm ▸ hstanding, fun event hmem => ?_⟩
    rw [hstanding.now_eq, htime]
    exact Nat.mul_le_mul_right _ (UInt64.le_iff_toNat_le.1 (UInt64.le_of_lt (hlater event hmem)))

/-- An event that is due keeps the clock from no time that it could reach before. -/
theorem canReach_effect {event : FaultEvent} {middle : DigitalTwin}
    (hpaced : Paced configs twin (event :: events)) (hfits : DigitalTwin.Fits configs twin event)
    (hdue : event.atMs ≤ elapsedMs) (heffect : EventEffect twin event (.ok (), middle)) :
    middle.CanReach elapsedMs ↔ twin.CanReach elapsedMs := by
  cases heffect with
  | port => exact Iff.rfl
  | pin => exact Iff.rfl
  | online => exact Iff.rfl
  | @limit haction motion stopped edges hmotion htrigger =>
    obtain ⟨hstanding, hahead⟩ := hpaced motion hmotion
    obtain ⟨-, hstopped, -⟩ := hstanding.of_triggerLimit_ok (hfits.axis haction) htrigger
    have hle : event.atMs.toNat * 1000000 ≤ elapsedMs.toNat * 1000000 :=
      Nat.mul_le_mul_right _ (UInt64.le_iff_toNat_le.1 hdue)
    have hnow : stopped.nowNs.toNat ≤ event.atMs.toNat * 1000000 :=
      hstopped.now_eq.symm ▸ event.atNs_le
    constructor
    · intro h motion' hmotion'
      obtain rfl := Option.some.inj (hmotion.symm.trans hmotion')
      exact ⟨(h stopped rfl).1, (hahead event List.mem_cons_self).trans hle⟩
    · intro h stopped' hstopped'
      obtain rfl := Option.some.inj hstopped'
      exact ⟨(h motion hmotion).1, hnow.trans hle⟩

/-- The events that are due keep the clock from no time that it could reach before. -/
theorem canReach_applyDue (hfits : ∀ event ∈ events, DigitalTwin.Fits configs twin event)
    (hsorted : events.Pairwise fun event later => event.atMs ≤ later.atMs)
    (hpaced : Paced configs twin events)
    (hdue : applyDue elapsedMs events twin = (.ok applied, twin')) :
    twin'.CanReach elapsedMs ↔ twin.CanReach elapsedMs := by
  induction events generalizing twin applied with
  | nil =>
    obtain ⟨-, rfl⟩ := Prod.mk.inj hdue
    exact Iff.rfl
  | cons event rest ih =>
    obtain ⟨hfirst, hrest⟩ := List.pairwise_cons.1 hsorted
    have hfit := hfits event List.mem_cons_self
    -- The event is due, and those behind it leave the clock to the induction hypothesis.
    by_cases hle : event.atMs ≤ elapsedMs
    · have heffect := apply_effect hfit.admits
      rcases hresult : twin.apply event with ⟨result, middle⟩
      rw [hresult] at heffect
      cases result with
      | error e =>
        rw [applyDue_of_error hle hresult] at hdue
        cases hdue
      | ok =>
        have hone : Happened [event] twin middle.next := .cons heffect (.refl _)
        rw [applyDue_of_ok hle hresult] at hdue
        rcases hnext : applyDue elapsedMs rest middle.next with ⟨result, last⟩
        rw [hnext] at hdue
        cases result with
        | error e => cases (Prod.mk.inj hdue).1
        | ok k =>
          obtain rfl : last = twin' := (Prod.mk.inj hdue).2
          refine (@ih middle.next k (fun later hmem =>
            (hfits later (List.mem_cons_of_mem _ hmem)).congr hone.manifest_eq hone.isSome_motion)
            hrest (hpaced.effect hfit hfirst heffect).1 hnext).trans ?_
          show middle.CanReach elapsedMs ↔ twin.CanReach elapsedMs
          exact canReach_effect hpaced hfit hle heffect
    · rw [applyDue_of_later hle] at hdue
      obtain ⟨-, rfl⟩ := Prod.mk.inj hdue
      exact Iff.rfl

end DigitalTwin

/-! ## Every run -/

/-- What holds of a twin and its node at any time. -/
structure Running (manifest : BoardManifest) (scenario : FaultScenario) (node : TwinNode) :
    Prop where
  /-- The node never gets another board. -/
  manifest_eq : node.twin.manifest = manifest
  /-- The node never gets another scenario. -/
  scenario_eq : node.twin.scenario = scenario
  /-- No more events are counted than there are. -/
  index_le : node.twin.nextEventIndex ≤ scenario.events.length
  /-- The node is online unless the events that have happened have taken it offline. -/
  online_eq : node.twin.online = onlineAfter true (scenario.events.take node.twin.nextEventIndex)
  /-- The levels are those that the events that have happened have set. -/
  level_eq : ∀ pin, node.twin.gpio.pendingInputValues.lookup pin =
    levelAfter manifest pin none (scenario.events.take node.twin.nextEventIndex)
  /-- The node has the executor of the twin. -/
  motion_eq : node.core.motion = node.twin.motion
  /-- The node has the pins of the twin. -/
  gpio_eq : node.core.gpioBsp = some node.twin.gpio
  /-- Every event of the scenario fits the board. -/
  fits : ∀ event ∈ scenario.events, DigitalTwin.Fits manifest.motionAxes node.twin event
  /-- The clock is not past the events that are left. -/
  paced : Paced manifest.motionAxes node.twin (scenario.events.drop node.twin.nextEventIndex)

/-- Some more events happen to the twin. -/
theorem Running.happened (h : Running manifest scenario node) {n : ℕ}
    (hle : n ≤ (scenario.events.drop node.twin.nextEventIndex).length)
    (hhappened : Happened ((scenario.events.drop node.twin.nextEventIndex).take n) node.twin twin)
    (hpaced : Paced manifest.motionAxes twin
      ((scenario.events.drop node.twin.nextEventIndex).drop n)) :
    twin.nextEventIndex = node.twin.nextEventIndex + n ∧
      Running manifest scenario ({ node with twin := twin } : TwinNode).share := by
  have hindex : twin.nextEventIndex = node.twin.nextEventIndex + n := by
    rw [hhappened.index_eq, List.length_take_of_le hle]
  have htake : scenario.events.take (node.twin.nextEventIndex + n) =
      scenario.events.take node.twin.nextEventIndex ++
        (scenario.events.drop node.twin.nextEventIndex).take n := List.take_add
  rw [List.length_drop] at hle
  have hbound := h.index_le
  refine ⟨hindex, hhappened.manifest_eq.trans h.manifest_eq,
    hhappened.scenario_eq.trans h.scenario_eq, ?_, ?_, fun pin => ?_, rfl, rfl,
    fun event hmem => (h.fits event hmem).congr hhappened.manifest_eq hhappened.isSome_motion, ?_⟩
  · show twin.nextEventIndex ≤ _
    omega
  · show twin.online = onlineAfter true (scenario.events.take twin.nextEventIndex)
    rw [hindex, htake, hhappened.online_eq, h.online_eq]
    exact List.foldl_append.symm
  · show twin.gpio.pendingInputValues.lookup pin = _
    rw [hhappened.level_eq, h.level_eq, h.manifest_eq]
    show _ = levelAfter manifest pin none (scenario.events.take twin.nextEventIndex)
    rw [hindex, htake]
    exact List.foldl_append.symm
  · show Paced manifest.motionAxes twin (scenario.events.drop twin.nextEventIndex)
    rwa [hindex, ← List.drop_drop]

/-- A request to the node, or the end of leases. -/
theorem Running.requests (h : Running manifest scenario node)
    (hlevels : core.levels = node.core.levels)
    (hsome : core.motion.isSome = node.core.motion.isSome)
    (hkeep : ∀ now, node.core.MotionHas (MotionExecutor.Standing manifest.motionAxes now) →
      core.MotionHas (MotionExecutor.Standing manifest.motionAxes now)) :
    Running manifest scenario ({ node with core := core } : TwinNode).shareBack := by
  obtain ⟨gpio, hgpio⟩ : ∃ gpio, core.gpioBsp = some gpio := by
    unfold RemoteCore.levels at hlevels
    rw [h.gpio_eq] at hlevels
    obtain ⟨gpio, hgpio, -⟩ := Option.map_eq_some_iff.1 hlevels
    exact ⟨gpio, hgpio⟩
  have hpending : gpio.pendingInputValues = node.twin.gpio.pendingInputValues := by
    unfold RemoteCore.levels at hlevels
    rw [h.gpio_eq, hgpio] at hlevels
    exact Option.some.inj hlevels
  have hisSome : core.motion.isSome = node.twin.motion.isSome := by rw [hsome, h.motion_eq]
  refine ⟨h.manifest_eq, h.scenario_eq, h.index_le, h.online_eq, fun pin => ?_, rfl, ?_,
    fun event hmem => (h.fits event hmem).congr rfl hisSome, ?_⟩
  · show (core.gpioBsp.getD node.twin.gpio).pendingInputValues.lookup pin = _
    rw [hgpio, Option.getD_some, hpending]
    exact h.level_eq pin
  · show core.gpioBsp = some (core.gpioBsp.getD node.twin.gpio)
    rw [hgpio]
    rfl
  · intro motion' hmotion'
    obtain ⟨motion, hmotion⟩ : ∃ motion, node.twin.motion = some motion := by
      rw [← Option.isSome_iff_exists, ← hisSome, Option.isSome_iff_exists]
      exact ⟨motion', hmotion'⟩
    obtain ⟨hstanding, hahead⟩ := h.paced motion hmotion
    -- The requests leave the clock where it is.
    have hafter := hkeep motion.nowNs (fun other hother => by
      rw [h.motion_eq, hmotion] at hother
      exact Option.some.inj hother ▸ hstanding) motion' hmotion'
    exact ⟨hafter.now_eq.symm ▸ hafter, fun event hmem => hafter.now_eq.symm ▸ hahead event hmem⟩

/-- `advance_to` lets exactly the events happen that have become due. -/
theorem Running.advanceTo (h : Running manifest scenario node)
    (hsorted : scenario.events.Pairwise fun event later => event.atMs ≤ later.atMs)
    (elapsedMs : UInt64) :
    ∃ n, (node.twin.advanceTo elapsedMs).2.nextEventIndex = node.twin.nextEventIndex + n ∧
      (∀ event ∈ (scenario.events.drop node.twin.nextEventIndex).take n,
        event.atMs ≤ elapsedMs) ∧
      (∀ applied, (node.twin.advanceTo elapsedMs).1 = .ok applied → applied = n ∧
        ∀ event ∈ (scenario.events.drop node.twin.nextEventIndex).drop n,
          elapsedMs < event.atMs) ∧
      Running manifest scenario
        ({ node with twin := (node.twin.advanceTo elapsedMs).2 } : TwinNode).share := by
  obtain ⟨n, hn, hhappened, hpaced, hdone, hall⟩ := applyDue_spec elapsedMs
    (fun event hmem => h.fits event (List.mem_of_mem_drop hmem))
    (hsorted.sublist (List.drop_sublist _ _)) h.paced
  refine ⟨n, ?_⟩
  rcases hdue : applyDue elapsedMs (scenario.events.drop node.twin.nextEventIndex) node.twin with
    ⟨result, middle⟩
  rw [hdue] at hhappened hpaced hall
  rw [← h.scenario_eq] at hdue
  -- An event is refused: those before it have happened.
  cases result with
  | error e =>
    rw [advanceTo_of_error hdue]
    obtain ⟨hindex, hrunning⟩ := h.happened hn hhappened hpaced
    exact ⟨hindex, hdone, fun applied happlied => (by cases happlied), hrunning⟩
  | ok applied =>
    obtain ⟨rfl, hlater⟩ := hall applied rfl
    obtain ⟨hreach, hstuck⟩ := advanceMotion_spec middle elapsedMs
    rw [advanceTo_of_ok hdue]
    -- The executor is polled up to the time, if it can reach it.
    by_cases hcan : middle.CanReach elapsedMs
    · rw [hreach hcan]
      have hpolled := happened_polledTo middle (elapsedMs * 1000000)
      have hboth : Happened ((scenario.events.drop node.twin.nextEventIndex).take applied) node.twin
          (middle.polledTo (elapsedMs * 1000000)) :=
        ⟨hpolled.manifest_eq.trans hhappened.manifest_eq,
          hpolled.scenario_eq.trans hhappened.scenario_eq,
          hpolled.isSome_motion.trans hhappened.isSome_motion,
          hpolled.index_eq.trans hhappened.index_eq, hpolled.online_eq.trans hhappened.online_eq,
          fun pin => (hpolled.level_eq pin).trans (hhappened.level_eq pin)⟩
      obtain ⟨hindex, hrunning⟩ := h.happened hn hboth (hpaced.polledTo hcan hlater)
      exact ⟨hindex, hdone, fun k hk => ⟨(Except.ok.inj hk).symm, hlater⟩, hrunning⟩
    · obtain ⟨e, he⟩ := hstuck hcan
      rw [he]
      obtain ⟨hindex, hrunning⟩ := h.happened hn hhappened hpaced
      exact ⟨hindex, hdone, fun k hk => (by cases hk), hrunning⟩

/-- Whatever is done with a twin and its node, it goes on. -/
theorem Running.step (h : Running manifest scenario node)
    (hsorted : scenario.events.Pairwise fun event later => event.atMs ≤ later.atMs) (op : TwinOp) :
    Running manifest scenario (node.step board op).1 := by
  cases op with
  | advanceTo elapsedMs =>
    obtain ⟨_, -, -, -, hrunning⟩ := h.advanceTo hsorted elapsedMs
    exact hrunning
  | takeMotionEdges =>
    exact ⟨h.manifest_eq, h.scenario_eq, h.index_le, h.online_eq, h.level_eq, rfl, rfl,
      fun event hmem => (h.fits event hmem).congr rfl rfl, h.paced⟩
  | handle request now =>
    exact h.requests RemoteCore.levels_handle
      (RemoteCore.isSome_motion_step board node.core (.handle request now)) fun now' hmotion =>
        hmotion.handle (MotionExecutor.requestsKeep_standing _ now')
  | expireLeases now =>
    exact h.requests (RemoteCore.levels_endLeases _) (RemoteCore.isSome_motion_endLeases _)
      fun now' hmotion => hmotion.endLeases (MotionExecutor.requestsKeep_standing _ now') _
  | releaseSession sessionId =>
    exact h.requests (RemoteCore.levels_endLeases _) (RemoteCore.isSome_motion_endLeases _)
      fun now' hmotion => hmotion.endLeases (MotionExecutor.requestsKeep_standing _ now') _
  | pollUartEvents maximumPayload =>
    exact h.requests (RemoteCore.levels_pollUartEvents maximumPayload)
      (RemoteCore.isSome_motion_step board node.core (.pollUartEvents maximumPayload))
      fun now' hmotion => hmotion.pollUartEvents maximumPayload
  | serial uart =>
    exact ⟨h.manifest_eq, h.scenario_eq, h.index_le, h.online_eq, h.level_eq, rfl, rfl,
      fun event hmem => (h.fits event hmem).congr rfl rfl, h.paced⟩

/-- A twin and its node, as `main` makes them of a manifest, and of a scenario if there is one. -/
structure Serves (manifest : BoardManifest) (scenario : FaultScenario) (board : Board)
    (node : TwinNode) : Prop where
  /-- The manifest is one that `load_board_manifest` accepts. -/
  manifest_loaded : ∃ text, parseBoardManifest text = .ok manifest
  /-- The scenario is empty, or one that `load_fault_scenario` accepts. -/
  scenario_loaded : scenario = {} ∨ ∃ text, parseFaultScenario text = .ok scenario
  /-- The constructor of the twin has let both through, whatever its `std::sort` does with ties. -/
  twin_made : ∃ sort, DigitalTwin.create sort manifest scenario = .ok node.twin
  /-- `make_remote_core` has made the node, as one of the instances of the board. -/
  core_made : ∃ instance', node.twin.makeRemoteCore instance' = .ok (board, node.core)

/-- The events are in the order of their times. -/
theorem Serves.sorted (h : Serves manifest scenario board node) :
    scenario.events.Pairwise fun event later => event.atMs ≤ later.atMs := by
  obtain rfl | ⟨text, hload⟩ := h.scenario_loaded
  · exact .nil
  · exact sorted_of_load hload

/-- An axis that the catalog has has been configured. -/
theorem BoardManifest.Sound.findConfig_isSome (h : manifest.Sound) {resourceId : UInt32}
    {resource : ResourceDescriptor}
    (hrequire : manifest.requireResource resourceId .stepgenAxis = .ok resource) :
    (findConfig manifest.motionAxes resourceId).isSome := by
  obtain ⟨hfind, htype⟩ := requireResource_eq_ok_iff.1 hrequire
  have hid : resource.resourceId = resourceId := by
    simpa using List.find?_some hfind
  have hmem : resourceId ∈ manifest.motionAxes.map MotionAxisConfig.resourceId := by
    rw [h.axes_iff, ← hid]
    exact List.mem_map_of_mem (List.mem_filter.2
      ⟨List.mem_of_find?_eq_some hfind, decide_eq_true htype⟩)
  obtain ⟨config, hconfig, heq⟩ := List.mem_map.1 hmem
  unfold findConfig
  rw [List.find?_isSome]
  exact ⟨config, hconfig, decide_eq_true heq⟩

/-- A new twin and its node. -/
theorem Serves.running (h : Serves manifest scenario board node) :
    Running manifest scenario node := by
  obtain ⟨text, hload⟩ := h.manifest_loaded
  have hsound := sound_of_load hload
  obtain ⟨sort, hmade⟩ := h.twin_made
  obtain ⟨uart, motion, -, hmotion, hevents, htwin⟩ := DigitalTwin.create_eq_ok_iff.1 hmade
  obtain ⟨instance', hcore⟩ := h.core_made
  obtain ⟨twin, core⟩ := node
  dsimp only at htwin hcore
  obtain rfl := htwin
  -- The constructor hands the executor and the pins to the core.
  have hshared : core.motion = motion ∧ core.gpioBsp = some {} := by
    unfold makeRemoteCore at hcore
    split at hcore
    · cases hcore
    split at hcore
    · cases hcore
    obtain ⟨-, rfl⟩ := Prod.mk.inj (Except.ok.inj hcore)
    exact ⟨rfl, rfl⟩
  rw [List.forM_ok_iff] at hevents
  refine ⟨rfl, rfl, Nat.zero_le _, rfl, fun pin => rfl, hshared.1, hshared.2,
    fun event hmem => ⟨hevents event hmem, fun haction => ?_⟩, fun executor hexecutor => ?_⟩
  · -- The constructor has checked that the resource is an axis.
    have hcheck := hevents event hmem
    unfold BoardManifest.checkEvent at hcheck
    rw [haction] at hcheck
    dsimp only at hcheck
    cases hrequire : manifest.requireResource event.resourceId .stepgenAxis with
    | error e =>
      rw [hrequire] at hcheck
      cases hcheck
    | ok resource => exact hsound.findConfig_isSome hrequire
  -- A new executor stands at time zero.
  · obtain rfl : motion = some executor := hexecutor
    unfold BoardManifest.makeExecutor at hmotion
    split at hmotion
    · cases hmotion
    obtain ⟨made, hcreate, hmade⟩ : ∃ made, MotionExecutor.create sort manifest.motionAxes
        manifest.motionQueueCapacity 1000000 = .ok made ∧ some made = some executor := by
      cases hcreate : MotionExecutor.create sort manifest.motionAxes manifest.motionQueueCapacity
          1000000 with
      | error e =>
        rw [hcreate] at hmotion
        cases hmotion
      | ok made =>
        rw [hcreate] at hmotion
        exact ⟨made, rfl, Except.ok.inj hmotion⟩
    obtain rfl := Option.some.inj hmade
    have hstanding := MotionExecutor.standing_create hcreate
    have hzero := hstanding.now_eq
    refine ⟨hzero.symm ▸ hstanding, fun event _ => ?_⟩
    rw [hzero]
    exact Nat.zero_le _

/-- A twin and its node after any run. -/
theorem Serves.run (h : Serves manifest scenario board node) (ops : List TwinOp) :
    Running manifest scenario ((twinMachine board).run node ops) :=
  (twinMachine board).run_induction (P := Running manifest scenario)
    (fun _ op hrunning => hrunning.step h.sorted op) h.running ops

/-- The board with two pins and two axes serves, with its scenario. What is found by running it is
so. -/
theorem exists_serves_bench (found : Board → TwinNode → Bool)
    (h : (makeBench.map fun made => found made.1 made.2) = .ok true) :
    ∃ board node, Serves benchManifest benchScenario board node ∧ found board node = true := by
  obtain ⟨board, node, htwin, hcore, hfound⟩ := exists_bench found h
  exact ⟨board, node, ⟨⟨_, load_benchText⟩, .inr ⟨_, load_benchScenarioText⟩, ⟨_, htwin⟩, 1, hcore⟩,
    hfound⟩

/-- A client configures the first pin as an output and queues a segment for both axes. -/
def benchOps : List TwinOp := [.handle benchPin 0, .handle benchSegment 1]

/-- Whatever is asked of a twin and its node, the events of the scenario happen in their order:
after any run, the first ones have happened, and have left the node online or offline and the levels
on the pins as they say. A call of `advance_to` lets some more of them happen, none of which is in
the future, and if it returns, then it tells how many they are and all the others are in the
future. -/
theorem events_happen_in_order (h : Serves manifest scenario board node) (ops : List TwinOp)
    (hrun : (twinMachine board).run node ops = later) :
    later.twin.nextEventIndex ≤ scenario.events.length ∧
      later.twin.online = onlineAfter true (scenario.events.take later.twin.nextEventIndex) ∧
      (∀ pin, later.twin.gpio.pendingInputValues.lookup pin =
        levelAfter manifest pin none (scenario.events.take later.twin.nextEventIndex)) ∧
      ∀ elapsedMs, ∃ n,
        (later.twin.advanceTo elapsedMs).2.nextEventIndex = later.twin.nextEventIndex + n ∧
        (∀ event ∈ (scenario.events.drop later.twin.nextEventIndex).take n,
          event.atMs ≤ elapsedMs) ∧
        ∀ applied, (later.twin.advanceTo elapsedMs).1 = .ok applied → applied = n ∧
          ∀ event ∈ (scenario.events.drop later.twin.nextEventIndex).drop n,
            elapsedMs < event.atMs := by
  have hrunning := h.run ops
  rw [hrun] at hrunning
  refine ⟨hrunning.index_le, hrunning.online_eq, hrunning.level_eq, fun elapsedMs => ?_⟩
  obtain ⟨n, hindex, hdone, hall, -⟩ := hrunning.advanceTo h.sorted elapsedMs
  exact ⟨n, hindex, hdone, hall⟩

/-- After 4 ms the second pin has its level, which does not matter to the client that has an output
and moves the axes, and what is left of the scenario lies ahead. 6 ms later the axes have been
stopped and the node is offline, whatever another client asks for in the meantime. -/
theorem events_happen_in_order_bench : ∃ board node, Serves benchManifest benchScenario board node ∧
    ∃ early late,
      (twinMachine board).run node (benchOps ++ [.advanceTo 4]) = early ∧
      (twinMachine board).run node
        (benchOps ++ [.advanceTo 4, .handle benchAsk 2, .takeMotionEdges, .advanceTo 10]) = late ∧
      (early.twin.nextEventIndex = 1 ∧ late.twin.nextEventIndex = 3) ∧
      (early.twin.online = onlineAfter true (benchScenario.events.take 1) ∧
        late.twin.online = onlineAfter true (benchScenario.events.take 3)) ∧
      (early.twin.gpio.pendingInputValues.lookup 1 =
          levelAfter benchManifest 1 none (benchScenario.events.take 1) ∧
        late.twin.gpio.pendingInputValues.lookup 0 =
          levelAfter benchManifest 0 none (benchScenario.events.take 3)) ∧
      ∃ n, (early.twin.advanceTo 10).2.nextEventIndex = 1 + n ∧
        (∀ event ∈ (benchScenario.events.drop 1).take n, event.atMs ≤ 10) ∧
        ∀ applied, (early.twin.advanceTo 10).1 = .ok applied → applied = n ∧
          ∀ event ∈ (benchScenario.events.drop 1).drop n, 10 < event.atMs := by
  obtain ⟨board, node, h, hfound⟩ := exists_serves_bench (fun board node =>
    decide (((twinMachine board).run node (benchOps ++ [.advanceTo 4])).twin.nextEventIndex = 1 ∧
      ((twinMachine board).run node (benchOps ++ [.advanceTo 4, .handle benchAsk 2,
        .takeMotionEdges, .advanceTo 10])).twin.nextEventIndex = 3)) (by decide +kernel)
  obtain ⟨hearly, hlate⟩ := of_decide_eq_true hfound
  obtain ⟨-, honline, hlevel, hnext⟩ :=
    events_happen_in_order h (benchOps ++ [.advanceTo 4]) rfl
  obtain ⟨-, honline', hlevel', -⟩ := events_happen_in_order h
    (benchOps ++ [.advanceTo 4, .handle benchAsk 2, .takeMotionEdges, .advanceTo 10]) rfl
  rw [hearly] at honline hlevel hnext
  rw [hlate] at honline' hlevel'
  exact ⟨board, node, h, _, _, rfl, rfl, ⟨hearly, hlate⟩, ⟨honline, honline'⟩,
    ⟨hlevel 1, hlevel' 0⟩, hnext 10⟩

/-- A call of `advance_to` returns if no event that is due sets the level of a pin that has been
configured as an output, if at most one of them is a limit switch, and only of an executor without a
fault, and if the clock of the executor is not past the time, which must not overflow. -/
theorem Running.advance_ok_iff (h : Running manifest scenario node)
    (hsorted : scenario.events.Pairwise fun event later => event.atMs ≤ later.atMs)
    (elapsedMs : UInt64) :
    (∃ applied, (node.twin.advanceTo elapsedMs).1 = .ok applied) ↔
      node.twin.CanReach elapsedMs ∧
        node.twin.SparesOutputs
          (due elapsedMs (scenario.events.drop node.twin.nextEventIndex)) ∧
        node.twin.StopsOnce (due elapsedMs (scenario.events.drop node.twin.nextEventIndex)) := by
  have hfits : ∀ event ∈ scenario.events.drop node.twin.nextEventIndex,
      DigitalTwin.Fits manifest.motionAxes node.twin event :=
    fun event hmem => h.fits event (List.mem_of_mem_drop hmem)
  have hsorted' := hsorted.sublist (List.drop_sublist node.twin.nextEventIndex _)
  constructor
  · rintro ⟨applied, happlied⟩
    obtain ⟨middle, hdue, hreach, -⟩ :=
      advanceTo_eq_ok_iff.1 (Prod.ext happlied rfl : node.twin.advanceTo elapsedMs = (_, _))
    rw [h.scenario_eq] at hdue
    have hcan := (canReach_applyDue hfits hsorted' h.paced hdue).1 hreach
    refine ⟨hcan, (applyDue_ok_iff hfits hsorted' h.paced fun hsome => ?_).1
      ⟨applied, congrArg Prod.fst hdue⟩⟩
    obtain ⟨motion, hmotion⟩ := Option.isSome_iff_exists.1 hsome
    exact (hcan motion hmotion).1
  · rintro ⟨hcan, hevents⟩
    obtain ⟨applied, happlied⟩ := (applyDue_ok_iff hfits hsorted' h.paced fun hsome => by
      obtain ⟨motion, hmotion⟩ := Option.isSome_iff_exists.1 hsome
      exact (hcan motion hmotion).1).2 hevents
    rcases hdue : applyDue elapsedMs (scenario.events.drop node.twin.nextEventIndex) node.twin with
      ⟨result, middle⟩
    rw [hdue] at happlied
    obtain rfl : result = .ok applied := happlied
    have hreach := (canReach_applyDue hfits hsorted' h.paced hdue).2 hcan
    rw [← h.scenario_eq] at hdue
    exact ⟨applied, congrArg Prod.fst (advanceTo_eq_ok_iff.2 ⟨middle, hdue, hreach, rfl⟩)⟩

/-- In any state that a twin and its node get into, whatever is asked of them, a call of
`advance_to` returns exactly if no event that is due sets the level of a pin that a client has
configured as an output, if at most one of them is a limit switch, and only of an executor without a
fault, and if the clock of the executor is not past the time, which must not overflow. -/
theorem advance_succeeds_iff (h : Serves manifest scenario board node) (ops : List TwinOp)
    (hrun : (twinMachine board).run node ops = later) (elapsedMs : UInt64) :
    (∃ applied, (later.step board (.advanceTo elapsedMs)).2 = .advanced (.ok applied)) ↔
      later.twin.CanReach elapsedMs ∧
        later.twin.SparesOutputs
          (due elapsedMs (scenario.events.drop later.twin.nextEventIndex)) ∧
        later.twin.StopsOnce (due elapsedMs (scenario.events.drop later.twin.nextEventIndex)) := by
  have hrunning := h.run ops
  rw [hrun] at hrunning
  rw [← hrunning.advance_ok_iff h.sorted elapsedMs]
  exact exists_congr fun applied => TwinOutcome.advanced.injEq _ _ ▸ Iff.rfl

/-- The client has the first pin as an output and not the second one, and has queued a segment. -/
def BenchUsed (twin : DigitalTwin) : Prop :=
  twin.manifest = benchManifest ∧ twin.nextEventIndex = 0 ∧
    twin.gpio.pins.lookup 0 = some ⟨.output, false⟩ ∧ twin.gpio.pins.lookup 1 = none ∧
    twin.motion.map (fun motion => (motion.queue.length, motion.fault, motion.nowNs)) =
      some (1, .none, 0)

/-- Whether this is so can be computed. -/
instance (twin : DigitalTwin) : Decidable (BenchUsed twin) :=
  inferInstanceAs (Decidable (_ ∧ _ ∧ _ ∧ _ ∧ _))

/-- The board can advance past the level of the pin that is no output, the limit switch and the
outage, but not past the level of the pin that a client has configured as an output. -/
theorem advance_succeeds_bench : ∃ board node, Serves benchManifest benchScenario board node ∧
    BenchUsed ((twinMachine board).run node benchOps).twin ∧
    (∃ applied, (((twinMachine board).run node benchOps).step board (.advanceTo 10)).2 =
      .advanced (.ok applied)) ∧
    ¬∃ applied, (((twinMachine board).run node benchOps).step board (.advanceTo 12)).2 =
      .advanced (.ok applied) := by
  obtain ⟨board, node, h, hfound⟩ := exists_serves_bench (fun board node =>
    decide (BenchUsed ((twinMachine board).run node benchOps).twin)) (by decide +kernel)
  obtain ⟨hmanifest, hindex, houtput, hinput, hexecutor⟩ := of_decide_eq_true hfound
  have hsecond : ∀ event ∈ due 10 (benchScenario.events.drop 0), event.action = .setGpioInput →
      benchManifest.pinOf event.resourceId = some 1 := by decide
  have hten := advance_succeeds_iff h benchOps rfl 10
  have htwelve := advance_succeeds_iff h benchOps rfl 12
  rw [hindex] at hten htwelve
  refine ⟨board, node, h, of_decide_eq_true hfound, hten.2 ⟨fun motion hmotion => ?_,
    fun event hmem haction pin hpin => ?_, by decide, fun _ motion hmotion => ?_⟩,
    fun hreturn => ?_⟩
  · rw [hmotion, Option.map_some, Option.some.injEq] at hexecutor
    have hnow : motion.nowNs = 0 := congrArg (fun found => found.2.2) hexecutor
    rw [hnow]
    decide
  · rw [hmanifest] at hpin
    have hone : pin = 1 := Option.some.inj (hpin.symm.trans (hsecond event hmem haction))
    rintro ⟨state, hstate, -⟩
    rw [hone, hinput] at hstate
    cases hstate
  · rw [hmotion, Option.map_some, Option.some.injEq] at hexecutor
    exact congrArg (fun found => found.2.1) hexecutor
  · -- The last event that is due sets the level of the output.
    obtain ⟨-, hspares, -⟩ := htwelve.1 hreturn
    refine hspares ⟨12, .setGpioInput, 0x01000000, true⟩ (by decide) rfl 0 ?_ ⟨_, houtput, rfl⟩
    rw [hmanifest]
    rfl

end RemoteBSP.MockMcu
