import RemoteBSP.MockMcu.LimitSwitch
import RemoteBSP.MockMcu.ManifestLoading

/-!
# The events of a scenario

What one event of a scenario does to a twin (`EventEffect`): it sets a port, the level of a pin or
whether the node is online, or it stops the executor. Two kinds of events can be refused: a level
for a pin that is an output, and a limit switch of an executor that has a fault already or is past
the time.

The loop of `advance_to` over the events takes them one by one. `applyDue_ok_iff` says when it gets
through, and `applyDue_spec` what is left when it stops.
-/

namespace RemoteBSP.MockMcu

/-! ## The pins -/

namespace MockGpioBsp

variable {bsp bsp' : MockGpioBsp} {pin pin' : UInt16} {value : Bool}

/-- The pin has been configured as an output. -/
def IsOutput (bsp : MockGpioBsp) (pin : UInt16) : Prop :=
  ∃ state, bsp.pins.lookup pin = some state ∧ state.direction = .output

/-- A level can be set on all pins but the outputs. -/
theorem setInputValue_ok_iff :
    (∃ bsp', bsp.setInputValue pin value = .ok bsp') ↔ ¬bsp.IsOutput pin := by
  unfold setInputValue IsOutput
  cases bsp.pins.lookup pin with
  | none => simp
  | some state =>
    obtain ⟨direction, level⟩ := state
    cases direction <;> simp

/-- Setting a level does not make an output of a pin, nor of an output something else. -/
theorem isOutput_setInputValue (h : bsp.setInputValue pin value = .ok bsp') :
    bsp'.IsOutput pin' ↔ bsp.IsOutput pin' := by
  unfold setInputValue at h
  unfold IsOutput
  split at h
  · obtain rfl := Except.ok.inj h
    rfl
  · next state hlookup =>
    split at h
    · cases h
    · obtain rfl := Except.ok.inj h
      by_cases hpin : pin' = pin
      · rw [hpin, AList.lookup_insert, hlookup]
        simp
      · rw [AList.lookup_insert_ne hpin]

/-- The level is kept for a pin that is configured later. -/
theorem pending_setInputValue (h : bsp.setInputValue pin value = .ok bsp') :
    bsp'.pendingInputValues.lookup pin' =
      if pin = pin' then some value else bsp.pendingInputValues.lookup pin' := by
  have hpending : bsp'.pendingInputValues = bsp.pendingInputValues.insert pin value := by
    unfold setInputValue at h
    split at h
    · exact (Except.ok.inj h) ▸ rfl
    · split at h
      · cases h
      · exact (Except.ok.inj h) ▸ rfl
  rw [hpending, Map.lookup_insert_ite]
  exact if_congr eq_comm rfl rfl

end MockGpioBsp

/-! ## One event -/

/-- The pin that the manifest gives to a resource. -/
def BoardManifest.pinOf (manifest : BoardManifest) (resourceId : UInt32) : Option UInt16 :=
  (manifest.findResource resourceId).map ResourceDescriptor.instance'

/-- The time of an event on the clock of the executor. -/
def FaultEvent.atNs (event : FaultEvent) : UInt64 := event.atMs * 1000000

/-- The time of an event in nanoseconds may wrap, and is then even less. -/
theorem FaultEvent.atNs_le (event : FaultEvent) :
    event.atNs.toNat ≤ event.atMs.toNat * 1000000 := by
  unfold FaultEvent.atNs
  simp only [UInt64.toNat_mul, UInt64.reduceToNat]
  exact Nat.mod_le _ _

/-- An event passes the check of the constructor. -/
def BoardManifest.Admits (manifest : BoardManifest) (motion : Option MotionExecutor)
    (event : FaultEvent) : Prop := manifest.checkEvent motion event = .ok ()

variable {manifest : BoardManifest} {scenario : FaultScenario}
  {motion motion' : Option MotionExecutor} {twin twin' : DigitalTwin} {event : FaultEvent}
  {events : List FaultEvent} {elapsedMs : UInt64}

/-- The check only wants to know whether there is an executor. -/
theorem BoardManifest.Admits.congr (h : manifest.Admits motion event)
    (hmotion : motion'.isSome = motion.isSome) : manifest.Admits motion' event := by
  unfold Admits checkEvent at h ⊢
  rwa [← Option.not_isSome, hmotion, Option.not_isSome]

/-- `require_resource` finds the resources of a type. -/
theorem requireResource_eq_ok_iff {resourceId : UInt32} {type : ResourceType}
    {resource : ResourceDescriptor} : manifest.requireResource resourceId type = .ok resource ↔
      manifest.findResource resourceId = some resource ∧ resource.type = type := by
  unfold BoardManifest.requireResource
  cases manifest.findResource resourceId with
  | none => simp
  | some found =>
    dsimp only
    split
    · next hne =>
      refine ⟨fun h => (by cases h), fun h => ?_⟩
      exact absurd (Option.some.inj h.1 ▸ h.2) hne
    · next heq =>
      rw [Except.ok.injEq, Option.some.injEq]
      refine ⟨fun h => ⟨h, h ▸ not_not.1 heq⟩, fun h => h.1⟩

namespace DigitalTwin

/-- What an event does to a twin. -/
inductive EventEffect (twin : DigitalTwin) (event : FaultEvent) :
    Except TwinException Unit × DigitalTwin → Prop
  /-- A port fails, or works again. -/
  | port (haction : event.action = .setUartFailed) (uart : MockUartBsp) :
      EventEffect twin event (.ok (), { twin with uart := uart })
  /-- The event has put another level on an input pin. -/
  | pin (haction : event.action = .setGpioInput) {pin : UInt16} {gpio : MockGpioBsp}
      (hpin : twin.manifest.pinOf event.resourceId = some pin)
      (hset : twin.gpio.setInputValue pin event.value = .ok gpio) :
      EventEffect twin event (.ok (), { twin with gpio := gpio })
  /-- The event has named an output pin, which the driver refuses. -/
  | output (haction : event.action = .setGpioInput) {pin : UInt16} (e : MockGpioException)
      (hpin : twin.manifest.pinOf event.resourceId = some pin) (houtput : twin.gpio.IsOutput pin) :
      EventEffect twin event (.error (.gpio e), twin)
  /-- The event has stopped the executor through a limit switch. -/
  | limit (haction : event.action = .triggerMotionLimit) {motion stopped : MotionExecutor}
      {edges : List MotionEdge} (hmotion : twin.motion = some motion)
      (htrigger : motion.triggerLimit event.resourceId event.atNs = (.ok edges, stopped)) :
      EventEffect twin event (.ok (), twin.moved stopped edges)
  /-- The executor refuses to be stopped. -/
  | refused (haction : event.action = .triggerMotionLimit) {motion counted : MotionExecutor}
      {e : MotionException} (hmotion : twin.motion = some motion)
      (htrigger : motion.triggerLimit event.resourceId event.atNs = (.error e, counted)) :
      EventEffect twin event (.error (.motion e), { twin with motion := some counted })
  /-- The node goes offline, or comes back. -/
  | online (haction : event.action = .setNodeOnline) :
      EventEffect twin event (.ok (), { twin with online := event.value })

/-- What an event that the constructor has let through does. -/
theorem apply_effect (h : twin.manifest.Admits twin.motion event) :
    EventEffect twin event (twin.apply event) := by
  unfold BoardManifest.Admits BoardManifest.checkEvent at h
  unfold apply
  generalize haction : event.action = action at h
  -- The constructor has checked that the board has the resource that the event names.
  cases action with
  | setUartFailed =>
    dsimp only
    split
    · next e hrequire =>
      rw [hrequire] at h
      cases h
    · exact .port haction _
  | setGpioInput =>
    dsimp only
    split
    · next e hrequire =>
      rw [hrequire] at h
      cases h
    · next resource hrequire =>
      obtain ⟨hfind, -⟩ := requireResource_eq_ok_iff.1 hrequire
      have hpin : twin.manifest.pinOf event.resourceId = some resource.instance' := by
        unfold BoardManifest.pinOf
        rw [hfind]
        rfl
      -- The driver accepts a level for an input, and refuses it for an output.
      split
      · next e hset =>
        refine .output haction e hpin (not_not.1 fun hinput => ?_)
        obtain ⟨bsp, hbsp⟩ := MockGpioBsp.setInputValue_ok_iff.2 hinput
        rw [hbsp] at hset
        cases hset
      · next gpio hset => exact .pin haction hpin hset
  | triggerMotionLimit =>
    dsimp only at h ⊢
    cases hmotion : twin.motion with
    | none =>
      rw [hmotion] at h
      split at h
      · cases h
      · cases h
    | some motion =>
      -- The executor throws if the catch-up of its abort would overflow.
      dsimp only
      split
      · next htrigger => exact .refused haction hmotion htrigger
      · next htrigger => exact .limit haction hmotion htrigger
  | setNodeOnline => exact .online haction

/-! ## The loop over the events -/

/-- The loop takes an event that is due. -/
theorem applyDue_of_ok {rest : List FaultEvent} (hdue : event.atMs ≤ elapsedMs)
    (happly : twin.apply event = (.ok (), twin')) :
    applyDue elapsedMs (event :: rest) twin =
      ((applyDue elapsedMs rest twin'.next).1.map (· + 1),
        (applyDue elapsedMs rest twin'.next).2) := by
  rw [applyDue, if_pos hdue, happly]

/-- The loop ends with an exception. -/
theorem applyDue_of_error {rest : List FaultEvent} {e : TwinException}
    (hdue : event.atMs ≤ elapsedMs) (happly : twin.apply event = (.error e, twin')) :
    applyDue elapsedMs (event :: rest) twin = (.error e, twin') := by
  rw [applyDue, if_pos hdue, happly]

/-- The loop ends at an event that is not due. -/
theorem applyDue_of_later {rest : List FaultEvent} (hdue : ¬event.atMs ≤ elapsedMs) :
    applyDue elapsedMs (event :: rest) twin = (.ok 0, twin) := by
  rw [applyDue, if_neg hdue]

/-- The events whose time has come, from the first one on. -/
def due (elapsedMs : UInt64) (events : List FaultEvent) : List FaultEvent :=
  events.takeWhile fun event => event.atMs ≤ elapsedMs

/-- The events that stop the executor. -/
def limits (events : List FaultEvent) : List FaultEvent :=
  events.filter fun event => event.action = .triggerMotionLimit

/-- Whether the node is online after events. -/
def onlineAfter (online : Bool) (events : List FaultEvent) : Bool :=
  events.foldl (fun online event =>
    if event.action = .setNodeOnline then event.value else online) online

/-- The level set on a pin after events. -/
def levelAfter (manifest : BoardManifest) (pin : UInt16) (level : Option Bool)
    (events : List FaultEvent) : Option Bool :=
  events.foldl (fun level event =>
    if event.action = .setGpioInput ∧ manifest.pinOf event.resourceId = some pin then
      some event.value
    else level) level

/-- Events have happened to a twin. -/
structure Happened (events : List FaultEvent) (twin twin' : DigitalTwin) : Prop where
  /-- The events do not change what the board has. -/
  manifest_eq : twin'.manifest = twin.manifest
  /-- The events do not change what is still to happen. -/
  scenario_eq : twin'.scenario = twin.scenario
  /-- There still is an executor, or there still is none. -/
  isSome_motion : twin'.motion.isSome = twin.motion.isSome
  /-- Each event has been counted once. -/
  index_eq : twin'.nextEventIndex = twin.nextEventIndex + events.length
  /-- The node is online unless the events have taken it offline. -/
  online_eq : twin'.online = onlineAfter twin.online events
  /-- The levels are those that the events have set. -/
  level_eq : ∀ pin, twin'.gpio.pendingInputValues.lookup pin =
    levelAfter twin.manifest pin (twin.gpio.pendingInputValues.lookup pin) events

/-- A twin without an event has only gone on in time. -/
theorem Happened.nil (hmanifest : twin'.manifest = twin.manifest)
    (hscenario : twin'.scenario = twin.scenario)
    (hmotion : twin'.motion.isSome = twin.motion.isSome)
    (hindex : twin'.nextEventIndex = twin.nextEventIndex) (honline : twin'.online = twin.online)
    (hgpio : twin'.gpio.pendingInputValues = twin.gpio.pendingInputValues) :
    Happened [] twin twin' :=
  ⟨hmanifest, hscenario, hmotion, hindex, honline, fun _ => by rw [hgpio]; rfl⟩

/-- Nothing has happened to the same twin. -/
theorem Happened.refl (twin : DigitalTwin) : Happened [] twin twin :=
  .nil rfl rfl rfl rfl rfl rfl

/-- One event, and those behind it. -/
theorem Happened.cons {middle : DigitalTwin} (heffect : EventEffect twin event (.ok (), middle))
    (h : Happened events middle.next twin') : Happened (event :: events) twin twin' := by
  -- The event has been counted.
  have hindex : middle.next.nextEventIndex + events.length =
      middle.nextEventIndex + (event :: events).length := by
    rw [List.length_cons, Nat.add_comm events.length, ← Nat.add_assoc]
    rfl
  cases heffect with
  | port haction uart =>
    refine ⟨h.manifest_eq, h.scenario_eq, h.isSome_motion, h.index_eq.trans hindex, ?_, ?_⟩
    · rw [h.online_eq, onlineAfter, onlineAfter, List.foldl_cons, if_neg (by simp [haction])]
      rfl
    · intro pin
      rw [h.level_eq, levelAfter, levelAfter, List.foldl_cons, if_neg (by simp [haction])]
      rfl
  -- A pin gets its level, and keeps it as long as no later event sets another one.
  | pin haction hpin hset =>
    refine ⟨h.manifest_eq, h.scenario_eq, h.isSome_motion, h.index_eq.trans hindex, ?_, ?_⟩
    · rw [h.online_eq, onlineAfter, onlineAfter, List.foldl_cons, if_neg (by simp [haction])]
      rfl
    · intro pin'
      rw [h.level_eq, levelAfter, levelAfter, List.foldl_cons, hpin]
      refine congrArg (fun level => List.foldl _ level events) ?_
      refine (MockGpioBsp.pending_setInputValue hset).trans ?_
      exact if_congr (by simp [haction]) rfl rfl
  | limit haction hmotion htrigger =>
    refine ⟨h.manifest_eq, h.scenario_eq, h.isSome_motion.trans (by rw [hmotion]; rfl),
      h.index_eq.trans hindex, ?_, ?_⟩
    · rw [h.online_eq, onlineAfter, onlineAfter, List.foldl_cons, if_neg (by simp [haction])]
      rfl
    · intro pin
      rw [h.level_eq, levelAfter, levelAfter, List.foldl_cons, if_neg (by simp [haction])]
      rfl
  | online haction =>
    refine ⟨h.manifest_eq, h.scenario_eq, h.isSome_motion, h.index_eq.trans hindex, ?_, ?_⟩
    · rw [h.online_eq, onlineAfter, onlineAfter, List.foldl_cons, if_pos haction]
      rfl
    · intro pin
      rw [h.level_eq, levelAfter, levelAfter, List.foldl_cons, if_neg (by simp [haction])]
      rfl

/-- An event that is refused has not happened. -/
theorem Happened.of_error {e : TwinException} (heffect : EventEffect twin event (.error e, twin')) :
    Happened [] twin twin' := by
  cases heffect with
  | output => exact .refl twin
  | refused _ hmotion _ => exact .nil rfl rfl (by rw [hmotion]; rfl) rfl rfl rfl

/-- The axes that the twin is made with have the axis of an event, and the constructor has let the
event through. -/
structure Fits (configs : List MotionAxisConfig) (twin : DigitalTwin) (event : FaultEvent) :
    Prop where
  /-- The event names what the board has, as the constructor demands. -/
  admits : twin.manifest.Admits twin.motion event
  /-- The axis of a limit switch. -/
  axis : event.action = .triggerMotionLimit → (findConfig configs event.resourceId).isSome

/-- The executor of a twin stands at a time that none of the events comes before. -/
def Paced (configs : List MotionAxisConfig) (twin : DigitalTwin) (events : List FaultEvent) :
    Prop :=
  ∀ motion ∈ twin.motion, motion.Standing configs motion.nowNs ∧
    ∀ event ∈ events, motion.nowNs.toNat ≤ event.atMs.toNat * 1000000

variable {configs : List MotionAxisConfig}

/-- An event fits when others have happened. -/
theorem Fits.congr (h : Fits configs twin event) (hmanifest : twin'.manifest = twin.manifest)
    (hmotion : twin'.motion.isSome = twin.motion.isSome) : Fits configs twin' event :=
  ⟨hmanifest ▸ h.admits.congr hmotion, h.axis⟩

/-- The clock is not ahead of fewer events. -/
theorem Paced.mono {others : List FaultEvent} (h : Paced configs twin events)
    (hsub : ∀ event ∈ others, event ∈ events) : Paced configs twin others :=
  fun motion hmotion => ⟨(h motion hmotion).1, fun event hmem =>
    (h motion hmotion).2 event (hsub event hmem)⟩

/-- What is left of the events behind one of them is not before the clock, whether it has happened
or not. -/
theorem Paced.effect {result : Except TwinException Unit}
    (h : Paced configs twin (event :: events)) (hfits : Fits configs twin event)
    (hsorted : ∀ later ∈ events, event.atMs ≤ later.atMs)
    (heffect : EventEffect twin event (result, twin')) :
    Paced configs twin' events ∧
      (∀ e, result = .error e → Paced configs twin' (event :: events)) := by
  have hrest : Paced configs twin events := h.mono fun later => List.mem_cons_of_mem event
  cases heffect with
  | port => exact ⟨hrest, fun e he => by cases he⟩
  | pin => exact ⟨hrest, fun e he => by cases he⟩
  | output => exact ⟨hrest, fun _ _ => h⟩
  | online => exact ⟨hrest, fun e he => by cases he⟩
  | @limit _ motion stopped edges hmotion htrigger =>
    refine ⟨fun motion' hmotion' => ?_, fun e he => by cases he⟩
    obtain rfl := Option.some.inj hmotion'
    obtain ⟨-, hstopped, -⟩ := (h motion hmotion).1.of_triggerLimit_ok (hfits.axis ‹_›) htrigger
    refine ⟨hstopped.now_eq.symm ▸ hstopped, fun later hmem => ?_⟩
    calc stopped.nowNs.toNat
        = event.atNs.toNat := by rw [hstopped.now_eq]
      _ ≤ event.atMs.toNat * 1000000 := event.atNs_le
      _ ≤ later.atMs.toNat * 1000000 :=
        Nat.mul_le_mul_right _ (UInt64.le_iff_toNat_le.1 (hsorted later hmem))
  | @refused _ motion counted e hmotion htrigger =>
    obtain ⟨-, hcounted⟩ := (h motion hmotion).1.of_triggerLimit_error (hfits.axis ‹_›) htrigger
    have hpaced : Paced configs { twin with motion := some counted } (event :: events) := by
      intro motion' hmotion'
      obtain rfl := Option.some.inj hmotion'
      rw [hcounted]
      exact ⟨(h motion hmotion).1.countLimit, (h motion hmotion).2⟩
    exact ⟨hpaced.mono fun later => List.mem_cons_of_mem event, fun _ _ => hpaced⟩

/-- What the loop does: some events happen, all of them due, and the first one that has not happened
is not due, unless there is an exception. -/
theorem applyDue_spec (elapsedMs : UInt64) (hfits : ∀ event ∈ events, Fits configs twin event)
    (hsorted : events.Pairwise fun event later => event.atMs ≤ later.atMs)
    (hpaced : Paced configs twin events) :
    ∃ n ≤ events.length, Happened (events.take n) twin (applyDue elapsedMs events twin).2 ∧
      Paced configs (applyDue elapsedMs events twin).2 (events.drop n) ∧
      (∀ event ∈ events.take n, event.atMs ≤ elapsedMs) ∧
      ∀ applied, (applyDue elapsedMs events twin).1 = .ok applied →
        applied = n ∧ ∀ event ∈ events.drop n, elapsedMs < event.atMs := by
  induction events generalizing twin with
  | nil =>
    exact ⟨0, le_rfl, .refl twin, hpaced, List.forall_mem_nil _,
      fun applied h => ⟨(Except.ok.inj h).symm, List.forall_mem_nil _⟩⟩
  | cons event rest ih =>
    obtain ⟨hfirst, hrest⟩ := List.pairwise_cons.1 hsorted
    by_cases hdue : event.atMs ≤ elapsedMs
    · have heffect := apply_effect (hfits event List.mem_cons_self).admits
      rcases hresult : twin.apply event with ⟨result, middle⟩
      rw [hresult] at heffect
      obtain ⟨hafter, hrefused⟩ := hpaced.effect (hfits event List.mem_cons_self) hfirst heffect
      cases result with
      | error e =>
        -- The event stays for the next call.
        rw [applyDue_of_error hdue hresult]
        exact ⟨0, Nat.zero_le _, .of_error heffect, hrefused e rfl, List.forall_mem_nil _,
          fun applied h => by cases h⟩
      | ok =>
        have hone : Happened [event] twin middle.next := .cons heffect (.refl _)
        obtain ⟨n, hn, hhappened, hpaced', hdone, hall⟩ := @ih middle.next
          (fun later hmem => (hfits later (List.mem_cons_of_mem _ hmem)).congr hone.manifest_eq
            hone.isSome_motion) hrest hafter
        rw [applyDue_of_ok hdue hresult]
        refine ⟨n + 1, Nat.succ_le_succ hn, .cons heffect hhappened, hpaced',
          List.forall_mem_cons.2 ⟨hdue, hdone⟩, fun applied h => ?_⟩
        cases happlied : (applyDue elapsedMs rest middle.next).1 with
        | error e =>
          rw [happlied] at h
          cases h
        | ok k =>
          rw [happlied] at h
          obtain ⟨rfl, hlater⟩ := hall k happlied
          exact ⟨(Except.ok.inj h).symm, hlater⟩
    · rw [applyDue_of_later hdue]
      refine ⟨0, Nat.zero_le _, .refl twin, hpaced, List.forall_mem_nil _, fun applied h => ?_⟩
      have hlt := UInt64.not_le.1 hdue
      exact ⟨(Except.ok.inj h).symm, List.forall_mem_cons.2
        ⟨hlt, fun later hmem => UInt64.lt_of_lt_of_le hlt (hfirst later hmem)⟩⟩

/-- No event sets the level of an output. -/
def SparesOutputs (twin : DigitalTwin) (events : List FaultEvent) : Prop :=
  ∀ event ∈ events, event.action = .setGpioInput → ∀ pin,
    twin.manifest.pinOf event.resourceId = some pin → ¬twin.gpio.IsOutput pin

/-- The executor is stopped once at most, and only if it has no fault. -/
def StopsOnce (twin : DigitalTwin) (events : List FaultEvent) : Prop :=
  (limits events).length ≤ 1 ∧ (limits events ≠ [] → ∀ motion ∈ twin.motion, motion.fault = .none)

/-- The limit switches among events, of which the first one is none. -/
theorem limits_cons_of_ne (h : event.action ≠ .triggerMotionLimit) :
    limits (event :: events) = limits events := List.filter_cons_of_neg (by simp [h])

/-- The limit switches among events, of which the first one is one. -/
theorem limits_cons_of_eq (h : event.action = .triggerMotionLimit) :
    limits (event :: events) = event :: limits events :=
  List.filter_cons_of_pos (decide_eq_true h)

/-- What `SparesOutputs` and `StopsOnce` say of events, they say of the rest behind an event that
concerns neither pins nor the executor. -/
theorem spares_and_stops_cons {middle : DigitalTwin}
    (hpin : event.action ≠ .setGpioInput) (hlimit : event.action ≠ .triggerMotionLimit)
    (hmanifest : middle.manifest = twin.manifest) (hgpio : middle.gpio = twin.gpio)
    (hmotion : middle.motion = twin.motion) :
    middle.SparesOutputs events ∧ middle.StopsOnce events ↔
      twin.SparesOutputs (event :: events) ∧ twin.StopsOnce (event :: events) := by
  unfold SparesOutputs StopsOnce
  rw [limits_cons_of_ne hlimit, hmanifest, hgpio, hmotion, List.forall_mem_cons]
  exact and_congr_left fun _ => ⟨fun h => ⟨fun haction => absurd haction hpin, h⟩, fun h => h.2⟩

/-- The same behind an event that sets the level of a pin. It is not an output, and setting its
level does not change which pins are. -/
theorem spares_and_stops_pin {pin : UInt16} {gpio : MockGpioBsp}
    (haction : event.action = .setGpioInput)
    (hpin : twin.manifest.pinOf event.resourceId = some pin)
    (hset : twin.gpio.setInputValue pin event.value = .ok gpio) :
    { twin with gpio := gpio }.SparesOutputs events ∧
        { twin with gpio := gpio }.StopsOnce events ↔
      twin.SparesOutputs (event :: events) ∧ twin.StopsOnce (event :: events) := by
  have hinput : ¬twin.gpio.IsOutput pin := MockGpioBsp.setInputValue_ok_iff.1 ⟨gpio, hset⟩
  have hothers : ∀ pin', gpio.IsOutput pin' ↔ twin.gpio.IsOutput pin' := fun pin' =>
    MockGpioBsp.isOutput_setInputValue hset
  unfold SparesOutputs StopsOnce
  rw [limits_cons_of_ne (by simp [haction]), List.forall_mem_cons]
  refine and_congr_left fun _ => ⟨fun h => ⟨fun _ pin' hpin' => ?_, ?_⟩, fun h => ?_⟩
  · obtain rfl := Option.some.inj (hpin.symm.trans hpin')
    exact hinput
  · exact fun later hmem hlater pin' hpin' =>
      (hothers pin').not.1 (h later hmem hlater pin' hpin')
  · exact fun later hmem hlater pin' hpin' =>
      (hothers pin').not.2 (h.2 later hmem hlater pin' hpin')

/-- The same behind a limit switch that has stopped an executor without a fault. The executor has a
fault now, so that no other switch may follow. -/
theorem spares_and_stops_limit {motion stopped : MotionExecutor} {edges : List MotionEdge}
    (haction : event.action = .triggerMotionLimit) (hmotion : twin.motion = some motion)
    (hready : motion.fault = .none) (hfault : stopped.fault = .limitTriggered) :
    (twin.moved stopped edges).SparesOutputs events ∧ (twin.moved stopped edges).StopsOnce events ↔
      twin.SparesOutputs (event :: events) ∧ twin.StopsOnce (event :: events) := by
  unfold SparesOutputs StopsOnce
  rw [limits_cons_of_eq haction, List.forall_mem_cons]
  constructor
  · rintro ⟨hspares, -, hnone⟩
    have hnil : limits events = [] := by
      by_contra hne
      have hcleared := hnone hne stopped rfl
      rw [hfault] at hcleared
      cases hcleared
    refine ⟨⟨fun hpin => ?_, hspares⟩, ?_, fun _ motion' hmotion' => ?_⟩
    · rw [haction] at hpin
      cases hpin
    · rw [hnil]
      rfl
    · obtain rfl := Option.some.inj (hmotion.symm.trans hmotion')
      exact hready
  · rintro ⟨⟨-, hspares⟩, hlength, -⟩
    have hnil : limits events = [] := by
      rw [List.length_cons] at hlength
      exact List.length_eq_zero_iff.1 (by omega)
    exact ⟨hspares, by rw [hnil]; exact Nat.zero_le _, fun hne => absurd hnil hne⟩

/-- An event that has happened can be taken off the events, in `SparesOutputs` and `StopsOnce`. -/
theorem spares_and_stops_effect (hfit : Fits configs twin event)
    (hpaced : Paced configs twin (event :: events))
    (heffect : EventEffect twin event (.ok (), twin')) :
    twin'.SparesOutputs events ∧ twin'.StopsOnce events ↔
      twin.SparesOutputs (event :: events) ∧ twin.StopsOnce (event :: events) := by
  cases heffect with
  | port haction uart =>
    exact spares_and_stops_cons (by simp [haction]) (by simp [haction]) rfl rfl rfl
  | online haction =>
    exact spares_and_stops_cons (by simp [haction]) (by simp [haction]) rfl rfl rfl
  | pin haction hpin hset => exact spares_and_stops_pin haction hpin hset
  | limit haction hmotion htrigger =>
    obtain ⟨hready, -, hfault⟩ :=
      (hpaced _ hmotion).1.of_triggerLimit_ok (hfit.axis haction) htrigger
    exact spares_and_stops_limit haction hmotion hready.1 hfault

/-- An event that is refused sets the level of an output, or stops an executor that has a fault. It
does not come too late for the clock of the executor. -/
theorem not_spares_and_stops {e : TwinException} (hfit : Fits configs twin event)
    (hpaced : Paced configs twin (event :: events))
    (hclock : twin.motion.isSome → event.atMs.toNat * 1000000 < 2^64)
    (heffect : EventEffect twin event (.error e, twin')) :
    ¬(twin.SparesOutputs (event :: events) ∧ twin.StopsOnce (event :: events)) := by
  rintro ⟨hspares, -, hfaultless⟩
  cases heffect with
  | output haction e hpin houtput =>
    exact hspares event List.mem_cons_self haction _ hpin houtput
  | @refused haction motion counted e hmotion htrigger =>
    rw [limits_cons_of_eq haction] at hfaultless
    have hfault := hfaultless (List.cons_ne_nil _ _) motion hmotion
    have hnow : motion.nowNs ≤ event.atNs := by
      rw [UInt64.le_iff_toNat_le]
      unfold FaultEvent.atNs
      simp only [UInt64.toNat_mul, UInt64.reduceToNat]
      rw [Nat.mod_eq_of_lt (hclock (by rw [hmotion]; rfl))]
      exact (hpaced motion hmotion).2 event List.mem_cons_self
    obtain ⟨hnot, -⟩ := (hpaced motion hmotion).1.of_triggerLimit_error (hfit.axis haction) htrigger
    exact hnot ⟨hfault, hnow⟩

/-- Behind an event that happens, the loop gets through if it gets through the rest. -/
theorem applyDue_cons_ok_iff (hdue : event.atMs ≤ elapsedMs)
    (happly : twin.apply event = (.ok (), twin')) :
    (∃ applied, (applyDue elapsedMs (event :: events) twin).1 = .ok applied) ↔
      ∃ applied, (applyDue elapsedMs events twin'.next).1 = .ok applied := by
  rw [applyDue_of_ok hdue happly]
  cases (applyDue elapsedMs events twin'.next).1 with
  | error e => simp [Except.map]
  | ok n => simp [Except.map]

/-- The loop gets through if no event that is due is refused. -/
theorem applyDue_ok_iff (hfits : ∀ event ∈ events, Fits configs twin event)
    (hsorted : events.Pairwise fun event later => event.atMs ≤ later.atMs)
    (hpaced : Paced configs twin events)
    (hclock : twin.motion.isSome → elapsedMs.toNat * 1000000 < 2^64) :
    (∃ applied, (applyDue elapsedMs events twin).1 = .ok applied) ↔
      twin.SparesOutputs (due elapsedMs events) ∧ twin.StopsOnce (due elapsedMs events) := by
  induction events generalizing twin with
  | nil =>
    exact iff_of_true ⟨0, rfl⟩ ⟨List.forall_mem_nil _, Nat.zero_le _, fun h => absurd rfl h⟩
  | cons event rest ih =>
    obtain ⟨hfirst, hrest⟩ := List.pairwise_cons.1 hsorted
    by_cases hdue : event.atMs ≤ elapsedMs
    · have hcons : due elapsedMs (event :: rest) = event :: due elapsedMs rest :=
        List.takeWhile_cons_of_pos (decide_eq_true hdue)
      rw [hcons]
      have hfit := hfits event List.mem_cons_self
      have hpaced' : Paced configs twin (event :: due elapsedMs rest) :=
        hpaced.mono fun later hmem => (List.mem_cons.1 hmem).elim (fun h => h ▸ List.mem_cons_self)
          fun hmem => List.mem_cons_of_mem _ ((List.takeWhile_sublist _).mem hmem)
      have heffect := apply_effect hfit.admits
      rcases hresult : twin.apply event with ⟨result, middle⟩
      rw [hresult] at heffect
      cases result with
      | error e =>
        -- The exception ends the loop.
        rw [applyDue_of_error hdue hresult]
        refine iff_of_false (fun h => by simp at h) (not_spares_and_stops hfit hpaced' ?_ heffect)
        intro hsome
        exact lt_of_le_of_lt (Nat.mul_le_mul_right _ (UInt64.le_iff_toNat_le.1 hdue))
          (hclock hsome)
      | ok =>
        -- The loop goes on with the rest of the events, which fit the twin behind the first one.
        have hone : Happened [event] twin middle.next := .cons heffect (.refl _)
        have hloop := @ih middle.next
          (fun later hmem => (hfits later (List.mem_cons_of_mem _ hmem)).congr hone.manifest_eq
            hone.isSome_motion) hrest (hpaced.effect hfit hfirst heffect).1
          (fun hsome => hclock (hone.isSome_motion ▸ hsome))
        calc (∃ applied, (applyDue elapsedMs (event :: rest) twin).1 = .ok applied)
            ↔ ∃ applied, (applyDue elapsedMs rest middle.next).1 = .ok applied :=
              applyDue_cons_ok_iff hdue hresult
          _ ↔ middle.SparesOutputs (due elapsedMs rest) ∧
                middle.StopsOnce (due elapsedMs rest) := hloop
          _ ↔ _ := spares_and_stops_effect hfit hpaced' heffect
    · have hnil : due elapsedMs (event :: rest) = [] :=
        List.takeWhile_cons_of_neg (by simpa using hdue)
      rw [applyDue_of_later hdue, hnil]
      exact iff_of_true ⟨0, rfl⟩
        ⟨List.forall_mem_nil _, Nat.zero_le _, fun h => absurd rfl h⟩

end DigitalTwin

end RemoteBSP.MockMcu
