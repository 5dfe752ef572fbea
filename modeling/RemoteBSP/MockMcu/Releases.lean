import RemoteBSP.MockMcu.Handlers

/-!
# The ends of leases

What `releaseResourceObjects` and the loops around it leave of the leases and the objects
(`holds_endLeases`, `gpioObjects_releaseAll`), what they leave alone of pins and ports
(`pinView_releaseAll`), and what they bring about: the outputs of an owner whose lease has ended are
low, and its ports are reset (`pinLowered_releaseAll`, `portCleared_releaseAll`), if the calls of
the pins and ports succeed.
-/

namespace RemoteBSP.MockMcu

namespace RemoteCore

/-- A lease stands in the core for a resource. -/
def Holds (core : RemoteCore) (resourceId : UInt32) (lease : Lease) : Prop :=
  ∃ entries, core.leases.lookup resourceId = some entries ∧ lease ∈ entries

/-- What the board knows of a pin. -/
def pinView (core : RemoteCore) (pin : UInt16) : Option (Option PinState × Option Bool) :=
  core.gpioBsp.map fun bsp => bsp.pinView pin

/-- What the board knows of a port. -/
def portView (core : RemoteCore) (port : UInt8) : Option (Option PortState) :=
  core.uartBsp.map fun bsp => bsp.ports.lookup port

/-- The driver accepts a level for the pin. -/
def PinWritable (core : RemoteCore) (pin : UInt16) : Prop :=
  ∃ bsp, core.gpioBsp = some bsp ∧ ∃ bsp', bsp.write pin false = .ok bsp'

/-- The pin is an output and its level is low. -/
def PinLowered (core : RemoteCore) (pin : UInt16) : Prop :=
  ∃ bsp, core.gpioBsp = some bsp ∧ bsp.PinLow pin

/-- The driver knows the port, so that it can be reset. -/
def PortResettable (core : RemoteCore) (port : UInt8) : Prop :=
  ∃ bsp, core.uartBsp = some bsp ∧ ∃ bsp', bsp.reset port = .ok bsp'

/-- The port is in its state after a reset, with empty buffers. -/
def PortCleared (core : RemoteCore) (port : UInt8) : Prop :=
  ∃ bsp, core.uartBsp = some bsp ∧ bsp.PortReset port

variable {board : Board} {core : RemoteCore} {resourceId ownerSessionId : UInt32}

/-! ## One release -/

/-- The objects on pins that a release leaves. -/
theorem gpioObjects_release {id : UInt32} {object : GpioObject} :
    (core.releaseResourceObjects board resourceId ownerSessionId).gpioObjects.lookup id =
        some object ↔
      core.gpioObjects.lookup id = some object ∧
        gpioHeld resourceId ownerSessionId object = false := by
  rw [releaseResourceObjects, Map.lookup_filterEntries, Option.filter_eq_some_iff,
    Bool.not_eq_true']

/-- The objects on ports that a release leaves. -/
theorem uartObjects_release {id : UInt32} {object : UartObject} :
    (core.releaseResourceObjects board resourceId ownerSessionId).uartObjects.lookup id =
        some object ↔
      core.uartObjects.lookup id = some object ∧
        uartHeld resourceId ownerSessionId object = false := by
  rw [releaseResourceObjects, Map.lookup_filterEntries, Option.filter_eq_some_iff,
    Bool.not_eq_true']

/-- A release leaves the pins alone on which it releases no object. -/
theorem pinView_release {pin : UInt16}
    (h : ∀ id object, core.gpioObjects.lookup id = some object →
      gpioHeld resourceId ownerSessionId object = true → object.pin ≠ pin) :
    (core.releaseResourceObjects board resourceId ownerSessionId).pinView pin =
      core.pinView pin := by
  rw [pinView, pinView, releaseResourceObjects, Option.map_map]
  refine Option.map_congr fun bsp _ => ?_
  refine Map.sweep_keeps (P := fun b : MockGpioBsp => b.pinView pin = bsp.pinView pin) ?_ rfl
  intro b id object hobject hheld hb
  unfold quietGpio
  split
  · rw [MockGpioBsp.pinView_lower (h id object hobject hheld).symm, hb]
  · exact hb

/-- A release leaves the ports alone on which it releases no object. -/
theorem portView_release {port : UInt8}
    (h : ∀ id object, core.uartObjects.lookup id = some object →
      uartHeld resourceId ownerSessionId object = true → object.port ≠ port) :
    (core.releaseResourceObjects board resourceId ownerSessionId).portView port =
      core.portView port := by
  rw [portView, portView, releaseResourceObjects, Option.map_map]
  refine Option.map_congr fun bsp _ => ?_
  refine Map.sweep_keeps (P := fun b : MockUartBsp => b.ports.lookup port = bsp.ports.lookup port)
    ?_ rfl
  intro b id object hobject hheld hb
  rw [quietUart, MockUartBsp.lookup_clear (h id object hobject hheld).symm, hb]

/-- A released object leaves a pin writable. -/
theorem write_quietGpio {bsp : MockGpioBsp} {object : GpioObject} {pin : UInt16}
    (h : ∃ bsp', bsp.write pin false = .ok bsp') :
    ∃ bsp', (quietGpio bsp object).write pin false = .ok bsp' := by
  unfold quietGpio
  split
  · exact MockGpioBsp.write_lower h
  · exact h

/-- A released object leaves a low pin low. -/
theorem pinLow_quietGpio {bsp : MockGpioBsp} {object : GpioObject} {pin : UInt16}
    (h : bsp.PinLow pin) : (quietGpio bsp object).PinLow pin := by
  unfold quietGpio
  split
  · exact h.lower
  · exact h

/-- A release leaves a pin writable. -/
theorem PinWritable.release {pin : UInt16} (h : core.PinWritable pin) :
    (core.releaseResourceObjects board resourceId ownerSessionId).PinWritable pin := by
  obtain ⟨bsp, hbsp, hwrite⟩ := h
  refine ⟨_, by rw [releaseResourceObjects, hbsp, Option.map_some], ?_⟩
  exact Map.sweep_keeps (P := fun b : MockGpioBsp => ∃ b', b.write pin false = .ok b')
    (fun b _ object _ _ hb => write_quietGpio hb) hwrite

/-- A release leaves a low pin low. -/
theorem PinLowered.release {pin : UInt16} (h : core.PinLowered pin) :
    (core.releaseResourceObjects board resourceId ownerSessionId).PinLowered pin := by
  obtain ⟨bsp, hbsp, hlow⟩ := h
  refine ⟨_, by rw [releaseResourceObjects, hbsp, Option.map_some], ?_⟩
  exact Map.sweep_keeps (P := fun b : MockGpioBsp => b.PinLow pin)
    (fun b _ object _ _ hb => pinLow_quietGpio hb) hlow

/-- A release lowers the pins of the outputs it releases. -/
theorem pinLowered_release {id : UInt32} {object : GpioObject}
    (hobject : core.gpioObjects.lookup id = some object)
    (hheld : gpioHeld resourceId ownerSessionId object = true)
    (houtput : object.direction = .output) (h : core.PinWritable object.pin) :
    (core.releaseResourceObjects board resourceId ownerSessionId).PinLowered object.pin := by
  obtain ⟨bsp, hbsp, hwrite⟩ := h
  refine ⟨_, by rw [releaseResourceObjects, hbsp, Option.map_some], ?_⟩
  refine Map.sweep_reaches (P := fun b : MockGpioBsp => ∃ b', b.write object.pin false = .ok b')
    (Q := fun b : MockGpioBsp => b.PinLow object.pin) (fun b _ hb => write_quietGpio hb)
    (fun b _ hb => pinLow_quietGpio hb) hobject hheld (fun b hb => ?_) hwrite
  rw [quietGpio, if_pos houtput]
  exact MockGpioBsp.pinLow_lower hb

/-- A release leaves a port resettable. -/
theorem PortResettable.release {port : UInt8} (h : core.PortResettable port) :
    (core.releaseResourceObjects board resourceId ownerSessionId).PortResettable port := by
  obtain ⟨bsp, hbsp, hreset⟩ := h
  refine ⟨_, by rw [releaseResourceObjects, hbsp, Option.map_some], ?_⟩
  exact Map.sweep_keeps (P := fun b : MockUartBsp => ∃ b', b.reset port = .ok b')
    (fun b _ object _ _ hb => MockUartBsp.reset_clear hb) hreset

/-- A release leaves a reset port reset. -/
theorem PortCleared.release {port : UInt8} (h : core.PortCleared port) :
    (core.releaseResourceObjects board resourceId ownerSessionId).PortCleared port := by
  obtain ⟨bsp, hbsp, hreset⟩ := h
  refine ⟨_, by rw [releaseResourceObjects, hbsp, Option.map_some], ?_⟩
  exact Map.sweep_keeps (P := fun b : MockUartBsp => b.PortReset port)
    (fun b _ object _ _ hb => MockUartBsp.PortReset.clear hb) hreset

/-- A release resets the ports of the objects it releases. -/
theorem portCleared_release {id : UInt32} {object : UartObject}
    (hobject : core.uartObjects.lookup id = some object)
    (hheld : uartHeld resourceId ownerSessionId object = true)
    (h : core.PortResettable object.port) :
    (core.releaseResourceObjects board resourceId ownerSessionId).PortCleared object.port := by
  obtain ⟨bsp, hbsp, hreset⟩ := h
  refine ⟨_, by rw [releaseResourceObjects, hbsp, Option.map_some], ?_⟩
  exact Map.sweep_reaches (P := fun b : MockUartBsp => ∃ b', b.reset object.port = .ok b')
    (Q := fun b : MockUartBsp => b.PortReset object.port) (fun b _ hb => MockUartBsp.reset_clear hb)
    (fun b _ hb => MockUartBsp.PortReset.clear hb) hobject hheld
    (fun b hb => MockUartBsp.portReset_clear hb) hreset

/-! ## The releases of all leases that end -/

variable {ended : List (UInt32 × Lease)}

/-- The objects on pins that are left. -/
theorem gpioObjects_releaseAll {id : UInt32} {object : GpioObject} :
    (core.releaseAll board ended).gpioObjects.lookup id = some object ↔
      core.gpioObjects.lookup id = some object ∧
        ∀ entry ∈ ended, gpioHeld entry.1 entry.2.ownerSessionId object = false := by
  induction ended generalizing core with
  | nil => simp [releaseAll]
  | cons entry ended ih =>
    rw [releaseAll, List.foldl_cons, ← releaseAll, ih, gpioObjects_release, List.forall_mem_cons,
      and_assoc]

/-- The objects on ports that are left. -/
theorem uartObjects_releaseAll {id : UInt32} {object : UartObject} :
    (core.releaseAll board ended).uartObjects.lookup id = some object ↔
      core.uartObjects.lookup id = some object ∧
        ∀ entry ∈ ended, uartHeld entry.1 entry.2.ownerSessionId object = false := by
  induction ended generalizing core with
  | nil => simp [releaseAll]
  | cons entry ended ih =>
    rw [releaseAll, List.foldl_cons, ← releaseAll, ih, uartObjects_release, List.forall_mem_cons,
      and_assoc]

/-- The releases give out no lease ID and no object ID. -/
theorem ids_releaseAll : (core.releaseAll board ended).nextLeaseId = core.nextLeaseId ∧
    (core.releaseAll board ended).nextObjectId = core.nextObjectId := by
  unfold releaseAll
  induction ended generalizing core with
  | nil => exact ⟨rfl, rfl⟩
  | cons entry ended ih =>
    rw [List.foldl_cons]
    exact ih

/-- The pins are left alone on which no object is released. -/
theorem pinView_releaseAll {pin : UInt16}
    (h : ∀ id object, core.gpioObjects.lookup id = some object → ∀ entry ∈ ended,
      gpioHeld entry.1 entry.2.ownerSessionId object = true → object.pin ≠ pin) :
    (core.releaseAll board ended).pinView pin = core.pinView pin := by
  induction ended generalizing core with
  | nil => rfl
  | cons entry ended ih =>
    rw [releaseAll, List.foldl_cons, ← releaseAll, ih, pinView_release]
    · exact fun id object hobject => h id object hobject entry List.mem_cons_self
    · intro id object hobject entry' hmem
      exact h id object (gpioObjects_release.1 hobject).1 entry' (List.mem_cons_of_mem _ hmem)

/-- The ports are left alone on which no object is released. -/
theorem portView_releaseAll {port : UInt8}
    (h : ∀ id object, core.uartObjects.lookup id = some object → ∀ entry ∈ ended,
      uartHeld entry.1 entry.2.ownerSessionId object = true → object.port ≠ port) :
    (core.releaseAll board ended).portView port = core.portView port := by
  induction ended generalizing core with
  | nil => rfl
  | cons entry ended ih =>
    rw [releaseAll, List.foldl_cons, ← releaseAll, ih, portView_release]
    · exact fun id object hobject => h id object hobject entry List.mem_cons_self
    · intro id object hobject entry' hmem
      exact h id object (uartObjects_release.1 hobject).1 entry' (List.mem_cons_of_mem _ hmem)

/-- The outputs that are released are low. -/
theorem pinLowered_releaseAll {entry : UInt32 × Lease} (hentry : entry ∈ ended) {id : UInt32}
    {object : GpioObject} (hobject : core.gpioObjects.lookup id = some object)
    (hheld : gpioHeld entry.1 entry.2.ownerSessionId object = true)
    (houtput : object.direction = .output) (h : core.PinWritable object.pin) :
    (core.releaseAll board ended).PinLowered object.pin := by
  -- Until the object is released it is there, and behind its release the pin is low.
  refine List.foldl_reaches (Q := fun core : RemoteCore => core.PinLowered object.pin)
    (P := fun core : RemoteCore =>
      (core.gpioObjects.lookup id = some object ∧ core.PinWritable object.pin) ∨
      core.PinLowered object.pin) ?_ (fun core _ _ h => h.release) hentry ?_ (.inl ⟨hobject, h⟩)
  · rintro core entry' - (⟨hthere, hwritable⟩ | hlow)
    · cases hheld' : gpioHeld entry'.1 entry'.2.ownerSessionId object with
      | true => exact .inr (pinLowered_release hthere hheld' houtput hwritable)
      | false => exact .inl ⟨gpioObjects_release.2 ⟨hthere, hheld'⟩, hwritable.release⟩
    · exact .inr hlow.release
  · rintro core (⟨hthere, hwritable⟩ | hlow)
    · exact pinLowered_release hthere hheld houtput hwritable
    · exact hlow.release

/-- The ports of the objects that are released are reset. -/
theorem portCleared_releaseAll {entry : UInt32 × Lease} (hentry : entry ∈ ended) {id : UInt32}
    {object : UartObject} (hobject : core.uartObjects.lookup id = some object)
    (hheld : uartHeld entry.1 entry.2.ownerSessionId object = true)
    (h : core.PortResettable object.port) :
    (core.releaseAll board ended).PortCleared object.port := by
  refine List.foldl_reaches (Q := fun core : RemoteCore => core.PortCleared object.port)
    (P := fun core : RemoteCore => (core.uartObjects.lookup id = some object ∧
      core.PortResettable object.port) ∨ core.PortCleared object.port) ?_
    (fun core _ _ h => h.release) hentry ?_ (.inl ⟨hobject, h⟩)
  · rintro core entry' - (⟨hthere, hresettable⟩ | hcleared)
    · cases hheld' : uartHeld entry'.1 entry'.2.ownerSessionId object with
      | true => exact .inr (portCleared_release hthere hheld' hresettable)
      | false => exact .inl ⟨uartObjects_release.2 ⟨hthere, hheld'⟩, hresettable.release⟩
    · exact .inr hcleared.release
  · rintro core (⟨hthere, hresettable⟩ | hcleared)
    · exact portCleared_release hthere hheld hresettable
    · exact hcleared.release

/-! ## The leases -/

variable {ends : Lease → Bool} {lease : Lease}

/-- The leases that end are leases. -/
theorem mem_endedLeases :
    (resourceId, lease) ∈ core.endedLeases ends ↔
      core.Holds resourceId lease ∧ ends lease = true := by
  simp only [endedLeases, List.mem_flatMap, List.mem_map, List.mem_filter, Prod.mk.injEq]
  constructor
  · rintro ⟨entry, hentry, lease', ⟨hmem, hends⟩, rfl, rfl⟩
    exact ⟨⟨entry.2, (Map.mem_entries_iff _ _ _).1 hentry, hmem⟩, hends⟩
  · rintro ⟨⟨entries, hlookup, hmem⟩, hends⟩
    exact ⟨⟨resourceId, entries⟩, (Map.mem_entries_iff _ _ _).2 hlookup, lease, ⟨hmem, hends⟩, rfl,
      rfl⟩

/-- The entry of a resource behind the ends of leases. -/
theorem lookup_endLeases : (core.endLeases board ends).2.leases.lookup resourceId =
    ((core.leases.lookup resourceId).map (List.filter fun lease => !ends lease)).filter
      fun entries => !entries.isEmpty := by
  rw [endLeases, Map.lookup_filterEntries, Map.lookup_mapValues]

/-- The leases that remain are those that do not end. -/
theorem holds_endLeases : (core.endLeases board ends).2.Holds resourceId lease ↔
    core.Holds resourceId lease ∧ ends lease = false := by
  constructor
  · rintro ⟨entries, hlookup, hmem⟩
    rw [lookup_endLeases, Option.filter_eq_some_iff, Option.map_eq_some_iff] at hlookup
    obtain ⟨⟨before, hbefore, rfl⟩, -⟩ := hlookup
    obtain ⟨hmem, hends⟩ := List.mem_filter.1 hmem
    exact ⟨⟨before, hbefore, hmem⟩, Bool.not_eq_eq_eq_not.1 hends⟩
  · rintro ⟨⟨before, hbefore, hmem⟩, hends⟩
    have hmem' : lease ∈ before.filter fun lease => !ends lease :=
      List.mem_filter.2 ⟨hmem, Bool.not_eq_eq_eq_not.2 hends⟩
    refine ⟨_, ?_, hmem'⟩
    rw [lookup_endLeases, hbefore, Option.map_some, Option.filter_some, if_pos]
    rw [Bool.not_eq_true', List.isEmpty_eq_false_iff]
    exact List.ne_nil_of_mem hmem'

end RemoteCore

end RemoteBSP.MockMcu
