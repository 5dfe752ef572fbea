import RemoteBSP.MockMcu.Leases

/-!
# A resource that a session has to itself

`exclusive_lease_isolates`: while a session has an exclusive lease on a pin or a port, the requests
of other sessions leave the lease, the objects on the resource and the state of the pin or the port
as they are, and are refused if they name an object on the resource.

The timer at the beginning of `handle` ends other leases (`untouched_endLeases`), and what the
command does is one of the cases of `Effect` (`untouched_effect`). Each of them reaches a resource
through an object, a lease or a number, and in the state that the invariant describes none of these
leads a foreign session to the resource.
-/

namespace RemoteBSP.MockMcu

/-- No two resources of the catalog have the same type and instance. -/
def Board.UniqueInstances (board : Board) : Prop :=
  (board.resources.map fun resource => (resource.type, resource.instance')).Nodup

namespace RemoteCore

/-- A resource is as it was: its leases, its objects, and its pin or port. -/
structure Untouched (core core' : RemoteCore) (resource : ResourceDescriptor) : Prop where
  /-- The leases on the resource are the same. -/
  leases : core'.leases.lookup resource.resourceId = core.leases.lookup resource.resourceId
  /-- The objects on the resource of a pin are the same. -/
  gpio : ∀ id object, object.resourceId = resource.resourceId →
    (core'.gpioObjects.lookup id = some object ↔ core.gpioObjects.lookup id = some object)
  /-- The objects on the resource of a port are the same. -/
  uart : ∀ id object, object.resourceId = resource.resourceId →
    (core'.uartObjects.lookup id = some object ↔ core.uartObjects.lookup id = some object)
  /-- A pin has the same state and the same level set on it. -/
  pin : resource.type = .gpio → core'.pinView resource.instance' = core.pinView resource.instance'
  /-- A port has the same format, buffers and counters. -/
  port : resource.type = .uart → ∀ port : UInt8, port.toUInt16 = resource.instance' →
    core'.portView port = core.portView port

/-- The reply tells no more than why the request is refused. -/
def Refused (request : Packet) (reply : Reply) : Prop :=
  (∃ e : CoreException, reply = .error (.core e)) ∨
    ∃ status, status ≠ .ok ∧ reply = .ok (makeResponse request status)

/-- The requests that name an object on a resource to read or write it are refused. -/
structure Withheld (core : RemoteCore) (resource : ResourceDescriptor) (request : Packet)
    (reply : Reply) : Prop where
  /-- A read or a write through an object on the pin is refused. -/
  gpio : request.header.command = Command.gpioRead ∨ request.header.command = Command.gpioWrite →
    ∀ object, core.gpioObjects.lookup request.header.objectId = some object →
      object.resourceId = resource.resourceId → Refused request reply
  /-- A read or a write through an object on the port is refused. -/
  uart : request.header.command = Command.uartRead ∨ request.header.command = Command.uartWrite →
    ∀ object, core.uartObjects.lookup request.header.objectId = some object →
      object.resourceId = resource.resourceId → Refused request reply

variable {board : Board} {core core' core'' : RemoteCore} {grants : ℕ}
  {resource : ResourceDescriptor} {lease : Lease} {request : Packet} {now : ℤ}

/-- Where nothing happens, the resource is as it was. -/
theorem Untouched.refl (core : RemoteCore) (resource : ResourceDescriptor) :
    Untouched core core resource :=
  ⟨rfl, fun _ _ _ => .rfl, fun _ _ _ => .rfl, fun _ => rfl, fun _ _ _ => rfl⟩

/-- What leaves the resource as it was twice leaves it as it was. -/
theorem Untouched.trans (h : Untouched core core' resource) (h' : Untouched core' core'' resource) :
    Untouched core core'' resource where
  leases := h'.leases.trans h.leases
  gpio id object hresource := (h'.gpio id object hresource).trans (h.gpio id object hresource)
  uart id object hresource := (h'.uart id object hresource).trans (h.uart id object hresource)
  pin htype := (h'.pin htype).trans (h.pin htype)
  port htype port hport := (h'.port htype port hport).trans (h.port htype port hport)

/-- The catalog finds a resource by its type and instance. -/
theorem findInstance_eq (hunique : board.UniqueInstances) (hmem : resource ∈ board.resources) :
    board.findInstance resource.type resource.instance' = some resource := by
  unfold Board.findInstance
  cases hfind : board.resources.find?
      (fun other => other.type = resource.type ∧ other.instance' = resource.instance') with
  | none => exact absurd (decide_eq_true ⟨rfl, rfl⟩) (List.find?_eq_none.1 hfind resource hmem)
  | some other =>
    have hfound := List.find?_some hfind
    obtain ⟨htype, hinstance⟩ := of_decide_eq_true hfound
    exact congrArg some (List.inj_on_of_nodup_map hunique (List.mem_of_find?_eq_some hfind) hmem
      (Prod.ext htype hinstance))

/-- The resource of an object on a pin or a port is the one in the catalog. -/
theorem homeOf_eq (hunique : board.UniqueInstances) (hmem : resource ∈ board.resources) :
    homeOf board resource.type resource.instance' = resource.resourceId := by
  rw [homeOf, findInstance_eq hunique hmem, Option.map_some, Option.getD_some]

/-- A pin or a port whose objects belong to another resource is not the one of this resource. -/
theorem instance_ne (hunique : board.UniqueInstances) (hmem : resource ∈ board.resources)
    {type : ResourceType} (htype : resource.type = type) {instance' : UInt16}
    (hhome : homeOf board type instance' ≠ resource.resourceId) :
    instance' ≠ resource.instance' := by
  rintro rfl
  rw [← htype] at hhome
  exact hhome (homeOf_eq hunique hmem)

/-! ## The session that has the resource to itself -/

/-- An object on the resource is neither without an owner nor another session's. -/
theorem Covered.not_foreign {resourceId ownerSessionId sessionId : UInt32}
    (hcovered : core.Covered resourceId ownerSessionId)
    (hlease : core.leases.lookup resourceId = some [lease])
    (hother : sessionId ≠ lease.ownerSessionId) :
    ¬(ownerSessionId = 0 ∨ ownerSessionId = sessionId) := by
  have hne : ownerSessionId ≠ 0 := by
    intro hzero
    rw [hcovered.1 hzero] at hlease
    cases hlease
  obtain ⟨lease', hsingle, -, howner⟩ := hcovered.2 hne
  obtain rfl : lease' = lease := List.singleton_inj.1 (Option.some.inj (hsingle.symm.trans hlease))
  rintro (hzero | hsession)
  · exact hne hzero
  · exact hother (hsession.symm.trans howner.symm)

/-- The owner of a new object is its session, if it has one. -/
theorem objectOwner_owner {type : ResourceType} {instance' : UInt16}
    {sessionId resourceId ownerSessionId : UInt32}
    (howner : core.objectOwner board type instance' sessionId = .ok (resourceId, ownerSessionId)) :
    ownerSessionId = 0 ∨ ownerSessionId = sessionId := by
  unfold RemoteCore.objectOwner at howner
  split at howner
  · split at howner
    · cases howner
    · exact .inl (Prod.mk.inj (Except.ok.inj howner)).2.symm
  · dsimp only at howner
    split at howner
    · cases howner
    · obtain ⟨-, rfl⟩ := Prod.mk.inj (Except.ok.inj howner)
      split
      · exact .inr rfl
      · exact .inl rfl

/-- An object that a session may use has no owner, or is its own. -/
theorem foreign_eq_false {ownerSessionId sessionId : UInt32} :
    foreign ownerSessionId sessionId = false ↔ ownerSessionId = 0 ∨ ownerSessionId = sessionId := by
  rw [foreign, decide_eq_false_iff_not, not_and_or, not_not, not_not]

/-- The lease of another session is not named. -/
theorem not_namedBy {leaseId : UInt64} {sessionId : UInt32}
    (hother : sessionId ≠ lease.ownerSessionId) : Lease.namedBy leaseId sessionId lease = false :=
  decide_eq_false fun h => hother h.2.symm

/-- The releases of objects on other resources leave the resource alone, if its leases stay. -/
theorem untouched_releaseAll (h : Sound board core grants) (hunique : board.UniqueInstances)
    (hmem : resource ∈ board.resources) {ended : List (UInt32 × Lease)}
    (hothers : ∀ entry ∈ ended, entry.1 ≠ resource.resourceId) {leases : Map UInt32 (List Lease)}
    (hleases : leases.lookup resource.resourceId = core.leases.lookup resource.resourceId) :
    Untouched core { core.releaseAll board ended with leases := leases } resource := by
  constructor
  · exact hleases
  · intro id object hresource
    refine ⟨fun hobject => (gpioObjects_releaseAll.1 hobject).1, fun hobject =>
      gpioObjects_releaseAll.2 ⟨hobject, fun entry hentry => ?_⟩⟩
    exact decide_eq_false fun hheld => hothers entry hentry (hheld.1.symm.trans hresource)
  · intro id object hresource
    refine ⟨fun hobject => (uartObjects_releaseAll.1 hobject).1, fun hobject =>
      uartObjects_releaseAll.2 ⟨hobject, fun entry hentry => ?_⟩⟩
    exact decide_eq_false fun hheld => hothers entry hentry (hheld.1.symm.trans hresource)
  · -- Only the pin of a released object is lowered, and its object is not on this resource.
    intro htype
    change (core.releaseAll board ended).pinView _ = _
    refine pinView_releaseAll fun id object hobject entry hentry hheld => ?_
    apply instance_ne hunique hmem htype
    rw [← h.gpioHome id object hobject, (of_decide_eq_true hheld).1]
    exact hothers entry hentry
  · intro htype port hport
    change (core.releaseAll board ended).portView _ = _
    refine portView_releaseAll fun id object hobject entry hentry hheld hsame => ?_
    refine instance_ne hunique hmem htype ?_ ((congrArg UInt8.toUInt16 hsame).trans hport)
    rw [← h.uartHome id object hobject, (of_decide_eq_true hheld).1]
    exact hothers entry hentry

/-- The ends of other leases leave the resource alone. -/
theorem untouched_endLeases (h : Sound board core grants) (hunique : board.UniqueInstances)
    (hmem : resource ∈ board.resources)
    (hlease : core.leases.lookup resource.resourceId = some [lease]) {ends : Lease → Bool}
    (hends : ends lease = false) : Untouched core (core.endLeases board ends).2 resource := by
  refine untouched_releaseAll h hunique hmem ?_ ?_
  · -- The leases that end are on other resources.
    rintro ⟨resourceId, ended⟩ hentry rfl
    obtain ⟨⟨entries, hlookup, hin⟩, hended⟩ := mem_endedLeases.1 hentry
    obtain rfl := Option.some.inj (hlookup.symm.trans hlease)
    rw [List.mem_singleton.1 hin, hends] at hended
    cases hended
  · change (core.endLeases board ends).2.leases.lookup _ = _
    rw [lookup_endLeases, hlease, Option.map_some, List.filter_cons_of_pos (by rw [hends]; rfl)]
    rfl

/-- A change of the table, at other resources. -/
theorem untouched_leases {leases : Map UInt32 (List Lease)}
    (h : leases.lookup resource.resourceId = core.leases.lookup resource.resourceId) :
    Untouched core { core with leases := leases } resource :=
  ⟨h, fun _ _ _ => .rfl, fun _ _ _ => .rfl, fun _ => rfl, fun _ _ _ => rfl⟩

/-- A new object elsewhere leaves the objects on the resource. -/
theorem lookup_emplace_iff {V : Type} (home : V → UInt32) {m : Map UInt32 V} {k : UInt32} {v : V}
    {resourceId : UInt32} (hnew : home v ≠ resourceId) {id : UInt32} {u : V}
    (hu : home u = resourceId) :
    (m.emplace k v).lookup id = some u ↔ m.lookup id = some u := by
  refine ⟨fun hlookup => ?_, Map.lookup_emplace_of_some⟩
  rcases Map.lookup_emplace_cases hlookup with hold | ⟨-, rfl⟩
  · exact hold
  · exact absurd hu hnew

/-- A pin that is used through an object elsewhere is not the pin of the resource. -/
theorem Sound.pin_ne (h : Sound board core grants) (hunique : board.UniqueInstances)
    (hmem : resource ∈ board.resources)
    (hlease : core.leases.lookup resource.resourceId = some [lease])
    (hother : request.header.sessionId ≠ lease.ownerSessionId) {id : UInt32} {object : GpioObject}
    (hobject : core.gpioObjects.lookup id = some object)
    (hown : foreign object.ownerSessionId request.header.sessionId = false)
    (htype : resource.type = .gpio) : resource.instance' ≠ object.pin := by
  refine (instance_ne hunique hmem htype fun hhome => ?_).symm
  have hcovered := h.objects.gpio id object hobject
  rw [h.gpioHome id object hobject, hhome] at hcovered
  exact hcovered.not_foreign hlease hother (foreign_eq_false.1 hown)

/-- A port that is used through an object elsewhere is not the port of the resource. -/
theorem Sound.port_ne (h : Sound board core grants) (hunique : board.UniqueInstances)
    (hmem : resource ∈ board.resources)
    (hlease : core.leases.lookup resource.resourceId = some [lease])
    (hother : request.header.sessionId ≠ lease.ownerSessionId) {id : UInt32} {object : UartObject}
    (hobject : core.uartObjects.lookup id = some object)
    (hown : foreign object.ownerSessionId request.header.sessionId = false)
    (htype : resource.type = .uart) {port : UInt8} (hport : port.toUInt16 = resource.instance') :
    port ≠ object.port := by
  rintro rfl
  refine instance_ne hunique hmem htype (fun hhome => ?_) hport
  have hcovered := h.objects.uart id object hobject
  rw [h.uartHome id object hobject, hhome] at hcovered
  exact hcovered.not_foreign hlease hother (foreign_eq_false.1 hown)

/-- The object that another session creates belongs to another resource. -/
theorem Sound.elsewhere (h : Sound board core grants)
    (hlease : core.leases.lookup resource.resourceId = some [lease])
    (hother : request.header.sessionId ≠ lease.ownerSessionId) {type : ResourceType}
    {instance' : UInt16} {resourceId ownerSessionId : UInt32}
    (howner : core.objectOwner board type instance' request.header.sessionId =
      .ok (resourceId, ownerSessionId)) :
    resourceId ≠ resource.resourceId ∧ homeOf board type instance' ≠ resource.resourceId := by
  obtain ⟨hhome, hcovered⟩ := h.objectOwner howner
  have hne : resourceId ≠ resource.resourceId := by
    rintro rfl
    exact hcovered.not_foreign hlease hother (objectOwner_owner howner)
  exact ⟨hne, hhome ▸ hne⟩

/-- The port that another session resets is not that of the resource, which it may not access. -/
theorem port_ne_reset (hunique : board.UniqueInstances) (hmem : resource ∈ board.resources)
    (hlease : core.leases.lookup resource.resourceId = some [lease])
    (hother : request.header.sessionId ≠ lease.ownerSessionId) {reset : ResourceDescriptor}
    (hreset : board.findResource (getU32 request.payload 0) = some reset)
    (htypeReset : reset.type = .uart) (hfits : reset.instance' ≤ 0xFF)
    (hallowed : core.resourceAccessAllowed (getU32 request.payload 0)
      request.header.sessionId = true)
    (htype : resource.type = .uart) {port : UInt8} (hport : port.toUInt16 = resource.instance') :
    port ≠ reset.instance'.toUInt8 := by
  rintro rfl
  have hinstance : reset.instance' = resource.instance' := by
    rw [← hport]
    apply UInt16.toNat_inj.1
    have hle := UInt16.le_iff_toNat_le.1 hfits
    rw [UInt8.toNat_toUInt16, UInt16.toNat_toUInt8, Nat.mod_eq_of_lt]
    exact Nat.lt_succ_of_le hle
  have hsame : reset = resource := List.inj_on_of_nodup_map hunique
    (List.mem_of_find?_eq_some hreset) hmem (Prod.ext (htypeReset.trans htype.symm) hinstance)
  have hid := List.find?_some hreset
  rw [← of_decide_eq_true hid, hsame, resourceAccessAllowed, hlease] at hallowed
  simp only [List.isEmpty_cons, List.any_cons, List.any_nil, Bool.or_false, Bool.false_or,
    decide_eq_true_eq] at hallowed
  exact hother hallowed.symm

/-- The release of a lease of another session leaves the resource alone. -/
theorem untouched_release (h : Sound board core grants) (hunique : board.UniqueInstances)
    (hmem : resource ∈ board.resources)
    (hlease : core.leases.lookup resource.resourceId = some [lease])
    (hother : request.header.sessionId ≠ lease.ownerSessionId) {token : ResourceLeaseTokenRequest}
    {entries : List Lease} (hentries : core.leases.lookup token.resourceId = some entries)
    (hnamed : entries.any (Lease.namedBy token.leaseId request.header.sessionId) = true) :
    Untouched core
      { core.releaseResourceObjects board token.resourceId request.header.sessionId with
        leases := core.eraseLease token.resourceId entries token.leaseId
          request.header.sessionId } resource := by
  obtain ⟨released, hreleased, hname⟩ := List.any_eq_true.1 hnamed
  obtain ⟨-, howner⟩ := of_decide_eq_true hname
  have hresource : token.resourceId ≠ resource.resourceId := by
    intro hresource
    rw [hresource] at hentries
    obtain rfl := Option.some.inj (hlease.symm.trans hentries)
    rw [List.mem_singleton.1 hreleased] at howner
    exact hother howner.symm
  -- What is released are the objects of the one lease that ends.
  rw [← howner]
  have hothers : ∀ entry ∈ [(token.resourceId, released)], entry.1 ≠ resource.resourceId := by
    intro entry hentry
    rw [List.mem_singleton.1 hentry]
    exact hresource
  exact untouched_releaseAll h hunique hmem hothers (lookup_eraseLease_ne hresource.symm)

/-- What a request of another session does leaves the resource alone. -/
theorem untouched_effect (h : Sound board core grants) (hunique : board.UniqueInstances)
    (hmem : resource ∈ board.resources)
    (hlease : core.leases.lookup resource.resourceId = some [lease])
    (hmode : lease.mode = .exclusive) (hother : request.header.sessionId ≠ lease.ownerSessionId)
    (heffect : Effect board core request now core') : Untouched core core' resource := by
  cases heffect with
  | unchanged => exact .refl _ _
  | bootloader => exact ⟨rfl, fun _ _ _ => .rfl, fun _ _ _ => .rfl, fun _ => rfl, fun _ _ _ => rfl⟩
  | eraseEmpty hempty => exact absurd rfl (h.entries _ _ hempty).ne_nil
  | grant asked hsession hasked hsupported hfree =>
    -- Beside an exclusive lease of another session none is granted.
    refine ⟨AList.lookup_insert_ne fun hresource => ?_, fun _ _ _ => .rfl, fun _ _ _ => .rfl,
      fun _ => rfl, fun _ _ _ => rfl⟩
    rw [← hresource, hlease, Option.getD_some] at hfree
    rcases (leaseBusy_eq_false hasked hfree).2.1 with hnil | ⟨-, hshared⟩
    · exact List.cons_ne_nil _ _ hnil
    · exact hshared lease List.mem_cons_self hmode
  | @renew token entries hentries =>
    refine untouched_leases ?_
    rw [Map.lookup_insert_ite]
    split
    · next hresource =>
      -- The request names none of the leases on the resource.
      rw [← hresource] at hentries
      obtain rfl := Option.some.inj (hlease.symm.trans hentries)
      rw [hlease, List.modifyFirst, not_namedBy hother]
      rfl
    · rfl
  | release token _ _ hentries hnamed =>
    exact untouched_release h hunique hmem hlease hother hentries hnamed
  | @createGpio bsp pin direction value resourceId ownerSessionId hbsp howner hfree =>
    obtain ⟨hne, hhome⟩ := h.elsewhere hlease hother howner
    constructor
    · rfl
    · exact fun id object hobject =>
        lookup_emplace_iff GpioObject.resourceId hne hobject
    · exact fun _ _ _ => .rfl
    · intro htype
      rw [pinView, pinView, hbsp, Option.map_some, Option.map_some,
        MockGpioBsp.pinView_configure _ _ (instance_ne hunique hmem htype hhome).symm]
    · exact fun _ _ _ => rfl
  | @useGpio bsp bsp' object hbsp hobject hown hothers =>
    refine ⟨rfl, fun _ _ _ => .rfl, fun _ _ _ => .rfl, fun htype => ?_, fun _ _ _ => rfl⟩
    rw [pinView, pinView, hbsp, Option.map_some, Option.map_some,
      hothers _ (h.pin_ne hunique hmem hlease hother hobject hown htype)]
  | @createUart bsp bsp' port config streaming resourceId ownerSessionId hbsp howner hfree
      hconfigure =>
    obtain ⟨hne, hhome⟩ := h.elsewhere hlease hother howner
    constructor
    · rfl
    · exact fun _ _ _ => .rfl
    · exact fun id object hobject =>
        lookup_emplace_iff UartObject.resourceId hne hobject
    · exact fun _ => rfl
    · intro htype port' hport'
      have hport : port' ≠ port := by
        rintro rfl
        exact instance_ne hunique hmem htype hhome hport'
      rw [portView, portView, hbsp, Option.map_some, Option.map_some,
        MockUartBsp.lookup_configure hconfigure hport]
  | @useUart bsp bsp' object hbsp hobject hown hothers =>
    refine ⟨rfl, fun _ _ _ => .rfl, fun _ _ _ => .rfl, fun _ => rfl, fun htype port hport => ?_⟩
    rw [portView, portView, hbsp, Option.map_some, Option.map_some,
      hothers _ (h.port_ne hunique hmem hlease hother hobject hown htype hport)]
  | @resetUart bsp bsp' reset hbsp hreset htypeReset hfits hallowed hresetOk =>
    refine ⟨rfl, fun _ _ _ => .rfl, fun _ _ _ => .rfl, fun _ => rfl, fun htype port hport => ?_⟩
    have hne := port_ne_reset hunique hmem hlease hother hreset htypeReset hfits hallowed htype
      hport
    rw [portView, portView, hbsp, Option.map_some, Option.map_some,
      MockUartBsp.lookup_reset hresetOk hne]
  | useMotion => exact ⟨rfl, fun _ _ _ => .rfl, fun _ _ _ => .rfl, fun _ => rfl, fun _ _ _ => rfl⟩

/-! ## The objects on the resource -/

/-- A response with a status other than OK refuses the request. -/
theorem refused_of {status : StatusCode} (h : status ≠ .ok) :
    Refused request (.ok (makeResponse request status)) := .inr ⟨status, h, rfl⟩

/-- A read of a pin through an object of another session. -/
theorem refused_handleGpioRead {object : GpioObject}
    (hobject : core.gpioObjects.lookup request.header.objectId = some object)
    (hforeign : foreign object.ownerSessionId request.header.sessionId = true) :
    Refused request (core.handleGpioRead board request).1 := by
  unfold handleGpioRead
  split
  · exact refused_of nofun
  · split
    · exact refused_of nofun
    · split
      · exact refused_of nofun
      · rw [hobject]
        dsimp only
        rw [if_pos hforeign]
        exact refused_of nofun

/-- A write of a pin through an object of another session. -/
theorem refused_handleGpioWrite {object : GpioObject}
    (hobject : core.gpioObjects.lookup request.header.objectId = some object)
    (hforeign : foreign object.ownerSessionId request.header.sessionId = true) :
    Refused request (core.handleGpioWrite board request).1 := by
  unfold handleGpioWrite
  split
  · exact refused_of nofun
  · split
    · exact refused_of nofun
    · split
      · exact refused_of nofun
      · rw [hobject]
        dsimp only
        rw [if_pos hforeign]
        exact refused_of nofun

/-- A read of a port through an object of another session. -/
theorem refused_handleUartRead {object : UartObject}
    (hobject : core.uartObjects.lookup request.header.objectId = some object)
    (hforeign : foreign object.ownerSessionId request.header.sessionId = true) :
    Refused request (.ok (core.handleUartRead board request).1) := by
  unfold handleUartRead
  split
  · exact refused_of nofun
  · split
    · exact refused_of nofun
    · split
      · exact refused_of nofun
      · dsimp only
        split
        · exact refused_of nofun
        · rw [hobject]
          dsimp only
          rw [if_pos hforeign]
          exact refused_of nofun

/-- A write of a port through an object of another session. -/
theorem refused_handleUartWrite {object : UartObject}
    (hobject : core.uartObjects.lookup request.header.objectId = some object)
    (hforeign : foreign object.ownerSessionId request.header.sessionId = true) :
    Refused request (.ok (core.handleUartWrite board request).1) := by
  unfold handleUartWrite
  split
  · exact refused_of nofun
  · split
    · exact refused_of nofun
    · split
      · exact refused_of nofun
      · rw [hobject]
        dsimp only
        rw [if_pos hforeign]
        exact refused_of nofun

/-- The requests that `dispatch` is given of another session are refused the objects on the
resource. -/
theorem withheld_dispatch (h : Sound board core grants)
    (hlease : core.leases.lookup resource.resourceId = some [lease])
    (hother : request.header.sessionId ≠ lease.ownerSessionId) :
    Withheld core resource request (core.dispatch board request now).1 := by
  -- The object on the resource is covered by its lease, and therefore foreign to the session.
  have hforeign : ∀ ownerSessionId, core.Covered resource.resourceId ownerSessionId →
      foreign ownerSessionId request.header.sessionId = true := by
    intro ownerSessionId hcovered
    rw [← Bool.not_eq_false]
    exact fun hown => hcovered.not_foreign hlease hother (foreign_eq_false.1 hown)
  constructor
  · intro hcommand object hobject hresource
    have hcovered := h.objects.gpio _ _ hobject
    rw [hresource] at hcovered
    rcases hcommand with hcommand | hcommand
    · have hdispatch : core.dispatch board request now = core.handleGpioRead board request := by
        rw [dispatch, hcommand]
        rfl
      rw [hdispatch]
      exact refused_handleGpioRead hobject (hforeign _ hcovered)
    · have hdispatch : core.dispatch board request now = core.handleGpioWrite board request := by
        rw [dispatch, hcommand]
        rfl
      rw [hdispatch]
      exact refused_handleGpioWrite hobject (hforeign _ hcovered)
  · intro hcommand object hobject hresource
    have hcovered := h.objects.uart _ _ hobject
    rw [hresource] at hcovered
    rcases hcommand with hcommand | hcommand
    · have hdispatch : core.dispatch board request now =
          returns (core.handleUartRead board request) := by
        rw [dispatch, hcommand]
        rfl
      rw [hdispatch]
      exact refused_handleUartRead hobject (hforeign _ hcovered)
    · have hdispatch : core.dispatch board request now =
          returns (core.handleUartWrite board request) := by
        rw [dispatch, hcommand]
        rfl
      rw [hdispatch]
      exact refused_handleUartWrite hobject (hforeign _ hcovered)

/-- In every run, a request of a session leaves a pin or a port alone that another session has to
itself with a lease that has not expired, and is refused the objects on it. -/
theorem exclusive_lease_isolates (board : Board) (hunique : board.UniqueInstances)
    (gpioBsp : Option MockGpioBsp) (uartBsp : Option MockUartBsp) (motion : Option MotionExecutor)
    (events : List CoreEvent) (resource : ResourceDescriptor) (hmem : resource ∈ board.resources)
    (lease : Lease) (request : Packet) (now : ℤ) :
    let core := ((coreMachine board).run ⟨fresh gpioBsp uartBsp motion, 0⟩ events).core
    core.Holds resource.resourceId lease → lease.mode = .exclusive → now < lease.expiresAt →
    request.header.sessionId ≠ lease.ownerSessionId →
    Untouched core (core.handle board request now).2 resource ∧
      Withheld core resource request (core.handle board request now).1 := by
  rintro core ⟨entries, hlookup, hheld⟩ hmode hnow hother
  have h : Sound board core
      ((coreMachine board).run ⟨fresh gpioBsp uartBsp motion, 0⟩ events).grants :=
    sound_run gpioBsp uartBsp motion events
  rw [(h.entries _ _ hlookup).eq_singleton hheld hmode] at hlookup
  unfold RemoteCore.handle
  split
  · exact ⟨.refl _ _, fun _ _ _ _ => .inl ⟨_, rfl⟩, fun _ _ _ _ => .inl ⟨_, rfl⟩⟩
  · split
    · exact ⟨.refl _ _, fun _ _ _ _ => .inl ⟨_, rfl⟩, fun _ _ _ _ => .inl ⟨_, rfl⟩⟩
    · -- First the timer ends other leases, and then the command is carried out.
      have hexpired : Untouched core (core.expireLeases board now).2 resource :=
        untouched_endLeases h hunique hmem hlookup (by rw [decide_eq_true hnow]; rfl)
      have hsound : Sound board (core.expireLeases board now).2 _ := h.endLeases _
      have hlease := hexpired.leases.trans hlookup
      refine ⟨hexpired.trans (untouched_effect hsound hunique hmem hlease hmode hother
        dispatch_effect), ?_⟩
      have hwithheld : Withheld _ resource request
          ((core.expireLeases board now).2.dispatch board request now).1 :=
        withheld_dispatch hsound hlease hother
      exact {
        gpio := fun hcommand object hobject hresource =>
          hwithheld.gpio hcommand object ((hexpired.gpio _ _ hresource).2 hobject) hresource
        uart := fun hcommand object hobject hresource =>
          hwithheld.uart hcommand object ((hexpired.uart _ _ hresource).2 hobject) hresource }

/-! ## An example -/

/-- A pin that can be leased. -/
def leasedPin : ResourceDescriptor := { resourceId := 1, type := .gpio, instance' := 5 }

/-- A board with one pin, which can be leased. -/
def pinBoard : Board where
  nodeInfo := .unnamed
  capabilities := capabilityGpio
  resources := [leasedPin]
  contracts := [{ resourceId := 1, accessFlags := kResourceAccessLeaseSupported }]
  version_ok := NodeInfo.version_unnamed
  resources_ok := by decide
  contracts_ok := by decide

/-- A session has the pin to itself for a second, and makes it an output. -/
def pinEvents : List CoreEvent :=
  [.handle ⟨{ command := Command.resourceAcquire, sessionId := 7 },
      [1, 0, 0, 0, 0xE8, 0x03, 0, 0, 2]⟩ 0,
    .handle ⟨{ command := Command.gpioCreate, sessionId := 7 }, [5, 0, 1, 1]⟩ 1]

/-- Another session writes the pin through the object of the first one. -/
def foreignWrite : Packet := ⟨{ command := Command.gpioWrite, sessionId := 8, objectId := 1 }, [0]⟩

/-- The write of the other session changes nothing and is refused. -/
theorem exclusive_lease_isolates_pin :
    let core := ((coreMachine pinBoard).run ⟨fresh (some {}) none none, 0⟩ pinEvents).core
    Untouched core (core.handle pinBoard foreignWrite 2).2 leasedPin ∧
      Withheld core leasedPin foreignWrite (core.handle pinBoard foreignWrite 2).1 :=
  exclusive_lease_isolates pinBoard (by unfold Board.UniqueInstances; decide) (some {}) none none
    pinEvents leasedPin List.mem_cons_self ⟨1, 7, 1000, .exclusive, 1000000000⟩ foreignWrite 2
    ⟨[_], by decide +kernel, List.mem_cons_self⟩ rfl (by decide) (by decide)

end RemoteCore

end RemoteBSP.MockMcu
