import RemoteBSP.MockMcu.Effects
import RemoteBSP.MockMcu.Releases

/-!
# Leases and the objects they cover

The table of leases and the maps of objects constrain each other: an object of a session lies on a
resource that this session has to itself, and an object without an owner on one that nobody has
leased (`Covered`). `Sound` is the invariant; each kind of write keeps it (`Sound.grant`,
`Sound.renew`, `Sound.release`, `Sound.createGpio`, `Sound.createUart`, `Sound.endLeases`), and so
every run does (`sound_run`). `leases_cover_objects` reads off it what the table and the maps look
like, and that a lease that ends leaves no object behind, its outputs low and its ports reset.
-/

namespace RemoteBSP.MockMcu

/-- The leases on one resource may stand beside each other. -/
structure EntriesOk (entries : List Lease) : Prop where
  /-- An entry of the table is not empty. -/
  ne_nil : entries ≠ []
  /-- One is exclusive, or all are shared. -/
  modes : (∃ lease, entries = [lease] ∧ lease.mode = .exclusive) ∨
    ∀ lease ∈ entries, lease.mode = .sharedRead
  /-- No session has two leases on the resource. -/
  owners : (entries.map Lease.ownerSessionId).Nodup
  /-- Each lease has a number. -/
  ids : ∀ lease ∈ entries, lease.leaseId ≠ 0

namespace RemoteCore

/-- The table of leases, after some grants. -/
structure LeaseTableOk (board : Board) (core : RemoteCore) (grants : ℕ) : Prop where
  /-- The leases on each resource may stand beside each other. -/
  entries : ∀ resourceId entries, core.leases.lookup resourceId = some entries → EntriesOk entries
  /-- The contract of a leased resource supports leases. -/
  supported : ∀ resourceId entries, core.leases.lookup resourceId = some entries →
    board.contractHas resourceId kResourceAccessLeaseSupported = true
  /-- The IDs tell the leases apart, until they have all been used. -/
  distinct : grants < 2^64 → ∀ resourceId lease resourceId' lease',
    core.Holds resourceId lease → core.Holds resourceId' lease' →
    lease.leaseId = lease'.leaseId → resourceId = resourceId' ∧ lease = lease'

/-- The owner of an object has its resource to itself, and nobody has leased the resource of an
object without an owner. -/
def Covered (core : RemoteCore) (resourceId ownerSessionId : UInt32) : Prop :=
  (ownerSessionId = 0 → core.leases.lookup resourceId = none) ∧
    (ownerSessionId ≠ 0 → ∃ lease, core.leases.lookup resourceId = some [lease] ∧
      lease.mode = .exclusive ∧ lease.ownerSessionId = ownerSessionId)

/-- The objects on pins and ports fit the leases. -/
structure ObjectsOk (core : RemoteCore) : Prop where
  /-- Those on pins agree with the leases. -/
  gpio : ∀ id object, core.gpioObjects.lookup id = some object →
    core.Covered object.resourceId object.ownerSessionId
  /-- Those on ports agree with the leases. -/
  uart : ∀ id object, core.uartObjects.lookup id = some object →
    core.Covered object.resourceId object.ownerSessionId
  /-- No pin has two objects. -/
  pins : ∀ id object id' object', core.gpioObjects.lookup id = some object →
    core.gpioObjects.lookup id' = some object' → object.pin = object'.pin → id = id'
  /-- No port has two objects. -/
  ports : ∀ id object id' object', core.uartObjects.lookup id = some object →
    core.uartObjects.lookup id' = some object' → object.port = object'.port → id = id'

/-- What becomes of the objects of an owner on a resource whose lease has ended. -/
structure Released (core core' : RemoteCore) (resourceId ownerSessionId : UInt32) : Prop where
  /-- None is left on a pin. -/
  gpio : ∀ id object, core'.gpioObjects.lookup id = some object →
    gpioHeld resourceId ownerSessionId object = false
  /-- None is left on a port. -/
  uart : ∀ id object, core'.uartObjects.lookup id = some object →
    uartHeld resourceId ownerSessionId object = false
  /-- The outputs are low, if writing them succeeds. -/
  low : ∀ id object, core.gpioObjects.lookup id = some object →
    gpioHeld resourceId ownerSessionId object = true → object.direction = .output →
    core.PinWritable object.pin → core'.PinLowered object.pin
  /-- The ports are reset, if resetting them succeeds. -/
  reset : ∀ id object, core.uartObjects.lookup id = some object →
    uartHeld resourceId ownerSessionId object = true →
    core.PortResettable object.port → core'.PortCleared object.port

/-- The objects that the leases covered that are gone have been released. -/
def EndsCleanly (core core' : RemoteCore) : Prop :=
  ∀ resourceId lease, core.Holds resourceId lease → ¬core'.Holds resourceId lease →
    Released core core' resourceId lease.ownerSessionId

/-- The resource of an object on a pin or a port. -/
def homeOf (board : Board) (type : ResourceType) (instance' : UInt16) : UInt32 :=
  ((board.findInstance type instance').map ResourceDescriptor.resourceId).getD 0

/-- What holds of a core that has granted a number of leases, whatever has been called. -/
structure Sound (board : Board) (core : RemoteCore) (grants : ℕ) : Prop where
  /-- The leases on each resource may stand beside each other. -/
  entries : ∀ resourceId entries, core.leases.lookup resourceId = some entries → EntriesOk entries
  /-- Each lease is some session's. -/
  owned : ∀ resourceId lease, core.Holds resourceId lease → lease.ownerSessionId ≠ 0
  /-- The contract of a leased resource supports leases. -/
  supported : ∀ resourceId entries, core.leases.lookup resourceId = some entries →
    board.contractHas resourceId kResourceAccessLeaseSupported = true
  /-- The next lease gets an ID. -/
  next_ne_zero : core.nextLeaseId ≠ 0
  /-- The next lease gets a new ID. -/
  next : grants < 2^64 - 1 → core.nextLeaseId.toNat = grants + 1
  /-- No lease has a number that has not been given yet, as long as the numbers suffice. -/
  used : grants < 2^64 → ∀ resourceId lease, core.Holds resourceId lease →
    lease.leaseId.toNat ≤ grants
  /-- An ID belongs to one session on one resource. -/
  distinct : grants < 2^64 → ∀ resourceId lease resourceId' lease',
    core.Holds resourceId lease → core.Holds resourceId' lease' →
    lease.leaseId = lease'.leaseId →
    resourceId = resourceId' ∧ lease.ownerSessionId = lease'.ownerSessionId
  /-- The objects fit the leases. -/
  objects : core.ObjectsOk
  /-- The objects on pins lie on the resources of the pins. -/
  gpioHome : ∀ id object, core.gpioObjects.lookup id = some object →
    object.resourceId = homeOf board .gpio object.pin
  /-- The objects on ports lie on the resources of the ports. -/
  uartHome : ∀ id object, core.uartObjects.lookup id = some object →
    object.resourceId = homeOf board .uart object.port.toUInt16

end RemoteCore

/-! ## The leases on one resource -/

namespace EntriesOk

variable {entries entries' : List Lease}

/-- Some of the leases on a resource may stand beside each other if all may. -/
theorem sublist (h : EntriesOk entries) (hsub : entries'.Sublist entries) (hne : entries' ≠ []) :
    EntriesOk entries' where
  ne_nil := hne
  modes := by
    rcases h.modes with ⟨lease, rfl, hmode⟩ | hshared
    · rcases List.sublist_singleton.1 hsub with hnil | hsingle
      · exact absurd hnil hne
      · exact .inl ⟨lease, hsingle, hmode⟩
    · exact .inr fun lease hmem => hshared lease (hsub.mem hmem)
  owners := h.owners.sublist (hsub.map _)
  ids lease hmem := h.ids lease (hsub.mem hmem)

/-- A renewal leaves the owners of the leases. -/
theorem owners_renew (entries : List Lease) (leaseId : UInt64) (sessionId durationMs : UInt32)
    (now : ℤ) : (entries.modifyFirst (Lease.namedBy leaseId sessionId)
      (Lease.renew durationMs now)).map Lease.ownerSessionId =
      entries.map Lease.ownerSessionId := by
  refine List.map_modifyFirst ?_ entries
  exact fun _ => rfl

/-- A lease behind a renewal is a lease from before, or one from before renewed. -/
theorem mem_renew {leaseId : UInt64} {sessionId durationMs : UInt32} {now : ℤ} {lease : Lease}
    (h : lease ∈ entries.modifyFirst (Lease.namedBy leaseId sessionId)
      (Lease.renew durationMs now)) :
    ∃ before ∈ entries, lease.leaseId = before.leaseId ∧
      lease.ownerSessionId = before.ownerSessionId ∧ lease.mode = before.mode := by
  rcases List.mem_modifyFirst h with hmem | ⟨before, hmem, -, rfl⟩
  · exact ⟨lease, hmem, rfl, rfl, rfl⟩
  · exact ⟨before, hmem, rfl, rfl, rfl⟩

/-- The leases, one of them renewed. -/
theorem renew (h : EntriesOk entries) (leaseId : UInt64) (sessionId durationMs : UInt32) (now : ℤ) :
    EntriesOk
      (entries.modifyFirst (Lease.namedBy leaseId sessionId) (Lease.renew durationMs now)) where
  ne_nil hnil := by
    have hmap := congrArg (List.map Lease.ownerSessionId) hnil
    rw [owners_renew, List.map_nil, List.map_eq_nil_iff] at hmap
    exact h.ne_nil hmap
  modes := by
    rcases h.modes with ⟨lease, rfl, hmode⟩ | hshared
    · refine .inl ?_
      unfold List.modifyFirst
      split
      · exact ⟨_, rfl, hmode⟩
      · exact ⟨_, rfl, hmode⟩
    · refine .inr fun lease hmem => ?_
      obtain ⟨before, hbefore, -, -, hmode⟩ := mem_renew hmem
      rw [hmode, hshared before hbefore]
  owners := by
    rw [owners_renew]
    exact h.owners
  ids lease hmem := by
    obtain ⟨before, hbefore, hid, -, -⟩ := mem_renew hmem
    rw [hid]
    exact h.ids before hbefore

/-- Of leases on a resource that some session has to itself there is one. -/
theorem eq_singleton (h : EntriesOk entries) {lease : Lease} (hmem : lease ∈ entries)
    (hmode : lease.mode = .exclusive) : entries = [lease] := by
  rcases h.modes with ⟨lease', rfl, -⟩ | hshared
  · rw [List.mem_singleton.1 hmem]
  · rw [hshared lease hmem] at hmode
    cases hmode

/-- Two leases of one session are one. -/
theorem eq_of_owner (h : EntriesOk entries) {lease lease' : Lease} (hmem : lease ∈ entries)
    (hmem' : lease' ∈ entries) (howner : lease.ownerSessionId = lease'.ownerSessionId) :
    lease = lease' :=
  List.inj_on_of_nodup_map h.owners hmem hmem' howner

end EntriesOk

namespace RemoteCore

variable {board : Board} {core core' : RemoteCore} {grants : ℕ}

/-- A resource has no objects if neither a pin nor a port has one of it. -/
theorem resourceHasObjects_eq_false {resourceId : UInt32} :
    core.resourceHasObjects resourceId = false ↔
      (∀ id object, core.gpioObjects.lookup id = some object → object.resourceId ≠ resourceId) ∧
        ∀ id object, core.uartObjects.lookup id = some object → object.resourceId ≠ resourceId := by
  simp only [resourceHasObjects, Bool.or_eq_false_iff, Map.anyValue_eq_false_iff,
    decide_eq_false_iff_not, ne_eq]

/-- What a free resource looks like to a session that asks for a lease. -/
theorem leaseBusy_eq_false {entries : List Lease} {lease : ResourceLeaseRequest}
    {sessionId : UInt32}
    (hmode : lease.mode = .sharedRead ∨ lease.mode = .exclusive)
    (h : core.leaseBusy entries lease sessionId = false) :
    (∀ entry ∈ entries, entry.ownerSessionId ≠ sessionId) ∧
      (entries = [] ∨ lease.mode = .sharedRead ∧ ∀ entry ∈ entries, entry.mode ≠ .exclusive) ∧
      core.resourceHasObjects lease.resourceId = false := by
  simp only [leaseBusy, Bool.or_eq_false_iff, Bool.and_eq_false_iff, List.any_eq_false,
    decide_eq_true_eq, decide_eq_false_iff_not, Bool.not_eq_false', List.isEmpty_iff] at h
  obtain ⟨⟨howner, hexclusive⟩, hshared⟩ := h
  rcases hmode with hmode | hmode
  · obtain ⟨hothers, hobjects⟩ := hshared.resolve_left (not_not.2 hmode)
    exact ⟨howner, .inr ⟨hmode, hothers⟩, hobjects⟩
  · obtain ⟨hempty, hobjects⟩ := hexclusive.resolve_left (not_not.2 hmode)
    exact ⟨howner, .inl hempty, hobjects⟩

/-- The leases with a new one. -/
theorem entriesOk_grant {entries : List Lease} {lease : ResourceLeaseRequest} {sessionId : UInt32}
    {granted : Lease} (h : entries = [] ∨ EntriesOk entries)
    (hmode : lease.mode = .sharedRead ∨ lease.mode = .exclusive)
    (hfree : core.leaseBusy entries lease sessionId = false)
    (hgranted : granted.mode = lease.mode) (howner : granted.ownerSessionId = sessionId)
    (hid : granted.leaseId ≠ 0) : EntriesOk (entries ++ [granted]) := by
  obtain ⟨howners, hmodes, -⟩ := leaseBusy_eq_false hmode hfree
  rcases h with rfl | h
  · refine ⟨List.cons_ne_nil _ _, ?_, List.nodup_singleton _, ?_⟩
    · rcases hmode with hmode | hmode
      · exact .inr fun lease hmem => by
          rw [List.mem_singleton.1 hmem, hgranted, hmode]
      · exact .inl ⟨granted, rfl, hgranted.trans hmode⟩
    · exact fun lease hmem => List.mem_singleton.1 hmem ▸ hid
  · obtain ⟨hshared, hothers⟩ := hmodes.resolve_left h.ne_nil
    refine ⟨List.append_ne_nil_of_left_ne_nil h.ne_nil _, .inr ?_, ?_, ?_⟩
    · intro lease hmem
      rcases List.mem_append.1 hmem with hmem | hmem
      · rcases h.modes with ⟨lease', rfl, hmode'⟩ | hall
        · exact absurd hmode' (hothers lease' List.mem_cons_self)
        · exact hall lease hmem
      · rw [List.mem_singleton.1 hmem, hgranted, hshared]
    · rw [List.map_append, List.map_singleton, List.nodup_append']
      refine ⟨h.owners, List.nodup_singleton _, ?_⟩
      rw [List.disjoint_singleton, howner]
      intro hmem
      obtain ⟨entry, hentry, heq⟩ := List.mem_map.1 hmem
      exact howners entry hentry heq
    · intro lease hmem
      rcases List.mem_append.1 hmem with hmem | hmem
      · exact h.ids lease hmem
      · exact List.mem_singleton.1 hmem ▸ hid

/-! ## What keeps the invariant -/

/-- A session that has a resource to itself. -/
theorem Sound.singleton_of_exclusive (h : Sound board core grants) {resourceId sessionId : UInt32}
    (hlease : core.sessionHasExclusiveLease resourceId sessionId = true) :
    ∃ lease, core.leases.lookup resourceId = some [lease] ∧ lease.mode = .exclusive ∧
      lease.ownerSessionId = sessionId := by
  unfold sessionHasExclusiveLease at hlease
  split at hlease
  · cases hlease
  · next entries hentries =>
    obtain ⟨lease, hmem, hdecide⟩ := List.any_eq_true.1 hlease
    obtain ⟨howner, hmode⟩ := of_decide_eq_true hdecide
    exact ⟨lease, ((h.entries _ _ hentries).eq_singleton hmem hmode) ▸ hentries, hmode, howner⟩

/-- No resource has the ID zero. -/
theorem Sound.lookup_zero (h : Sound board core grants) : core.leases.lookup 0 = none := by
  cases hlookup : core.leases.lookup 0 with
  | none => rfl
  | some entries =>
    have hsupported := h.supported 0 entries hlookup
    unfold Board.contractHas at hsupported
    cases hcontract : board.findContract 0 with
    | none => rw [hcontract] at hsupported; cases hsupported
    | some contract =>
      have hfound := List.find?_some hcontract
      have hid : contract.resourceId = 0 := of_decide_eq_true hfound
      exact absurd hid (board.contracts_ok.1 contract (List.mem_of_find?_eq_some hcontract)).1

/-- The objects on ports are the same, but for the numbers of their events. -/
def SameUart (core core' : RemoteCore) : Prop :=
  ∀ id object', core'.uartObjects.lookup id = some object' →
    ∃ object, core.uartObjects.lookup id = some object ∧ object'.port = object.port ∧
      object'.resourceId = object.resourceId ∧ object'.ownerSessionId = object.ownerSessionId

/-- Objects on ports that have not been touched are the same. -/
theorem SameUart.of_eq (h : core'.uartObjects = core.uartObjects) : SameUart core core' := by
  intro id object hobject
  rw [h] at hobject
  exact ⟨object, hobject, rfl, rfl, rfl⟩

/-- The invariant is about the leases, the objects and the next lease. -/
theorem Sound.congr (h : Sound board core grants) (hleases : core'.leases = core.leases)
    (hgpio : core'.gpioObjects = core.gpioObjects) (huart : SameUart core core')
    (hnext : core'.nextLeaseId = core.nextLeaseId) : Sound board core' grants := by
  -- Whoever holds a lease behind the change has held it before.
  have hholds : ∀ resourceId lease, core'.Holds resourceId lease → core.Holds resourceId lease := by
    intro resourceId lease hholds
    unfold Holds at hholds
    rwa [hleases] at hholds
  constructor
  · rw [hleases]; exact h.entries
  · exact fun resourceId lease hlease => h.owned resourceId lease (hholds _ _ hlease)
  · rw [hleases]; exact h.supported
  · rw [hnext]; exact h.next_ne_zero
  · rw [hnext]; exact h.next
  · exact fun hgrants resourceId lease hlease => h.used hgrants resourceId lease (hholds _ _ hlease)
  · exact fun hgrants _ _ _ _ hlease hlease' =>
      h.distinct hgrants _ _ _ _ (hholds _ _ hlease) (hholds _ _ hlease')
  -- The objects are covered by the same leases, and their pins and ports are the same.
  · constructor
    · unfold Covered; rw [hleases, hgpio]; exact h.objects.gpio
    · intro id object' hobject'
      obtain ⟨object, hobject, -, hresource, howner⟩ := huart id object' hobject'
      unfold Covered
      rw [hleases, hresource, howner]
      exact h.objects.uart id object hobject
    · rw [hgpio]; exact h.objects.pins
    · intro id object' id₂ object₂' hobject' hobject₂' hport
      obtain ⟨object, hobject, hsame, -, -⟩ := huart id object' hobject'
      obtain ⟨object₂, hobject₂, hsame₂, -, -⟩ := huart id₂ object₂' hobject₂'
      exact h.objects.ports id object id₂ object₂ hobject hobject₂
        (by rw [← hsame, ← hsame₂, hport])
  · rw [hgpio]; exact h.gpioHome
  · intro id object' hobject'
    obtain ⟨object, hobject, hport, hresource, -⟩ := huart id object' hobject'
    rw [hport, hresource]
    exact h.uartHome id object hobject

/-- Whether an object is covered depends on the leases on its resource. -/
theorem Covered.congr {resourceId ownerSessionId : UInt32}
    (h : core.Covered resourceId ownerSessionId)
    (hlookup : core'.leases.lookup resourceId = core.leases.lookup resourceId) :
    core'.Covered resourceId ownerSessionId := by
  unfold Covered
  rw [hlookup]
  exact h

/-- The next lease ID, as long as there are new ones. -/
theorem toNat_advanceLeaseId {leaseId : UInt64} (h : leaseId.toNat + 1 < 2^64) :
    (advanceLeaseId leaseId).toNat = leaseId.toNat + 1 := by
  have hadd : (leaseId + 1).toNat = leaseId.toNat + 1 := by
    rw [UInt64.toNat_add, UInt64.toNat_one, Nat.mod_eq_of_lt h]
  unfold advanceLeaseId
  rw [if_neg, hadd]
  intro hzero
  rw [hzero, UInt64.toNat_zero] at hadd
  omega

/-- The next lease ID is an ID. -/
theorem advanceLeaseId_ne_zero (leaseId : UInt64) : advanceLeaseId leaseId ≠ 0 := by
  unfold advanceLeaseId
  split
  · decide
  · next h => exact h

/-- The next lease ID is another one. -/
theorem advanceLeaseId_ne (leaseId : UInt64) (h : leaseId ≠ 0) :
    advanceLeaseId leaseId ≠ leaseId := by
  unfold advanceLeaseId
  split
  · next hwrap =>
    rintro rfl
    exact absurd hwrap (by decide)
  · intro heq
    have hnat := congrArg UInt64.toNat heq
    have hlt := leaseId.toNat_lt
    rw [UInt64.toNat_add, UInt64.toNat_one] at hnat
    omega

/-- A lease behind a grant is the new one or was there. -/
theorem holds_grantLease {entries : List Lease} {lease : ResourceLeaseRequest} {sessionId : UInt32}
    {now : ℤ} (hbefore : entries = [] ∨ core.leases.lookup lease.resourceId = some entries)
    {resourceId : UInt32} {held : Lease}
    (hheld : (core.grantLease entries lease sessionId now).Holds resourceId held) :
    core.Holds resourceId held ∨ resourceId = lease.resourceId ∧
      held.leaseId = core.nextLeaseId ∧ held.ownerSessionId = sessionId := by
  obtain ⟨entries', hlookup, hmem⟩ := hheld
  rw [grantLease, Map.lookup_insert_ite] at hlookup
  split at hlookup
  · next hresource =>
    obtain rfl := Option.some.inj hlookup
    rcases List.mem_append.1 hmem with hmem | hmem
    · rcases hbefore with hnil | hthere
      · rw [hnil] at hmem
        exact absurd hmem List.not_mem_nil
      · exact .inl ⟨entries, hresource ▸ hthere, hmem⟩
    · rw [List.mem_singleton.1 hmem]
      exact .inr ⟨hresource, rfl, rfl⟩
  · exact .inl ⟨entries', hlookup, hmem⟩

/-- The grant of a lease keeps the core sound. -/
theorem Sound.grant (h : Sound board core grants) {lease : ResourceLeaseRequest}
    {sessionId : UInt32} {now : ℤ} (hsession : sessionId ≠ 0)
    (hmode : lease.mode = .sharedRead ∨ lease.mode = .exclusive)
    (hsupported : board.contractHas lease.resourceId kResourceAccessLeaseSupported = true)
    (hfree : core.leaseBusy ((core.leases.lookup lease.resourceId).getD []) lease sessionId =
      false) :
    Sound board
      (core.grantLease ((core.leases.lookup lease.resourceId).getD []) lease sessionId now)
      (grants + 1) := by
  -- The resource has had no leases, or it has sound ones.
  set entries := (core.leases.lookup lease.resourceId).getD [] with hentries
  have hbefore : entries = [] ∨ core.leases.lookup lease.resourceId = some entries := by
    cases hlookup : core.leases.lookup lease.resourceId with
    | none => exact .inl (by rw [hentries, hlookup, Option.getD_none])
    | some entries' => exact .inr (by rw [hentries, hlookup, Option.getD_some])
  have hok : entries = [] ∨ EntriesOk entries := hbefore.imp_right (h.entries _ _)
  obtain ⟨hgpio, huart⟩ := resourceHasObjects_eq_false.1 (leaseBusy_eq_false hmode hfree).2.2
  have hholds : ∀ resourceId held,
      (core.grantLease entries lease sessionId now).Holds resourceId held →
      core.Holds resourceId held ∨ resourceId = lease.resourceId ∧
        held.leaseId = core.nextLeaseId ∧ held.ownerSessionId = sessionId :=
    fun _ _ => holds_grantLease hbefore
  have hnext : grants < 2^64 - 1 → core.nextLeaseId.toNat = grants + 1 := h.next
  constructor
  · intro resourceId entries' hlookup
    rw [grantLease, Map.lookup_insert_ite] at hlookup
    split at hlookup
    · rw [← Option.some.inj hlookup]
      exact entriesOk_grant hok hmode hfree rfl rfl h.next_ne_zero
    · exact h.entries resourceId entries' hlookup
  · intro resourceId held hheld
    rcases hholds resourceId held hheld with hold | ⟨-, -, howner⟩
    · exact h.owned resourceId held hold
    · rwa [howner]
  · intro resourceId entries' hlookup
    rw [grantLease, Map.lookup_insert_ite] at hlookup
    split at hlookup
    · next hresource => rwa [hresource]
    · exact h.supported resourceId entries' hlookup
  · exact advanceLeaseId_ne_zero _
  · intro hgrants
    have hid := hnext (by omega)
    rw [grantLease, toNat_advanceLeaseId (by omega), hid]
  · intro hgrants resourceId held hheld
    rcases hholds resourceId held hheld with hold | ⟨-, hid, -⟩
    · exact Nat.le_succ_of_le (h.used (by omega) resourceId held hold)
    · rw [hid, hnext (by omega)]
  -- A new lease has an ID that no lease has had.
  · intro hgrants resourceId held resourceId' held' hheld hheld' hids
    have hold_lt : ∀ resourceId held, core.Holds resourceId held →
        held.leaseId ≠ core.nextLeaseId := by
      intro resourceId held hheld heq
      have hle := h.used (by omega) resourceId held hheld
      rw [heq, hnext (by omega)] at hle
      omega
    rcases hholds _ _ hheld with hold | ⟨hresource, hid, howner⟩
    · rcases hholds _ _ hheld' with hold' | ⟨-, hid', -⟩
      · exact h.distinct (by omega) _ _ _ _ hold hold' hids
      · exact absurd (hids.trans hid') (hold_lt _ _ hold)
    · rcases hholds _ _ hheld' with hold' | ⟨hresource', -, howner'⟩
      · exact absurd (hids.symm.trans hid) (hold_lt _ _ hold')
      · exact ⟨hresource.trans hresource'.symm, howner.trans howner'.symm⟩
  -- The objects are on other resources, whose leases are as before.
  · have hlookup : ∀ resourceId ≠ lease.resourceId,
        (core.grantLease entries lease sessionId now).leases.lookup resourceId =
          core.leases.lookup resourceId :=
      fun resourceId hne => AList.lookup_insert_ne hne
    exact {
      gpio := fun id object hobject =>
        (h.objects.gpio id object hobject).congr (hlookup _ (hgpio id object hobject))
      uart := fun id object hobject =>
        (h.objects.uart id object hobject).congr (hlookup _ (huart id object hobject))
      pins := h.objects.pins
      ports := h.objects.ports }
  · exact h.gpioHome
  · exact h.uartHome

/-- A change of the table that grants nothing and under which the objects stay covered. -/
theorem Sound.shrink (h : Sound board core grants) {leases : Map UInt32 (List Lease)}
    (hentries : ∀ resourceId entries, leases.lookup resourceId = some entries →
      EntriesOk entries ∧ ∃ before, core.leases.lookup resourceId = some before ∧
        ∀ lease ∈ entries, ∃ lease' ∈ before, lease.leaseId = lease'.leaseId ∧
          lease.ownerSessionId = lease'.ownerSessionId)
    (hleases : core'.leases = leases) (hnext : core'.nextLeaseId = core.nextLeaseId)
    (hobjects : core'.ObjectsOk)
    (hgpio : ∀ id object, core'.gpioObjects.lookup id = some object →
      core.gpioObjects.lookup id = some object)
    (huart : ∀ id object, core'.uartObjects.lookup id = some object →
      core.uartObjects.lookup id = some object) : Sound board core' grants := by
  -- Whoever holds a lease behind the change has held one with its ID and owner before.
  have hholds : ∀ resourceId lease, core'.Holds resourceId lease →
      ∃ lease', core.Holds resourceId lease' ∧ lease.leaseId = lease'.leaseId ∧
        lease.ownerSessionId = lease'.ownerSessionId := by
    rintro resourceId lease ⟨entries, hlookup, hmem⟩
    rw [hleases] at hlookup
    obtain ⟨-, before, hbefore, hall⟩ := hentries resourceId entries hlookup
    obtain ⟨lease', hmem', hid, howner⟩ := hall lease hmem
    exact ⟨lease', ⟨before, hbefore, hmem'⟩, hid, howner⟩
  constructor
  · rw [hleases]
    exact fun resourceId entries hlookup => (hentries resourceId entries hlookup).1
  · intro resourceId lease hlease
    obtain ⟨lease', hold, -, howner⟩ := hholds resourceId lease hlease
    rw [howner]
    exact h.owned resourceId lease' hold
  · rw [hleases]
    intro resourceId entries hlookup
    obtain ⟨-, before, hbefore, -⟩ := hentries resourceId entries hlookup
    exact h.supported resourceId before hbefore
  · rw [hnext]; exact h.next_ne_zero
  · rw [hnext]; exact h.next
  · intro hgrants resourceId lease hlease
    obtain ⟨lease', hold, hid, -⟩ := hholds resourceId lease hlease
    rw [hid]
    exact h.used hgrants resourceId lease' hold
  · intro hgrants resourceId lease resourceId₂ lease₂ hlease hlease₂ hids
    obtain ⟨lease', hold, hid, howner⟩ := hholds resourceId lease hlease
    obtain ⟨lease₂', hold₂, hid₂, howner₂⟩ := hholds resourceId₂ lease₂ hlease₂
    rw [howner, howner₂]
    exact h.distinct hgrants _ _ _ _ hold hold₂ (by rw [← hid, ← hid₂, hids])
  · exact hobjects
  · exact fun id object hobject => h.gpioHome id object (hgpio id object hobject)
  · exact fun id object hobject => h.uartHome id object (huart id object hobject)

/-- The renewal of a lease keeps the core sound. -/
theorem Sound.renew (h : Sound board core grants) {resourceId : UInt32} {entries : List Lease}
    (hlookup : core.leases.lookup resourceId = some entries) (leaseId : UInt64)
    (sessionId durationMs : UInt32) (now : ℤ) :
    Sound board { core with leases := core.leases.insert resourceId (entries.modifyFirst
      (Lease.namedBy leaseId sessionId) (Lease.renew durationMs now)) } grants := by
  -- A renewed lease covers what it has covered.
  have hcovered : ∀ resourceId' ownerSessionId, core.Covered resourceId' ownerSessionId →
      Covered { core with leases := core.leases.insert resourceId (entries.modifyFirst
        (Lease.namedBy leaseId sessionId) (Lease.renew durationMs now)) }
        resourceId' ownerSessionId := by
    intro resourceId' ownerSessionId hcovered
    by_cases hresource : resourceId' = resourceId
    · obtain rfl := hresource
      refine ⟨fun hzero => ?_, fun howner => ?_⟩
      · rw [hcovered.1 hzero] at hlookup
        cases hlookup
      · obtain ⟨lease, hsingle, hmode, hlease⟩ := hcovered.2 howner
        obtain rfl := Option.some.inj (hlookup.symm.trans hsingle)
        dsimp only
        rw [AList.lookup_insert]
        unfold List.modifyFirst
        split
        · exact ⟨_, rfl, hmode, hlease⟩
        · exact ⟨_, rfl, hmode, hlease⟩
    · exact hcovered.congr (AList.lookup_insert_ne hresource)
  refine h.shrink ?_ rfl rfl ?_ (fun _ _ hobject => hobject) (fun _ _ hobject => hobject)
  · intro resourceId' entries' hlookup'
    rw [Map.lookup_insert_ite] at hlookup'
    split at hlookup'
    · next hresource =>
      obtain rfl := Option.some.inj hlookup'
      refine ⟨(h.entries _ _ hlookup).renew leaseId sessionId durationMs now, entries,
        hresource ▸ hlookup, fun lease hmem => ?_⟩
      obtain ⟨before, hbefore, hid, howner, -⟩ := EntriesOk.mem_renew hmem
      exact ⟨before, hbefore, hid, howner⟩
    · exact ⟨h.entries _ _ hlookup', entries', hlookup', fun lease hmem => ⟨lease, hmem, rfl, rfl⟩⟩
  · exact {
      gpio := fun id object hobject => hcovered _ _ (h.objects.gpio id object hobject)
      uart := fun id object hobject => hcovered _ _ (h.objects.uart id object hobject)
      pins := h.objects.pins
      ports := h.objects.ports }

/-- The ends of leases keep the core sound. -/
theorem Sound.endLeases (h : Sound board core grants) (ends : Lease → Bool) :
    Sound board (core.endLeases board ends).2 grants := by
  -- An object that is left was there before.
  have hgpio : ∀ id object, (core.endLeases board ends).2.gpioObjects.lookup id = some object →
      core.gpioObjects.lookup id = some object :=
    fun id object hobject => (gpioObjects_releaseAll.1 hobject).1
  have huart : ∀ id object, (core.endLeases board ends).2.uartObjects.lookup id = some object →
      core.uartObjects.lookup id = some object :=
    fun id object hobject => (uartObjects_releaseAll.1 hobject).1
  -- The lease of an object that is left has not ended.
  have hcovered : ∀ resourceId ownerSessionId, core.Covered resourceId ownerSessionId →
      (∀ entry ∈ core.endedLeases ends,
        ¬(resourceId = entry.1 ∧ ownerSessionId = entry.2.ownerSessionId)) →
      (core.endLeases board ends).2.Covered resourceId ownerSessionId := by
    intro resourceId ownerSessionId hcovered hleft
    refine ⟨fun hzero => ?_, fun howner => ?_⟩
    · rw [lookup_endLeases, hcovered.1 hzero]
      rfl
    · obtain ⟨lease, hsingle, hmode, hlease⟩ := hcovered.2 howner
      have hends : ends lease = false := by
        by_contra hends
        exact hleft (resourceId, lease)
          (mem_endedLeases.2 ⟨⟨_, hsingle, List.mem_cons_self⟩, Bool.not_eq_false _ ▸ hends⟩)
          ⟨rfl, hlease.symm⟩
      refine ⟨lease, ?_, hmode, hlease⟩
      rw [lookup_endLeases, hsingle, Option.map_some, List.filter_cons_of_pos (by rw [hends]; rfl)]
      rfl
  -- The leases that remain stand under their resources in the same order.
  refine h.shrink ?_ rfl ids_releaseAll.1 ?_ hgpio huart
  · intro resourceId entries hlookup
    rw [lookup_endLeases, Option.filter_eq_some_iff, Option.map_eq_some_iff] at hlookup
    obtain ⟨⟨before, hbefore, rfl⟩, hne⟩ := hlookup
    refine ⟨(h.entries _ _ hbefore).sublist List.filter_sublist ?_, before, hbefore,
      fun lease hmem => ⟨lease, (List.mem_filter.1 hmem).1, rfl, rfl⟩⟩
    rwa [Bool.not_eq_true', List.isEmpty_eq_false_iff] at hne
  · constructor
    · intro id object hobject
      obtain ⟨hold, hleft⟩ := gpioObjects_releaseAll.1 hobject
      exact hcovered _ _ (h.objects.gpio id object hold)
        fun entry hentry => of_decide_eq_false (hleft entry hentry)
    · intro id object hobject
      obtain ⟨hold, hleft⟩ := uartObjects_releaseAll.1 hobject
      exact hcovered _ _ (h.objects.uart id object hold)
        fun entry hentry => of_decide_eq_false (hleft entry hentry)
    · exact fun id object id' object' hobject hobject' =>
        h.objects.pins id object id' object' (hgpio _ _ hobject) (hgpio _ _ hobject')
    · exact fun id object id' object' hobject hobject' =>
        h.objects.ports id object id' object' (huart _ _ hobject) (huart _ _ hobject')

/-- The entry of a resource without a lease that is released. -/
theorem lookup_eraseLease_cases {resourceId resourceId' : UInt32} {entries entries' : List Lease}
    {leaseId : UInt64} {sessionId : UInt32}
    (h : (core.eraseLease resourceId entries leaseId sessionId).lookup resourceId' =
      some entries') :
    resourceId' ≠ resourceId ∧ core.leases.lookup resourceId' = some entries' ∨
      resourceId' = resourceId ∧ entries' = entries.eraseP (Lease.namedBy leaseId sessionId) ∧
        entries' ≠ [] := by
  unfold eraseLease at h
  dsimp only at h
  split at h
  · rw [Map.lookup_erase_ite] at h
    split at h
    · cases h
    · next hne => exact .inl ⟨hne, h⟩
  · next hempty =>
    rw [Map.lookup_insert_ite] at h
    split at h
    · next hresource =>
      obtain rfl := Option.some.inj h
      exact .inr ⟨hresource, rfl, fun hnil => hempty (List.isEmpty_iff.2 hnil)⟩
    · next hne => exact .inl ⟨hne, h⟩

/-- The entries of the other resources. -/
theorem lookup_eraseLease_ne {resourceId resourceId' : UInt32} {entries : List Lease}
    {leaseId : UInt64} {sessionId : UInt32} (h : resourceId' ≠ resourceId) :
    (core.eraseLease resourceId entries leaseId sessionId).lookup resourceId' =
      core.leases.lookup resourceId' := by
  unfold eraseLease
  dsimp only
  split
  · exact AList.lookup_erase_ne h
  · exact AList.lookup_insert_ne h

/-- No object is left on a resource of which a session releases its lease: an owner has the resource
to itself. -/
theorem Covered.released {resourceId ownerSessionId leaseSession : UInt32} {entries : List Lease}
    {leaseId : UInt64} (h : core.Covered resourceId ownerSessionId)
    (hlookup : core.leases.lookup resourceId = some entries)
    (hnamed : entries.any (Lease.namedBy leaseId leaseSession) = true) :
    ownerSessionId = leaseSession := by
  by_cases hzero : ownerSessionId = 0
  · rw [h.1 hzero] at hlookup
    cases hlookup
  · obtain ⟨lease, hsingle, -, howner⟩ := h.2 hzero
    obtain rfl := Option.some.inj (hlookup.symm.trans hsingle)
    rw [List.any_cons, List.any_nil, Bool.or_false] at hnamed
    exact howner.symm.trans (of_decide_eq_true hnamed).2

/-- The release of a lease keeps the core sound. -/
theorem Sound.release (h : Sound board core grants) {resourceId : UInt32} {entries : List Lease}
    {leaseId : UInt64} {sessionId : UInt32}
    (hlookup : core.leases.lookup resourceId = some entries)
    (hnamed : entries.any (Lease.namedBy leaseId sessionId) = true) :
    Sound board { core.releaseResourceObjects board resourceId sessionId with
      leases := core.eraseLease resourceId entries leaseId sessionId } grants := by
  -- The objects that are left are those that the release does not name.
  have hgpio : ∀ id object,
      (core.releaseResourceObjects board resourceId sessionId).gpioObjects.lookup id = some object →
      core.gpioObjects.lookup id = some object ∧ gpioHeld resourceId sessionId object = false :=
    fun _ _ => gpioObjects_release.1
  have huart : ∀ id object,
      (core.releaseResourceObjects board resourceId sessionId).uartObjects.lookup id = some object →
      core.uartObjects.lookup id = some object ∧ uartHeld resourceId sessionId object = false :=
    fun _ _ => uartObjects_release.1
  -- Their leases are not the one that is released.
  have hcovered : ∀ resourceId' ownerSessionId, core.Covered resourceId' ownerSessionId →
      ¬(resourceId' = resourceId ∧ ownerSessionId = sessionId) →
      Covered { core.releaseResourceObjects board resourceId sessionId with
        leases := core.eraseLease resourceId entries leaseId sessionId }
        resourceId' ownerSessionId := by
    intro resourceId' ownerSessionId hcovered hleft
    refine hcovered.congr (lookup_eraseLease_ne ?_)
    rintro rfl
    exact hleft ⟨rfl, hcovered.released hlookup hnamed⟩
  refine h.shrink ?_ rfl rfl ?_ (fun _ _ hobject => (hgpio _ _ hobject).1)
    (fun _ _ hobject => (huart _ _ hobject).1)
  · intro resourceId' entries' hlookup'
    rcases lookup_eraseLease_cases hlookup' with ⟨-, hold⟩ | ⟨rfl, rfl, hne⟩
    · exact ⟨h.entries _ _ hold, entries', hold, fun lease hmem => ⟨lease, hmem, rfl, rfl⟩⟩
    · exact ⟨(h.entries _ _ hlookup).sublist List.eraseP_sublist hne, entries, hlookup,
        fun lease hmem => ⟨lease, List.mem_of_mem_eraseP hmem, rfl, rfl⟩⟩
  · constructor
    · intro id object hobject
      obtain ⟨hold, hleft⟩ := hgpio _ _ hobject
      exact hcovered _ _ (h.objects.gpio id object hold) (of_decide_eq_false hleft)
    · intro id object hobject
      obtain ⟨hold, hleft⟩ := huart _ _ hobject
      exact hcovered _ _ (h.objects.uart id object hold) (of_decide_eq_false hleft)
    · exact fun id object id' object' hobject hobject' => h.objects.pins id object id' object'
        (hgpio _ _ hobject).1 (hgpio _ _ hobject').1
    · exact fun id object id' object' hobject hobject' => h.objects.ports id object id' object'
        (huart _ _ hobject).1 (huart _ _ hobject').1

/-- The owner of a new object covers it. -/
theorem Sound.objectOwner (h : Sound board core grants) {type : ResourceType} {instance' : UInt16}
    {sessionId resourceId ownerSessionId : UInt32}
    (howner : core.objectOwner board type instance' sessionId = .ok (resourceId, ownerSessionId)) :
    resourceId = homeOf board type instance' ∧ core.Covered resourceId ownerSessionId := by
  unfold RemoteCore.objectOwner at howner
  unfold homeOf
  -- The resource has not been published, so that the object is on none.
  split at howner
  · next hnone =>
    split at howner
    · cases howner
    · obtain ⟨rfl, rfl⟩ := Prod.mk.inj (Except.ok.inj howner)
      rw [hnone]
      exact ⟨rfl, fun _ => h.lookup_zero, fun hne => absurd rfl hne⟩
  · next resource hsome =>
    dsimp only at howner
    split at howner
    · cases howner
    · next hallowed =>
      obtain ⟨rfl, rfl⟩ := Prod.mk.inj (Except.ok.inj howner)
      rw [hsome]
      refine ⟨rfl, ?_⟩
      -- The session owns the object if it has the resource to itself.
      cases hexclusive : core.sessionHasExclusiveLease resource.resourceId sessionId with
      | true =>
        rw [if_pos rfl]
        obtain ⟨lease, hsingle, hmode, hlease⟩ := h.singleton_of_exclusive hexclusive
        refine ⟨fun hzero => ?_, fun _ => ⟨lease, hsingle, hmode, hlease⟩⟩
        exact absurd (hlease.trans hzero) (h.owned _ lease ⟨_, hsingle, List.mem_cons_self⟩)
      | false =>
        rw [if_neg Bool.false_ne_true]
        refine ⟨fun _ => ?_, fun hne => absurd rfl hne⟩
        cases hlookup : core.leases.lookup resource.resourceId with
        | none => rfl
        | some entries =>
          refine absurd ⟨.inr ?_, ?_⟩ hallowed
          · rw [leaseActive, hlookup]
            rfl
          · rw [hexclusive]
            exact Bool.false_ne_true

/-- Two keys with one value in a map with a new value belong together, if they did before and the
value is not there yet. -/
theorem unique_emplace {V W : Type} {m : Map UInt32 V} {key : V → W} {k : UInt32} {v : V}
    (h : ∀ id u id' u', m.lookup id = some u → m.lookup id' = some u' → key u = key u' → id = id')
    (hnew : ∀ id u, m.lookup id = some u → key u ≠ key v) {id : UInt32} {u : V} {id' : UInt32}
    {u' : V} (hu : (m.emplace k v).lookup id = some u) (hu' : (m.emplace k v).lookup id' = some u')
    (hkey : key u = key u') : id = id' := by
  rcases Map.lookup_emplace_cases hu with hold | ⟨rfl, rfl⟩
  · rcases Map.lookup_emplace_cases hu' with hold' | ⟨rfl, rfl⟩
    · exact h id u id' u' hold hold' hkey
    · exact absurd hkey (hnew id u hold)
  · rcases Map.lookup_emplace_cases hu' with hold' | ⟨rfl, rfl⟩
    · exact absurd hkey.symm (hnew id' u' hold')
    · rfl

/-- A new object on a pin. -/
theorem Sound.createGpio (h : Sound board core grants) {object : GpioObject} {objectId : UInt32}
    (hhome : object.resourceId = homeOf board .gpio object.pin)
    (hcovered : core.Covered object.resourceId object.ownerSessionId)
    (hfree : core.gpioObjects.anyValue (fun other => other.pin = object.pin) = false)
    {bsp : Option MockGpioBsp} {next : UInt32} :
    Sound board { core with
      gpioBsp := bsp
      nextObjectId := next
      gpioObjects := core.gpioObjects.emplace objectId object } grants := by
  have hnew := (Map.anyValue_eq_false_iff _ _).1 hfree
  exact {
    h with
    objects := {
      gpio := fun id other hother => by
        rcases Map.lookup_emplace_cases hother with hold | ⟨-, rfl⟩
        · exact h.objects.gpio id other hold
        · exact hcovered
      uart := h.objects.uart
      pins := fun id other id' other' hother hother' hpin =>
        unique_emplace h.objects.pins (fun id other hother =>
          of_decide_eq_false (hnew id other hother))
          hother hother' hpin
      ports := h.objects.ports }
    gpioHome := fun id other hother => by
      rcases Map.lookup_emplace_cases hother with hold | ⟨-, rfl⟩
      · exact h.gpioHome id other hold
      · exact hhome }

/-- A new object on a port. -/
theorem Sound.createUart (h : Sound board core grants) {object : UartObject} {objectId : UInt32}
    (hhome : object.resourceId = homeOf board .uart object.port.toUInt16)
    (hcovered : core.Covered object.resourceId object.ownerSessionId)
    (hfree : core.uartObjects.anyValue (fun other => other.port = object.port) = false)
    {bsp : Option MockUartBsp} {next : UInt32} :
    Sound board { core with
      uartBsp := bsp
      nextObjectId := next
      uartObjects := core.uartObjects.emplace objectId object } grants := by
  have hnew := (Map.anyValue_eq_false_iff _ _).1 hfree
  exact {
    h with
    objects := {
      gpio := h.objects.gpio
      uart := fun id other hother => by
        rcases Map.lookup_emplace_cases hother with hold | ⟨-, rfl⟩
        · exact h.objects.uart id other hold
        · exact hcovered
      pins := h.objects.pins
      ports := fun id other id' other' hother hother' hport =>
        unique_emplace h.objects.ports
          (fun id other hother => of_decide_eq_false (hnew id other hother)) hother hother' hport }
    uartHome := fun id other hother => by
      rcases Map.lookup_emplace_cases hother with hold | ⟨-, rfl⟩
      · exact h.uartHome id other hold
      · exact hhome }

/-- What a request does keeps the core sound, and grants a lease or leaves the next number. -/
theorem Sound.effect (h : Sound board core grants) {request : Packet} {now : ℤ}
    (heffect : Effect board core request now core') :
    core'.nextLeaseId = core.nextLeaseId ∧ Sound board core' grants ∨
      core'.nextLeaseId ≠ core.nextLeaseId ∧ Sound board core' (grants + 1) := by
  cases heffect with
  | unchanged => exact .inl ⟨rfl, h⟩
  | bootloader => exact .inl ⟨rfl, h.congr rfl rfl (.of_eq rfl) rfl⟩
  | eraseEmpty hempty => exact absurd rfl (h.entries _ _ hempty).ne_nil
  | grant lease hsession hmode hsupported hfree =>
    exact .inr ⟨advanceLeaseId_ne _ h.next_ne_zero, h.grant hsession hmode hsupported hfree⟩
  | renew token hentries => exact .inl ⟨rfl, h.renew hentries _ _ _ _⟩
  | release token _ _ hentries hnamed => exact .inl ⟨rfl, h.release hentries hnamed⟩
  | createGpio direction value hbsp howner hfree =>
    obtain ⟨hhome, hcovered⟩ := h.objectOwner howner
    exact .inl ⟨rfl, h.createGpio hhome hcovered hfree⟩
  | useGpio => exact .inl ⟨rfl, h.congr rfl rfl (.of_eq rfl) rfl⟩
  | createUart streaming hbsp howner hfree hconfigure =>
    obtain ⟨hhome, hcovered⟩ := h.objectOwner howner
    exact .inl ⟨rfl, h.createUart hhome hcovered hfree⟩
  | useUart => exact .inl ⟨rfl, h.congr rfl rfl (.of_eq rfl) rfl⟩
  | resetUart => exact .inl ⟨rfl, h.congr rfl rfl (.of_eq rfl) rfl⟩
  | useMotion => exact .inl ⟨rfl, h.congr rfl rfl (.of_eq rfl) rfl⟩

variable (core) in
/-- The poll for received bytes changes the numbers of the events. -/
theorem pollUartEvents_spec (maximumPayload : ℕ) :
    (core.pollUartEvents maximumPayload).2.leases = core.leases ∧
      (core.pollUartEvents maximumPayload).2.gpioObjects = core.gpioObjects ∧
      SameUart core (core.pollUartEvents maximumPayload).2 ∧
      (core.pollUartEvents maximumPayload).2.nextLeaseId = core.nextLeaseId := by
  unfold pollUartEvents
  split
  · exact ⟨rfl, rfl, .of_eq rfl, rfl⟩
  · refine List.foldlRecOn (motive := fun polled : List Packet × RemoteCore =>
      polled.2.leases = core.leases ∧ polled.2.gpioObjects = core.gpioObjects ∧
        SameUart core polled.2 ∧ polled.2.nextLeaseId = core.nextLeaseId) _ _
      ⟨rfl, rfl, .of_eq rfl, rfl⟩ ?_
    rintro ⟨events, polled⟩ h entry hentry
    have hlookup := (Map.mem_entries_iff _ _ _).1 hentry
    dsimp only
    unfold pollUartObject
    split
    · exact h
    · split
      · exact h
      · split
        · exact h
        · exact h
        · refine ⟨h.1, h.2.1, fun id object hobject => ?_, h.2.2.2⟩
          dsimp only at hobject
          rw [Map.lookup_insert_ite] at hobject
          split at hobject
          · next hid =>
            rw [← Option.some.inj hobject]
            exact ⟨entry.2, hid ▸ hlookup, rfl, rfl, rfl⟩
          · exact h.2.2.1 id object hobject

/-- The poll for received bytes leaves the motion executor. -/
theorem motion_pollUartEvents (maximumPayload : ℕ) :
    (core.pollUartEvents maximumPayload).2.motion = core.motion := by
  unfold pollUartEvents
  split
  · rfl
  · refine List.foldlRecOn (motive := fun polled : List Packet × RemoteCore =>
      polled.2.motion = core.motion) _ _ rfl ?_
    rintro ⟨events, polled⟩ h entry -
    dsimp only
    unfold pollUartObject
    split
    · exact h
    · split
      · exact h
      · split <;> exact h

/-- A request keeps the core sound, and grants a lease or leaves the next number. -/
theorem Sound.handle (h : Sound board core grants) (request : Packet) (now : ℤ) :
    (core.handle board request now).2.nextLeaseId = core.nextLeaseId ∧
        Sound board (core.handle board request now).2 grants ∨
      (core.handle board request now).2.nextLeaseId ≠ core.nextLeaseId ∧
        Sound board (core.handle board request now).2 (grants + 1) := by
  unfold RemoteCore.handle
  split
  · exact .inl ⟨rfl, h⟩
  · split
    · exact .inl ⟨rfl, h⟩
    · have hexpired : Sound board (core.expireLeases board now).2 grants := h.endLeases _
      have hids : (core.expireLeases board now).2.nextLeaseId = core.nextLeaseId :=
        ids_releaseAll.1
      rw [← hids]
      exact hexpired.effect dispatch_effect

/-- An event grants a lease, or keeps the next ID. -/
theorem Sound.step (h : Sound board core grants) (event : CoreEvent) :
    (core.step board event).nextLeaseId = core.nextLeaseId ∧
        Sound board (core.step board event) grants ∨
      (core.step board event).nextLeaseId ≠ core.nextLeaseId ∧
        Sound board (core.step board event) (grants + 1) := by
  cases event with
  | handle request now => exact h.handle request now
  | expireLeases now => exact .inl ⟨ids_releaseAll.1, h.endLeases _⟩
  | releaseSession sessionId => exact .inl ⟨ids_releaseAll.1, h.endLeases _⟩
  | pollUartEvents maximumPayload =>
    obtain ⟨hleases, hgpio, huart, hnext⟩ := pollUartEvents_spec core maximumPayload
    exact .inl ⟨hnext, h.congr hleases hgpio huart hnext⟩
  | setGpio bsp => exact .inl ⟨rfl, h.congr rfl rfl (.of_eq rfl) rfl⟩
  | setUart bsp => exact .inl ⟨rfl, h.congr rfl rfl (.of_eq rfl) rfl⟩
  | advanceMotion nowNs => exact .inl ⟨rfl, h.congr rfl rfl (.of_eq rfl) rfl⟩
  | triggerLimit axisResourceId nowNs => exact .inl ⟨rfl, h.congr rfl rfl (.of_eq rfl) rfl⟩

/-- A core as the constructor makes it. -/
def fresh (gpioBsp : Option MockGpioBsp) (uartBsp : Option MockUartBsp)
    (motion : Option MotionExecutor) : RemoteCore :=
  { gpioBsp := gpioBsp, uartBsp := uartBsp, motion := motion }

/-- A new core has no leases and no objects. -/
theorem sound_fresh (gpioBsp : Option MockGpioBsp) (uartBsp : Option MockUartBsp)
    (motion : Option MotionExecutor) : Sound board (fresh gpioBsp uartBsp motion) 0 := by
  have hholds : ∀ resourceId lease, ¬(fresh gpioBsp uartBsp motion).Holds resourceId lease := by
    rintro resourceId lease ⟨entries, hlookup, -⟩
    cases hlookup
  have hnext : (1 : UInt64) ≠ 0 := by decide
  exact {
    entries := nofun
    owned := fun resourceId lease hlease => absurd hlease (hholds _ _)
    supported := nofun
    next_ne_zero := hnext
    next := fun _ => rfl
    used := fun _ resourceId lease hlease => absurd hlease (hholds _ _)
    distinct := fun _ _ _ _ _ hlease => absurd hlease (hholds _ _)
    objects := ⟨nofun, nofun, nofun, nofun⟩
    gpioHome := nofun
    uartHome := nofun }

/-- The invariant holds in every run. -/
theorem sound_run (gpioBsp : Option MockGpioBsp) (uartBsp : Option MockUartBsp)
    (motion : Option MotionExecutor) (events : List CoreEvent) :
    Sound board ((coreMachine board).run ⟨fresh gpioBsp uartBsp motion, 0⟩ events).core
      ((coreMachine board).run ⟨fresh gpioBsp uartBsp motion, 0⟩ events).grants := by
  refine (coreMachine board).run_induction
    (P := fun ledger => Sound board ledger.core ledger.grants) ?_ (sound_fresh _ _ _) events
  intro ledger event h
  change Sound board (ledger.core.step board event) (if _ then _ else _)
  rcases h.step event with ⟨hsame, hsound⟩ | ⟨hnext, hsound⟩
  · rwa [if_pos hsame]
  · rwa [if_neg hnext]

/-! ## The ends of leases -/

/-- Leases that end leave nothing behind. -/
theorem endLeases_endsCleanly (ends : Lease → Bool) :
    EndsCleanly core (core.endLeases board ends).2 := by
  intro resourceId lease hlease hended
  have hends : ends lease = true := by
    by_contra hends
    exact hended (holds_endLeases.2 ⟨hlease, Bool.not_eq_true _ ▸ hends⟩)
  have hmem : (resourceId, lease) ∈ core.endedLeases ends := mem_endedLeases.2 ⟨hlease, hends⟩
  exact {
    gpio := fun id object hobject => (gpioObjects_releaseAll.1 hobject).2 _ hmem
    uart := fun id object hobject => (uartObjects_releaseAll.1 hobject).2 _ hmem
    low := fun id object hobject hheld houtput hwritable =>
      pinLowered_releaseAll hmem hobject hheld houtput hwritable
    reset := fun id object hobject hheld hresettable =>
      portCleared_releaseAll hmem hobject hheld hresettable }

/-- A release leaves no object of the session on the resource, its outputs low and its ports reset.
-/
theorem released_release {resourceId sessionId : UInt32} :
    Released core (core.releaseResourceObjects board resourceId sessionId)
      resourceId sessionId where
  gpio _ _ hobject := (gpioObjects_release.1 hobject).2
  uart _ _ hobject := (uartObjects_release.1 hobject).2
  low _ _ hobject hheld houtput hwritable := pinLowered_release hobject hheld houtput hwritable
  reset _ _ hobject hheld hresettable := portCleared_release hobject hheld hresettable

/-- A lease that is released leaves nothing behind. -/
theorem handleResourceRelease_endsCleanly (request : Packet) :
    EndsCleanly core (core.handleResourceRelease board request).2 := by
  intro resourceId lease hlease hended
  rcases handleResourceRelease_cases board core request with
    hsame | ⟨token, -, entries, hentries, -, hreleased⟩
  · rw [hsame] at hended
    exact absurd hlease hended
  · rw [hreleased] at hended ⊢
    obtain ⟨held, hheld, hmem⟩ := hlease
    -- The lease that has gone is the one that was named.
    have hresource : resourceId = token.resourceId := by
      by_contra hne
      exact hended ⟨held, (lookup_eraseLease_ne hne).trans hheld, hmem⟩
    subst hresource
    obtain rfl := Option.some.inj (hheld.symm.trans hentries)
    have howner : lease.ownerSessionId = request.header.sessionId := by
      by_contra hne
      have hnot : ¬Lease.namedBy token.leaseId request.header.sessionId lease = true :=
        fun hnamed => hne (of_decide_eq_true hnamed).2
      have hleft := (List.mem_eraseP_of_neg hnot).2 hmem
      refine hended ⟨_, ?_, hleft⟩
      dsimp only
      rw [eraseLease, if_neg, AList.lookup_insert]
      rw [List.isEmpty_iff]
      exact List.ne_nil_of_mem hleft
    rw [howner]
    have hreleased : Released core (core.releaseResourceObjects board token.resourceId
      request.header.sessionId) token.resourceId request.header.sessionId := released_release
    exact ⟨hreleased.gpio, hreleased.uart, hreleased.low, hreleased.reset⟩

/-- In every run of requests, timers, ends of sessions and polls, whatever the outside does to the
pins, the ports and the motion, the table of leases and the objects agree, and a lease that ends
because it expires, because its session ends or because it is released leaves no object behind. -/
theorem leases_cover_objects (board : Board) (gpioBsp : Option MockGpioBsp)
    (uartBsp : Option MockUartBsp) (motion : Option MotionExecutor) (events : List CoreEvent) :
    let ledger := (coreMachine board).run ⟨fresh gpioBsp uartBsp motion, 0⟩ events
    LeaseTableOk board ledger.core ledger.grants ∧ ledger.core.ObjectsOk ∧
      (∀ now, EndsCleanly ledger.core (ledger.core.expireLeases board now).2) ∧
      (∀ sessionId, EndsCleanly ledger.core (ledger.core.releaseSession board sessionId).2) ∧
      ∀ request, EndsCleanly ledger.core (ledger.core.handleResourceRelease board request).2 := by
  intro ledger
  have h : Sound board ledger.core ledger.grants := sound_run gpioBsp uartBsp motion events
  refine ⟨⟨h.entries, h.supported, ?_⟩, h.objects, fun now => endLeases_endsCleanly _,
    fun sessionId => endLeases_endsCleanly _, handleResourceRelease_endsCleanly⟩
  intro hgrants resourceId lease resourceId' lease' hlease hlease' hids
  obtain ⟨rfl, howner⟩ := h.distinct hgrants _ _ _ _ hlease hlease' hids
  obtain ⟨entries, hlookup, hmem⟩ := hlease
  obtain ⟨entries', hlookup', hmem'⟩ := hlease'
  obtain rfl := Option.some.inj (hlookup.symm.trans hlookup')
  exact ⟨rfl, (h.entries _ _ hlookup).eq_of_owner hmem hmem' howner⟩

end RemoteCore

end RemoteBSP.MockMcu
