import RemoteBSP.MockMcu.DigitalTwin
import RemoteBSP.MockMcu.ExecutorRuns
import RemoteBSP.Protocol.PayloadCodecs

/-!
# What the loader lets through

A manifest that has been loaded is sound (`BoardManifest.Sound`): no resource is there twice, none
is reserved, each has its contract and its capability, and each axis its configuration and the
queue that it shares with the others. The loader takes the manifest apart in phases, each of which
adds to a list of its own, and there is one lemma for each of them, which says what it adds and
that the rest stays.

Soundness is not yet enough to put the board into service: the core wants a resource ID other than
zero, and the executor a step rate that leaves room for the pulses. Nothing else is missing
(`in_service_iff`). Whether the catalog can then be read over the wire depends on its size
(`catalog_over_the_wire`).
-/

namespace RemoteBSP.MockMcu

open Json (JsonValue)

variable {manifest manifest' : BoardManifest} {group : ResourceGroup} {offset : ℕ}
  {value : JsonValue}

/-! ## Groups of resources -/

/-- A contract is of the version of the loader, and a lease that it demands it also supports. -/
def ContractKept (contract : ResourceContract) : Prop :=
  contract.version = kResourceContractVersion ∧
    ¬(contract.hasAccess kResourceAccessLeaseRequired = true ∧
      contract.hasAccess kResourceAccessLeaseSupported = false)

/-- What the loader has checked of a group, behind a number of resources. -/
structure ResourceGroup.Checked (capabilities : UInt64) (resources : ℕ) (group : ResourceGroup) :
    Prop where
  /-- A group stands for 1 to 256 resources. -/
  count : 1 ≤ group.count.toNat ∧ group.count.toNat ≤ 256
  /-- The numbers of its resources are of 16 bits. -/
  instances : group.firstInstance.toNat + group.count.toNat ≤ 65536
  /-- The numbers of ports are of eight bits. -/
  ports : group.type = .uart → group.firstInstance.toNat + group.count.toNat ≤ 256
  /-- The IDs of its resources are of 32 bits. -/
  ids : group.idBase.toNat + group.count.toNat ≤ 2^32
  /-- The board declares the capability that its resources need. -/
  declared : capabilities &&& resourceCapability group.type ≠ 0
  /-- With its resources the catalog has no more than it may have. -/
  room : resources + group.count.toNat ≤ 0xFFFF
  /-- A contract is about its resource. -/
  contract_id : ∀ resourceId, (group.contract resourceId).resourceId = resourceId
  /-- A lease is required by its contract only if it can be had. -/
  contract_kept : ∀ resourceId, ContractKept (group.contract resourceId)

/-- The numbers of a group that the loader admits. -/
theorem checkGroupRange_ok {type : ResourceType} {firstInstance count : UInt16} {idBase : UInt32}
    (h : checkGroupRange type firstInstance count idBase = .ok ()) :
    (1 ≤ count.toNat ∧ count.toNat ≤ 256) ∧ firstInstance.toNat + count.toNat ≤ 65536 ∧
      (type = .uart → firstInstance.toNat + count.toNat ≤ 256) ∧
      idBase.toNat + count.toNat ≤ 2^32 := by
  -- Neither sum of the checks wraps around.
  have hsum : (firstInstance.toUInt32 + count.toUInt32).toNat =
      firstInstance.toNat + count.toNat := by
    have hfirst := firstInstance.toNat_lt
    have hcount := count.toNat_lt
    rw [UInt32.toNat_add, UInt16.toNat_toUInt32, UInt16.toNat_toUInt32]
    omega
  unfold checkGroupRange schemaError at h
  split_ifs at h with hcount hinstances hports hids
  obtain ⟨hzero, hmany⟩ := not_or.1 hcount
  rw [gt_iff_lt, UInt16.not_lt, UInt16.le_iff_toNat_le] at hmany
  have hpos : 1 ≤ count.toNat := by
    rw [Nat.one_le_iff_ne_zero]
    exact fun h => hzero (UInt16.toNat_inj.1 h)
  have hbelow : (count.toUInt32 - 1).toNat = count.toNat - 1 := by
    rw [UInt32.toNat_sub_of_le]
    · rfl
    · rw [UInt32.le_iff_toNat_le, UInt16.toNat_toUInt32]
      exact hpos
  have hleft : (0xFFFFFFFF - (count.toUInt32 - 1)).toNat = 0xFFFFFFFF - (count.toNat - 1) := by
    have hcount := count.toNat_lt
    rw [UInt32.toNat_sub_of_le, hbelow]
    · rfl
    · rw [UInt32.le_iff_toNat_le, hbelow]
      show count.toNat - 1 ≤ 4294967295
      omega
  -- The checks bound the sums as numbers.
  rw [gt_iff_lt, UInt32.not_lt, UInt32.le_iff_toNat_le, hsum] at hinstances
  rw [gt_iff_lt, UInt32.not_lt, UInt32.le_iff_toNat_le, hleft] at hids
  refine ⟨⟨hpos, hmany⟩, hinstances, fun huart => ?_, ?_⟩
  · have hport := not_and.1 hports huart
    rw [gt_iff_lt, UInt32.not_lt, UInt32.le_iff_toNat_le, hsum] at hport
    exact hport
  · have hcount := count.toNat_lt
    omega

/-- The contracts of a group can be kept. -/
theorem parseContract_ok {contract : UInt32 → ResourceContract}
    (h : parseContract value = .ok contract) (resourceId : UInt32) :
    (contract resourceId).resourceId = resourceId ∧ ContractKept (contract resourceId) := by
  unfold parseContract at h
  simp only [Except.bind_eq_ok_iff] at h
  obtain ⟨object, -, -, -, access, -, accessFlags, hflags, h⟩ := h
  obtain ⟨_, -, _, -, _, -, _, -, _, -, _, -, h⟩ := h
  obtain rfl := Except.ok.inj h
  unfold parseAccessFlags at hflags
  obtain ⟨flags, -, hflags⟩ := Except.bind_eq_ok_iff.1 hflags
  unfold schemaError at hflags
  split_ifs at hflags with hlease
  obtain rfl := Except.ok.inj hflags
  refine ⟨rfl, rfl, fun ⟨hrequired, hsupported⟩ => hlease ⟨?_, ?_⟩⟩
  · exact of_decide_eq_true hrequired
  · exact not_not.1 (of_decide_eq_false hsupported)

/-- A group that has been read has been checked. -/
theorem parseGroup_ok {capabilities : UInt64} {resources : ℕ}
    (h : parseGroup capabilities resources value = .ok group) :
    group.Checked capabilities resources := by
  unfold parseGroup at h
  simp only [Except.bind_eq_ok_iff] at h
  obtain ⟨object, -, -, -, text, -, type, -, firstInstance, -, count, -, idBase, -, h⟩ := h
  obtain ⟨⟨⟩, hrange, source, -, flags, -, rxCapacity, -, txCapacity, -, h⟩ := h
  obtain ⟨field, -, contract, hcontract, h⟩ := h
  unfold schemaError at h
  split_ifs at h with hdeclared hroom
  obtain rfl := Except.ok.inj h
  obtain ⟨hcount, hinstances, hports, hids⟩ := checkGroupRange_ok hrange
  exact ⟨hcount, hinstances, hports, hids, hdeclared, by dsimp only; omega,
    fun resourceId => (parseContract_ok hcontract resourceId).1,
    fun resourceId => (parseContract_ok hcontract resourceId).2⟩

/-! ## The catalog -/

/-- The resources and the contracts of a manifest, as the loader puts them together. -/
structure BoardManifest.Catalog (manifest : BoardManifest) : Prop where
  /-- The catalog has no more resources than the host can count. -/
  length_le : manifest.resources.length ≤ 0xFFFF
  /-- No two resources have the same ID. -/
  ids : (manifest.resources.map ResourceDescriptor.resourceId).Nodup
  /-- No two resources have the same type and number. -/
  instances : manifest.instances.Nodup
  /-- Each resource has a contract, in the same order. -/
  contracts : manifest.contracts.map ResourceContract.resourceId =
    manifest.resources.map ResourceDescriptor.resourceId
  /-- A lease is required by a contract only if it can be had. -/
  kept : ∀ contract ∈ manifest.contracts, ContractKept contract
  /-- The board declares the capability that each resource needs. -/
  declared : ∀ resource ∈ manifest.resources,
    manifest.capabilities &&& resourceCapability resource.type ≠ 0
  /-- The instance of a port is a byte. -/
  ports : ∀ resource ∈ manifest.resources, resource.type = .uart → resource.instance'.toNat < 256

/-- The manifest with other resources and contracts. -/
def BoardManifest.withCatalog (manifest : BoardManifest) (resources : List ResourceDescriptor)
    (contracts : List ResourceContract) : BoardManifest :=
  { manifest with resources := resources, contracts := contracts }

/-- A resource that is added is new. -/
theorem addResource_ok (h : addResource group manifest offset = .ok manifest') :
    (group.resource offset).resourceId ∉ manifest.resources.map ResourceDescriptor.resourceId ∧
      ((group.resource offset).type, (group.resource offset).instance') ∉ manifest.instances ∧
      manifest' = manifest.withCatalog (manifest.resources ++ [group.resource offset])
        (manifest.contracts ++ [group.contract (group.resource offset).resourceId]) := by
  unfold addResource schemaError at h
  dsimp only at h
  split_ifs at h with hdouble
  obtain ⟨hid, hinstance⟩ := not_or.1 hdouble
  exact ⟨hid, hinstance, (Except.ok.inj h).symm⟩

/-- A resource of a group that has passed the checks joins the catalog, which stays in order. -/
theorem BoardManifest.Catalog.addResource {resources : ℕ} (h : manifest.Catalog)
    (hgroup : group.Checked manifest.capabilities resources) (hoffset : offset < group.count.toNat)
    (hlength : manifest.resources.length < 0xFFFF)
    (hadd : addResource group manifest offset = .ok manifest') : manifest'.Catalog := by
  obtain ⟨hid, hinstance, rfl⟩ := addResource_ok hadd
  constructor
  · show (manifest.resources ++ [group.resource offset]).length ≤ 0xFFFF
    rw [List.length_append, List.length_singleton]
    exact hlength
  · show ((manifest.resources ++ [group.resource offset]).map _).Nodup
    rw [List.map_append, List.map_singleton, ← List.concat_eq_append]
    exact h.ids.concat hid
  · show ((manifest.resources ++ [group.resource offset]).map _).Nodup
    rw [List.map_append, List.map_singleton, ← List.concat_eq_append]
    exact List.Nodup.concat hinstance h.instances
  · show (manifest.contracts ++ [_]).map _ = (manifest.resources ++ [_]).map _
    rw [List.map_append, List.map_append, h.contracts, List.map_singleton, List.map_singleton,
      hgroup.contract_id]
  · intro contract hmem
    rcases List.mem_append.1 hmem with hmem | hmem
    · exact h.kept contract hmem
    · rw [List.mem_singleton.1 hmem]
      exact hgroup.contract_kept _
  · intro resource hmem
    rcases List.mem_append.1 hmem with hmem | hmem
    · exact h.declared resource hmem
    · rw [List.mem_singleton.1 hmem]
      exact hgroup.declared
  · intro resource hmem huart
    rcases List.mem_append.1 hmem with hmem | hmem
    · exact h.ports resource hmem huart
    · obtain rfl := List.mem_singleton.1 hmem
      -- The sum of the first instance and the offset does not wrap.
      have hport := hgroup.ports huart
      show ((group.firstInstance.toUInt32 + UInt32.ofNat offset).toUInt16).toNat < 256
      have hnat : (UInt32.ofNat offset).toNat = offset :=
        UInt32.toNat_ofNat_of_lt' (show offset < 2^32 by omega)
      rw [UInt32.toNat_toUInt16, UInt32.toNat_add, UInt16.toNat_toUInt32, hnat]
      omega

/-- A group joins the catalog, and the rest of the manifest stays. -/
theorem addGroup_ok (h : manifest.Catalog) (hadd : addGroup manifest value = .ok manifest') :
    manifest'.Catalog ∧ ∃ resources contracts,
      manifest' = manifest.withCatalog resources contracts := by
  unfold addGroup at hadd
  obtain ⟨group, hgroup, hadd⟩ := Except.bind_eq_ok_iff.1 hadd
  have hchecked := parseGroup_ok hgroup
  have hroom := hchecked.room
  obtain ⟨hcatalog, -, hrest⟩ := List.range_foldlM_ok
    (P := fun k next => next.Catalog ∧ next.resources.length = manifest.resources.length + k ∧
      ∃ resources contracts, next = manifest.withCatalog resources contracts)
    (fun k next next' hk ⟨hnext, hlength, resources, contracts, heq⟩ hstep => by
      have hcapabilities : next.capabilities = manifest.capabilities := by
        rw [heq]
        rfl
      have hjoin := hnext.addResource (hcapabilities ▸ hchecked) hk (by omega) hstep
      obtain ⟨-, -, rfl⟩ := addResource_ok hstep
      refine ⟨hjoin, ?_, _, _, by rw [heq]; rfl⟩
      show (next.resources ++ [_]).length = _
      rw [List.length_append, List.length_singleton, hlength, Nat.add_assoc])
    ⟨h, rfl, manifest.resources, manifest.contracts, rfl⟩ hadd
  exact ⟨hcatalog, hrest⟩

/-! ## Reserved resources and axes -/

/-- The types and numbers of the reserved resources. -/
def BoardManifest.reservedInstances (manifest : BoardManifest) : List (ResourceType × UInt16) :=
  manifest.reservedResources.map fun entry => (entry.type, entry.instance')

/-- What is reserved in a manifest. -/
structure BoardManifest.Reserves (manifest : BoardManifest) : Prop where
  /-- No pin, port or axis is reserved twice. -/
  nodup : manifest.reservedInstances.Nodup
  /-- What is reserved is not a resource. -/
  apart : ∀ key ∈ manifest.reservedInstances, key ∉ manifest.instances
  /-- What a resource is reserved for is said in 1 to 64 bytes. -/
  owners : ∀ entry ∈ manifest.reservedResources, entry.owner ≠ [] ∧ entry.owner.length ≤ 64

/-- A reserved resource joins the others. -/
theorem addReserved_ok (h : manifest.Reserves) (hadd : addReserved manifest value = .ok manifest') :
    manifest'.Reserves ∧
      ∃ reserved, manifest' = { manifest with reservedResources := reserved } := by
  unfold addReserved at hadd
  simp only [Except.bind_eq_ok_iff] at hadd
  obtain ⟨_, -, _, -, _, -, type, -, instance', -, owner, -, hadd⟩ := hadd
  unfold schemaError at hadd
  split_ifs at hadd with howner hdouble hpublic
  obtain ⟨hname, hlong⟩ := not_or.1 howner
  obtain rfl := Except.ok.inj hadd
  refine ⟨⟨?_, fun key hmem => ?_, fun entry hmem => ?_⟩, _, rfl⟩
  · show ((manifest.reservedResources ++ [_]).map _).Nodup
    rw [List.map_append, List.map_singleton, ← List.concat_eq_append]
    exact List.Nodup.concat hdouble h.nodup
  · rw [BoardManifest.reservedInstances, List.map_append, List.map_singleton] at hmem
    rcases List.mem_append.1 hmem with hmem | hmem
    · exact h.apart key hmem
    · rw [List.mem_singleton.1 hmem]
      exact hpublic
  · rcases List.mem_append.1 hmem with hmem | hmem
    · exact h.owners entry hmem
    · rw [List.mem_singleton.1 hmem]
      exact ⟨hname, not_lt.1 hlong⟩

/-- The axes that a manifest has configured. -/
structure BoardManifest.Configures (manifest : BoardManifest) : Prop where
  /-- No axis is configured twice. -/
  nodup : (manifest.motionAxes.map MotionAxisConfig.resourceId).Nodup
  /-- What is configured is an axis. -/
  axis : ∀ config ∈ manifest.motionAxes,
    ∃ resource ∈ manifest.axes, resource.resourceId = config.resourceId

/-- The configuration of an axis joins the others. -/
theorem addMotionAxis_ok (h : manifest.Configures)
    (hadd : addMotionAxis manifest value = .ok manifest') :
    manifest'.Configures ∧ ∃ axes, manifest' = { manifest with motionAxes := axes } := by
  unfold addMotionAxis at hadd
  simp only [Except.bind_eq_ok_iff] at hadd
  obtain ⟨_, -, _, -, resourceId, -, _, -, _, -, _, -, _, -, hadd⟩ := hadd
  unfold schemaError at hadd
  split_ifs at hadd with hfind hdouble
  obtain rfl := Except.ok.inj hadd
  refine ⟨⟨?_, fun config hmem => ?_⟩, _, rfl⟩
  · show ((manifest.motionAxes ++ [_]).map _).Nodup
    rw [List.map_append, List.map_singleton, ← List.concat_eq_append]
    exact h.nodup.concat hdouble
  · rcases List.mem_append.1 hmem with hmem | hmem
    · exact h.axis config hmem
    · rw [List.mem_singleton.1 hmem]
      obtain ⟨resource, hresource, htype⟩ := (Option.any_eq_true _ _).1 hfind
      refine ⟨resource, List.mem_filter.2 ⟨List.mem_of_find?_eq_some hresource, htype⟩, ?_⟩
      simpa using List.find?_some hresource

/-- A manifest may say how its axes move, and changes nothing else by it. -/
theorem addMotionAxes_ok {root : JsonObject} (h : manifest.Configures)
    (hadd : addMotionAxes root manifest = .ok manifest') :
    manifest'.Configures ∧ ∃ axes, manifest' = { manifest with motionAxes := axes } := by
  unfold addMotionAxes at hadd
  split at hadd
  · obtain rfl := Except.ok.inj hadd
    exact ⟨h, _, rfl⟩
  · refine List.foldlM_ok (P := fun next => next.Configures ∧
      ∃ axes, next = { manifest with motionAxes := axes }) ?_ ⟨h, _, rfl⟩ hadd
    rintro axis - next next' ⟨hnext, axes, rfl⟩ hstep
    obtain ⟨hnext', axes', rfl⟩ := addMotionAxis_ok hnext hstep
    exact ⟨hnext', axes', rfl⟩
  · cases hadd

/-- All axes have contracts with the same length of the queue, which is theirs. -/
theorem checkQueueCapacity_ok {axes : List ResourceDescriptor} {capacity capacity' : Option UInt32}
    (h : axes.foldlM (checkQueueCapacity manifest) capacity = .ok capacity') :
    (axes = [] ∧ capacity' = capacity) ∨ ∃ shared, capacity' = some shared ∧
      (∀ c ∈ capacity, c = shared) ∧ 1 ≤ shared.toNat ∧ shared.toNat ≤ 1024 ∧
      ∀ resource ∈ axes, ∃ contract ∈ manifest.contracts,
        contract.resourceId = resource.resourceId ∧ contract.queueCapacity = shared := by
  induction axes generalizing capacity with
  | nil => exact .inl ⟨rfl, (Except.ok.inj h).symm⟩
  | cons resource axes ih =>
    rw [List.foldlM_cons, Except.bind_eq_ok_iff] at h
    obtain ⟨next, hfirst, hrest⟩ := h
    -- The first axis has a contract, with the capacity of those before it.
    unfold checkQueueCapacity schemaError at hfirst
    dsimp only at hfirst
    split at hfirst
    · cases hfirst
    next contract hfind =>
    split_ifs at hfirst with hrange hshared
    obtain rfl := Except.ok.inj hfirst
    obtain ⟨hzero, hlong⟩ := not_or.1 hrange
    have hmine : ∃ contract' ∈ manifest.contracts, contract'.resourceId = resource.resourceId ∧
        contract'.queueCapacity = contract.queueCapacity :=
      ⟨contract, List.mem_of_find?_eq_some hfind, by simpa using List.find?_some hfind, rfl⟩
    have hsame : ∀ c ∈ capacity, c = contract.queueCapacity := by
      intro c hc
      by_contra hne
      exact hshared ((Option.any_eq_true _ _).2 ⟨c, hc, decide_eq_true hne⟩)
    have hone : 1 ≤ contract.queueCapacity.toNat := by
      rw [Nat.one_le_iff_ne_zero]
      exact fun h => hzero (UInt32.toNat_inj.1 h)
    have hmany : contract.queueCapacity.toNat ≤ 1024 := by
      rw [gt_iff_lt, UInt32.not_lt, UInt32.le_iff_toNat_le] at hlong
      exact hlong
    right
    rcases ih hrest with ⟨rfl, rfl⟩ | ⟨shared, rfl, hprevious, hpos, hle, hall⟩
    · refine ⟨_, rfl, hsame, hone, hmany, fun resource' hmem => ?_⟩
      rw [List.mem_singleton.1 hmem]
      exact hmine
    · obtain rfl := hprevious _ rfl
      refine ⟨_, rfl, hsame, hpos, hle, fun resource' hmem => ?_⟩
      rcases List.mem_cons.1 hmem with rfl | hmem
      · exact hmine
      · exact hall resource' hmem

/-- The axes are configured, there are at most 64 of them, and they share one queue. -/
theorem checkAxes_ok (h : checkAxes manifest = .ok manifest') :
    (∀ resource ∈ manifest.axes,
        resource.resourceId ∈ manifest.motionAxes.map MotionAxisConfig.resourceId) ∧
      manifest.motionAxes.length ≤ kMaximumMotionAxes ∧
      ∃ capacity, manifest' = { manifest with motionQueueCapacity := capacity } ∧
        (manifest.axes = [] ∧ capacity = manifest.motionQueueCapacity ∨
          1 ≤ capacity ∧ capacity ≤ 1024 ∧ ∀ resource ∈ manifest.axes,
            ∃ contract ∈ manifest.contracts, contract.resourceId = resource.resourceId ∧
              contract.queueCapacity.toNat = capacity) := by
  unfold checkAxes at h
  split at h
  · cases h
  next hconfigured =>
  obtain ⟨capacity, hcapacity, h⟩ := Except.bind_eq_ok_iff.1 h
  split at h
  · cases h
  next hfew =>
  refine ⟨fun resource hmem => ?_, not_lt.1 hfew, ?_⟩
  · by_contra hmissing
    exact hconfigured (List.any_eq_true.2 ⟨resource, hmem, decide_eq_true hmissing⟩)
  · rcases checkQueueCapacity_ok hcapacity with ⟨hnone, rfl⟩ | ⟨shared, rfl, -, hpos, hle, hall⟩
    · obtain rfl := Except.ok.inj h
      exact ⟨_, rfl, .inl ⟨hnone, rfl⟩⟩
    · obtain rfl := Except.ok.inj h
      refine ⟨_, rfl, .inr ⟨hpos, hle, fun resource hmem => ?_⟩⟩
      obtain ⟨contract, hcontract, hid, hqueue⟩ := hall resource hmem
      exact ⟨contract, hcontract, hid, congrArg UInt32.toNat hqueue⟩

/-! ## Sound manifests -/

/-- What holds of a manifest that has been loaded. -/
structure BoardManifest.Sound (manifest : BoardManifest) : Prop
    extends manifest.Catalog, manifest.Reserves where
  /-- The manifest is of the version that is accepted. -/
  schema : manifest.schemaVersion = kBoardManifestSchemaVersion
  /-- The board has a name of 1 to 64 bytes. -/
  name : manifest.name ≠ [] ∧ manifest.name.length ≤ 64
  /-- The node speaks this version of the protocol. -/
  version : manifest.nodeInfo.protocolVersion = kProtocolVersion
  /-- No axis is configured twice. -/
  axes_nodup : (manifest.motionAxes.map MotionAxisConfig.resourceId).Nodup
  /-- The axes that are configured are those of the catalog. -/
  axes_iff : ∀ resourceId, resourceId ∈ manifest.motionAxes.map MotionAxisConfig.resourceId ↔
    resourceId ∈ manifest.axes.map ResourceDescriptor.resourceId
  /-- There are no more axes than a segment can name. -/
  axes_le : manifest.motionAxes.length ≤ kMaximumMotionAxes
  /-- The motion queue has room for 1 to 1024 segments. -/
  queue : 1 ≤ manifest.motionQueueCapacity ∧ manifest.motionQueueCapacity ≤ 1024
  /-- The contract of each axis states the length of the queue. -/
  shared : ∀ resource ∈ manifest.axes, ∀ contract ∈ manifest.contracts,
    contract.resourceId = resource.resourceId →
      contract.queueCapacity.toNat = manifest.motionQueueCapacity

/-- The part of a manifest that is not a list of objects. -/
theorem parseHeader_ok {root : JsonObject} (h : parseHeader root = .ok manifest) :
    manifest.schemaVersion = kBoardManifestSchemaVersion ∧
      (manifest.name ≠ [] ∧ manifest.name.length ≤ 64) ∧
      manifest.nodeInfo.protocolVersion = kProtocolVersion ∧ manifest.resources = [] ∧
      manifest.contracts = [] ∧ manifest.reservedResources = [] ∧ manifest.motionAxes = [] ∧
      manifest.motionQueueCapacity = 32 := by
  unfold parseHeader at h
  obtain ⟨version, -, h⟩ := Except.bind_eq_ok_iff.1 h
  split at h
  · cases h
  next hversion =>
  obtain ⟨name, -, h⟩ := Except.bind_eq_ok_iff.1 h
  split at h
  · cases h
  next hname =>
  obtain ⟨hsome, hlong⟩ := not_or.1 hname
  simp only [Except.bind_eq_ok_iff] at h
  obtain ⟨_, -, _, -, _, -, firmware, -, h⟩ := h
  split at h
  · simp only [Except.bind_eq_ok_iff] at h
    obtain ⟨_, -, _, -, _, -, _, -, _, -, h⟩ := h
    obtain rfl := Except.ok.inj h
    exact ⟨not_not.1 hversion, ⟨hsome, not_lt.1 hlong⟩, rfl, rfl, rfl, rfl, rfl, rfl⟩
  · cases h

/-- In a sound catalog, the contract of a resource is the only one. -/
theorem BoardManifest.Catalog.contract_unique (h : manifest.Catalog) {c d : ResourceContract}
    (hc : c ∈ manifest.contracts) (hd : d ∈ manifest.contracts)
    (hid : c.resourceId = d.resourceId) : c = d := by
  have hnodup : (manifest.contracts.map ResourceContract.resourceId).Nodup := by
    rw [h.contracts]
    exact h.ids
  exact List.inj_on_of_nodup_map hnodup hc hd hid

/-- A manifest without resources has a catalog. -/
theorem BoardManifest.Catalog.of_nil (hresources : manifest.resources = [])
    (hcontracts : manifest.contracts = []) : manifest.Catalog := by
  constructor <;> simp [BoardManifest.instances, hresources, hcontracts]

/-- A manifest that reserves nothing reserves nothing twice. -/
theorem BoardManifest.Reserves.of_nil (h : manifest.reservedResources = []) :
    manifest.Reserves := by
  constructor <;> simp [BoardManifest.reservedInstances, h]

/-- A manifest may configure no axes. -/
theorem BoardManifest.Configures.of_nil (h : manifest.motionAxes = []) : manifest.Configures := by
  constructor <;> simp [h]

/-- The loader loads sound manifests only. -/
theorem sound_of_load {text : List UInt8} (h : parseBoardManifest text = .ok manifest) :
    manifest.Sound := by
  unfold parseBoardManifest at h
  split at h
  · cases h
  next value _ =>
  unfold manifestOfJson at h
  simp only [Except.bind_eq_ok_iff] at h
  obtain ⟨root, -, -, -, header, hheader, groups, -, catalog, hcatalog, reserved, -, taken, htaken,
    moving, hmoving, h⟩ := h
  obtain ⟨hschema, hname, hversion, hresources, hcontracts, hreserved, haxes, hqueue⟩ :=
    parseHeader_ok hheader
  -- The resources.
  obtain ⟨hcatalog, resources, contracts, rfl⟩ := List.foldlM_ok
    (P := fun next => next.Catalog ∧ ∃ resources contracts,
      next = header.withCatalog resources contracts)
    (fun value _ next next' ⟨hnext, resources, contracts, heq⟩ hstep => by
      obtain ⟨hnext', resources', contracts', rfl⟩ := addGroup_ok hnext hstep
      exact ⟨hnext', resources', contracts', by rw [heq]; rfl⟩)
    ⟨.of_nil hresources hcontracts, header.resources, header.contracts, rfl⟩
    hcatalog
  -- What is reserved.
  obtain ⟨hreserves, entries, rfl⟩ := List.foldlM_ok
    (P := fun next => next.Reserves ∧ ∃ entries,
      next = { header.withCatalog resources contracts with reservedResources := entries })
    (fun value _ next next' ⟨hnext, entries, heq⟩ hstep => by
      obtain ⟨hnext', entries', rfl⟩ := addReserved_ok hnext hstep
      exact ⟨hnext', entries', by rw [heq]⟩)
    ⟨.of_nil hreserved, header.reservedResources, rfl⟩ htaken
  -- The axes.
  have hnone : { header.withCatalog resources contracts with
      reservedResources := entries }.Configures := .of_nil haxes
  obtain ⟨hconfigures, axes, rfl⟩ := addMotionAxes_ok hnone hmoving
  obtain ⟨hall, hfew, capacity, rfl, hcapacity⟩ := checkAxes_ok h
  refine ⟨⟨hcatalog.length_le, hcatalog.ids, hcatalog.instances, hcatalog.contracts, hcatalog.kept,
      hcatalog.declared, hcatalog.ports⟩, ⟨hreserves.nodup, hreserves.apart, hreserves.owners⟩,
    hschema, hname, hversion, hconfigures.nodup, fun resourceId => ⟨fun hmem => ?_, fun hmem => ?_⟩,
    hfew, ?_, fun resource hresource contract hcontract hid => ?_⟩
  · obtain ⟨config, hconfig, rfl⟩ := List.mem_map.1 hmem
    obtain ⟨resource, hresource, hid⟩ := hconfigures.axis config hconfig
    exact List.mem_map.2 ⟨resource, hresource, hid⟩
  · obtain ⟨resource, hresource, rfl⟩ := List.mem_map.1 hmem
    exact hall resource hresource
  · rcases hcapacity with ⟨-, rfl⟩ | ⟨hpos, hle, -⟩
    · show 1 ≤ header.motionQueueCapacity ∧ header.motionQueueCapacity ≤ 1024
      rw [hqueue]
      decide
    · exact ⟨hpos, hle⟩
  · rcases hcapacity with ⟨hnone, -⟩ | ⟨-, -, hqueues⟩
    · exact absurd hresource (List.eq_nil_iff_forall_not_mem.1 hnone resource)
    · obtain ⟨contract', hcontract', hid', hcapacity⟩ := hqueues resource hresource
      rw [hcatalog.contract_unique hcontract hcontract' (hid.trans hid'.symm)]
      exact hcapacity

/-- The description of a board with one pin, which has a given ID. -/
def pinText (id : String) : List UInt8 :=
  utf8 ("\x7b\"schema_version\":1,\"name\":\"b\",\"board_type\":7," ++
    "\"uuid\":\"00000000000000000000000000000000\",\"firmware_version\":[1,2,3]," ++
    "\"capabilities\":[\"gpio\"],\"resource_groups\":[\x7b\"type\":\"gpio\"," ++
    "\"first_instance\":0,\"count\":1,\"id_base\":" ++ id ++ ",\"source\":\"native\"," ++
    "\"rx_capacity\":0,\"tx_capacity\":0,\"contract\":\x7b\"access\":[]," ++
    "\"timing_resolution_ns\":0,\"worst_case_latency_us\":0," ++
    "\"maximum_operations_per_second\":0,\"queue_capacity\":0," ++
    "\"maximum_rx_bits_per_second\":0,\"maximum_tx_bits_per_second\":0\x7d\x7d]," ++
    "\"reserved_resources\":[]\x7d")

/-- The manifest that the text above is read as. -/
def pinManifest (id : UInt32) : BoardManifest where
  schemaVersion := 1
  name := [98]
  nodeInfo := ⟨⟨List.replicate 16 0, NodeUuid.length_zeros⟩, 1, 2, 3, 7, kProtocolVersion⟩
  capabilities := capabilityGpio
  resources := [{ resourceId := id, type := .gpio, instance' := 0, flags := 1 }]
  contracts := [{ resourceId := id }]

/-- The pin with the ID 1. -/
theorem load_pinText : parseBoardManifest (pinText "1") = .ok (pinManifest 1) := by decide +kernel

/-- The pin with the ID 0. -/
theorem load_pinText_zero : parseBoardManifest (pinText "0") = .ok (pinManifest 0) := by
  decide +kernel

/-- In a manifest that has been loaded, no ID and no instance is there twice, and nothing reserved
is there at all. Each resource has its contract and its capability. The axes that are configured are
those of the catalog, and the queue is as long as all of their contracts say. -/
theorem loaded_manifest_consistent {text : List UInt8}
    (h : parseBoardManifest text = .ok manifest) :
    (manifest.resources.map ResourceDescriptor.resourceId).Nodup ∧ manifest.instances.Nodup ∧
      (∀ key ∈ manifest.reservedInstances, key ∉ manifest.instances) ∧
      manifest.contracts.map ResourceContract.resourceId =
        manifest.resources.map ResourceDescriptor.resourceId ∧
      (∀ resource ∈ manifest.resources,
        manifest.capabilities &&& resourceCapability resource.type ≠ 0) ∧
      (∀ resourceId, resourceId ∈ manifest.motionAxes.map MotionAxisConfig.resourceId ↔
        resourceId ∈ manifest.axes.map ResourceDescriptor.resourceId) ∧
      (1 ≤ manifest.motionQueueCapacity ∧ manifest.motionQueueCapacity ≤ 1024) ∧
      ∀ resource ∈ manifest.axes, ∀ contract ∈ manifest.contracts,
        contract.resourceId = resource.resourceId →
          contract.queueCapacity.toNat = manifest.motionQueueCapacity :=
  have hsound := sound_of_load h
  ⟨hsound.ids, hsound.instances, hsound.apart, hsound.contracts, hsound.declared, hsound.axes_iff,
    hsound.queue, hsound.shared⟩

/-- The part of a description that says what a group of resources promises. -/
def contractText (access queueCapacity : String) : String :=
  "\"contract\":\x7b\"access\":[" ++ access ++ "],\"timing_resolution_ns\":1000," ++
    "\"worst_case_latency_us\":100,\"maximum_operations_per_second\":10000," ++
    "\"queue_capacity\":" ++ queueCapacity ++ ",\"maximum_rx_bits_per_second\":0," ++
    "\"maximum_tx_bits_per_second\":0\x7d"

/-- The part of a description that configures an axis. -/
def axisText (id : String) : String :=
  "\x7b\"resource_id\":" ++ id ++ ",\"maximum_step_rate_hz\":100000," ++
    "\"step_pulse_width_ns\":2000,\"minimum_step_low_ns\":2000,\"direction_setup_ns\":2000\x7d"

/-- The description of a board with two pins and two axes, which keeps an SPI port to itself. -/
def benchText : List UInt8 :=
  utf8 ("\x7b\"schema_version\":1,\"name\":\"bench\",\"board_type\":7," ++
    "\"uuid\":\"00000000000000000000000000000000\",\"firmware_version\":[1,2,3]," ++
    "\"capabilities\":[\"gpio\",\"motion\"],\"resource_groups\":[" ++
    "\x7b\"type\":\"gpio\",\"first_instance\":0,\"count\":2,\"id_base\":16777216," ++
    "\"source\":\"native\",\"rx_capacity\":0,\"tx_capacity\":0," ++
    contractText "\"read\",\"write\"" "0" ++ "\x7d," ++
    "\x7b\"type\":\"stepgen_axis\",\"first_instance\":0,\"count\":2," ++
    "\"id_base\":150994944,\"source\":\"native\",\"rx_capacity\":0,\"tx_capacity\":0," ++
    contractText "\"write\",\"exclusive_write\",\"lease_supported\"" "4" ++ "\x7d]," ++
    "\"reserved_resources\":[" ++
    "\x7b\"type\":\"spi\",\"instance\":1,\"owner\":\"flash\"\x7d]," ++
    "\"motion_axes\":[" ++ axisText "150994944" ++ "," ++ axisText "150994945" ++ "]\x7d")

/-- What the pins of this board promise, and with a queue and other rights its axes. -/
def benchContract (id : UInt32) (accessFlags : UInt16) (queueCapacity : UInt32) :
    ResourceContract where
  resourceId := id
  accessFlags := accessFlags
  timingResolutionNs := 1000
  worstCaseLatencyUs := 100
  maximumOperationsPerSecond := 10000
  queueCapacity := queueCapacity

/-- The manifest that the text above is read as. -/
def benchManifest : BoardManifest where
  schemaVersion := 1
  name := [98, 101, 110, 99, 104]
  nodeInfo := ⟨⟨List.replicate 16 0, NodeUuid.length_zeros⟩, 1, 2, 3, 7, kProtocolVersion⟩
  capabilities := capabilityGpio ||| capabilityMotion
  resources := [{ resourceId := 0x01000000, type := .gpio, instance' := 0, flags := 1 },
    { resourceId := 0x01000001, type := .gpio, instance' := 1, flags := 1 },
    { resourceId := 0x09000000, type := .stepgenAxis, instance' := 0, flags := 1 },
    { resourceId := 0x09000001, type := .stepgenAxis, instance' := 1, flags := 1 }]
  contracts := [benchContract 0x01000000 3 0, benchContract 0x01000001 3 0,
    benchContract 0x09000000 26 4, benchContract 0x09000001 26 4]
  reservedResources := [⟨.spi, 1, [102, 108, 97, 115, 104]⟩]
  motionAxes := [⟨0x09000000, 100000, 2000, 2000, 2000⟩, ⟨0x09000001, 100000, 2000, 2000, 2000⟩]
  motionQueueCapacity := 4

/-- It is what the loader makes of the description. -/
theorem load_benchText : parseBoardManifest benchText = .ok benchManifest := by decide +kernel

/-- Two pins and two axes have different IDs and instances, none of which is the SPI port that is
reserved, both axes are configured, and the queue is as long as their contracts say. -/
theorem loaded_manifest_consistent_bench :
    benchManifest.reservedInstances = [(.spi, 1)] ∧
      benchManifest.instances = [(.gpio, 0), (.gpio, 1), (.stepgenAxis, 0), (.stepgenAxis, 1)] ∧
      benchManifest.instances.Nodup ∧
      (benchManifest.resources.map ResourceDescriptor.resourceId).Nodup ∧
      (∀ key ∈ benchManifest.reservedInstances, key ∉ benchManifest.instances) ∧
      benchManifest.contracts.map ResourceContract.resourceId =
        benchManifest.resources.map ResourceDescriptor.resourceId ∧
      (∀ resource ∈ benchManifest.resources,
        benchManifest.capabilities &&& resourceCapability resource.type ≠ 0) ∧
      (∀ resourceId, resourceId ∈ benchManifest.motionAxes.map MotionAxisConfig.resourceId ↔
        resourceId ∈ benchManifest.axes.map ResourceDescriptor.resourceId) ∧
      benchManifest.axes.length = 2 ∧ benchManifest.motionQueueCapacity ≤ 1024 ∧
      ∀ resource ∈ benchManifest.axes, ∀ contract ∈ benchManifest.contracts,
        contract.resourceId = resource.resourceId → contract.queueCapacity.toNat = 4 := by
  obtain ⟨hids, hinstances, hapart, hcontracts, hdeclared, haxes, hqueue, hshared⟩ :=
    loaded_manifest_consistent load_benchText
  exact ⟨rfl, rfl, hinstances, hids, hapart, hcontracts, hdeclared, haxes, rfl, hqueue.2, hshared⟩

/-! ## Putting a board into service -/

namespace MotionExecutor

/-- The constructor wants different axes, each of them configured. -/
theorem configureAxes_ok_iff (seen : List UInt32) (configs : List MotionAxisConfig) :
    (∃ runtimes, configureAxes seen configs = .ok runtimes) ↔
      (configs.map MotionAxisConfig.resourceId).Nodup ∧ ∀ config ∈ configs,
        config.resourceId ∉ seen ∧ axisConfigured config ∧ rateConfigured config := by
  constructor
  · rintro ⟨runtimes, h⟩
    obtain ⟨-, hconfigured, hall⟩ := configureAxes_spec h
    exact ⟨hconfigured.nodup, fun config hmem =>
      ⟨(hall config hmem).1, hconfigured.axis config hmem, (hall config hmem).2⟩⟩
  · rintro ⟨hnodup, hall⟩
    induction configs generalizing seen with
    | nil => exact ⟨[], rfl⟩
    | cons config rest ih =>
      rw [List.map_cons, List.nodup_cons] at hnodup
      obtain ⟨hfresh, haxis, hrate⟩ := hall config List.mem_cons_self
      have hrest : ∀ config' ∈ rest, config'.resourceId ∉ config.resourceId :: seen ∧
          axisConfigured config' ∧ rateConfigured config' := by
        intro config' hmem
        obtain ⟨hnew, hboth⟩ := hall config' (List.mem_cons_of_mem _ hmem)
        refine ⟨fun hseen => ?_, hboth⟩
        rcases List.mem_cons.1 hseen with hsame | hseen
        · exact hnodup.1 (hsame ▸ List.mem_map_of_mem hmem)
        · exact hnew hseen
      obtain ⟨runtimes, hruntimes⟩ := ih _ hnodup.2 hrest
      refine ⟨{ config := config } :: runtimes, ?_⟩
      rw [configureAxes, if_neg (not_or.2 ⟨not_not.2 haxis, hfresh⟩), if_neg (not_not.2 hrate),
        hruntimes]
      rfl

end MotionExecutor

/-- Each axis passes the checks of the executor's constructor, which a sound manifest may fail. -/
def AxesReady (manifest : BoardManifest) : Prop :=
  ∀ config ∈ manifest.motionAxes,
    MotionExecutor.axisConfigured config ∧ MotionExecutor.rateConfigured config

/-- The executor of a sound manifest can be made if its axes are ready. -/
theorem BoardManifest.Sound.makeExecutor_ok_iff (sort : Sorter EdgeLe) (h : manifest.Sound) :
    (∃ motion, manifest.makeExecutor sort = .ok motion) ↔ AxesReady manifest := by
  unfold BoardManifest.makeExecutor
  by_cases hnone : manifest.motionAxes = []
  · rw [if_pos hnone]
    refine iff_of_true ⟨none, rfl⟩ ?_
    rw [AxesReady, hnone]
    exact List.forall_mem_nil _
  -- The manifest keeps within the bounds of the constructor.
  · have hbudget : ¬(manifest.motionAxes = [] ∨ manifest.motionAxes.length > kMaximumMotionAxes ∨
        manifest.motionQueueCapacity = 0 ∨ manifest.motionQueueCapacity > 1024 ∨
        (1000000 : UInt64) = 0) := by
      have hfew := h.axes_le
      have hqueue := h.queue
      rintro (hnil | hmany | hzero | hlong | hlead)
      · exact hnone hnil
      · omega
      · omega
      · omega
      · exact absurd hlead (by decide)
    rw [if_neg hnone, MotionExecutor.create, if_neg hbudget]
    -- So the constructor fails only for an axis that is not ready.
    have hconfigure := MotionExecutor.configureAxes_ok_iff [] manifest.motionAxes
    constructor
    · rintro ⟨motion, hmotion⟩ config hmem
      cases hruntimes : MotionExecutor.configureAxes [] manifest.motionAxes with
      | error e =>
        rw [hruntimes] at hmotion
        cases hmotion
      | ok runtimes => exact ((hconfigure.1 ⟨runtimes, hruntimes⟩).2 config hmem).2
    · intro hready
      obtain ⟨runtimes, hruntimes⟩ := hconfigure.2
        ⟨h.axes_nodup, fun config hmem => ⟨List.not_mem_nil, hready config hmem⟩⟩
      exact ⟨_, by rw [hruntimes]; rfl⟩

/-- The room of the ports is never zero. -/
theorem uartCapacities_pos (manifest : BoardManifest) :
    1 ≤ manifest.uartCapacities.1.toNat ∧ 1 ≤ manifest.uartCapacities.2.toNat := by
  unfold BoardManifest.uartCapacities
  refine List.foldlRecOn (motive := fun capacities : UInt32 × UInt32 =>
    1 ≤ capacities.1.toNat ∧ 1 ≤ capacities.2.toNat) _ _ ⟨le_rfl, le_rfl⟩ ?_
  rintro ⟨rx, tx⟩ ⟨hrx, htx⟩ resource -
  split
  · have hmax : ∀ a b : UInt32, 1 ≤ a.toNat → 1 ≤ (largerCapacity a b).toNat := by
      intro a b ha
      unfold largerCapacity
      split
      · next hlt => exact ha.trans (UInt32.lt_iff_toNat_lt.1 hlt).le
      · exact ha
    exact ⟨hmax _ _ hrx, hmax _ _ htx⟩
  · exact ⟨hrx, htx⟩

namespace DigitalTwin

variable {sort : Sorter EdgeLe} {scenario : FaultScenario} {twin : DigitalTwin}

/-- The ports can always be made. -/
theorem exists_uart (manifest : BoardManifest) : ∃ uart, MockUartBsp.ofCapacities
    manifest.uartCapacities.1.toNat manifest.uartCapacities.2.toNat = .ok uart := by
  obtain ⟨hrx, htx⟩ := uartCapacities_pos manifest
  have hrx' := manifest.uartCapacities.1.toNat_lt
  have htx' := manifest.uartCapacities.2.toNat_lt
  unfold MockUartBsp.ofCapacities
  rw [dif_neg (by omega)]
  exact ⟨_, rfl⟩

/-- The constructor succeeds if the executor can be made and the events can happen. -/
theorem create_eq_ok_iff : create sort manifest scenario = .ok twin ↔
    ∃ uart motion, MockUartBsp.ofCapacities manifest.uartCapacities.1.toNat
        manifest.uartCapacities.2.toNat = .ok uart ∧
      manifest.makeExecutor sort = .ok motion ∧
      scenario.events.forM (manifest.checkEvent motion) = .ok () ∧
      twin = ⟨manifest, scenario, {}, uart, motion, [], 0, true⟩ := by
  unfold create
  dsimp only
  constructor
  · intro h
    split at h
    · cases h
    next uart huart =>
    split at h
    · cases h
    next motion hmotion =>
    split at h
    · cases h
    next hevents => exact ⟨uart, motion, huart, hmotion, hevents, (Except.ok.inj h).symm⟩
  · rintro ⟨uart, motion, huart, hmotion, hevents, rfl⟩
    rw [huart]
    dsimp only
    rw [hmotion]
    dsimp only
    rw [hevents]

/-- A twin of a sound manifest, without any faults, can be made if the axes are ready. -/
theorem create_ok_iff (sort : Sorter EdgeLe) (h : manifest.Sound) :
    (∃ twin, create sort manifest {} = .ok twin) ↔ AxesReady manifest := by
  rw [← h.makeExecutor_ok_iff sort]
  constructor
  · rintro ⟨twin, htwin⟩
    obtain ⟨_, motion, -, hmotion, -⟩ := create_eq_ok_iff.1 htwin
    exact ⟨motion, hmotion⟩
  · rintro ⟨motion, hmotion⟩
    obtain ⟨uart, huart⟩ := exists_uart manifest
    exact ⟨_, create_eq_ok_iff.2 ⟨uart, motion, huart, hmotion, rfl, rfl⟩⟩

/-- The core of a sound manifest can be made if no resource has the ID zero. -/
theorem makeRemoteCore_ok_iff (h : twin.manifest.Sound) (instance' : UInt32)
    (hinstance : ¬(instance' = 0 ∨ instance' > 127)) :
    (∃ board core, twin.makeRemoteCore instance' = .ok (board, core)) ↔
      ∀ resource ∈ twin.manifest.resources, resource.resourceId ≠ 0 := by
  unfold makeRemoteCore instantiateNodeInfo
  rw [if_neg hinstance]
  dsimp only
  unfold Board.create
  rw [dif_pos h.version]
  constructor
  · rintro ⟨board, core, hmake⟩
    by_contra hzero
    rw [dif_neg fun hok => hzero hok.1] at hmake
    cases hmake
  · intro hids
    have hcontracts : ContractsOk twin.manifest.resources twin.manifest.contracts := by
      refine ⟨fun contract hmem => ?_, by rw [h.contracts]; exact h.ids⟩
      have hid : contract.resourceId ∈
          twin.manifest.resources.map ResourceDescriptor.resourceId := by
        rw [← h.contracts]
        exact List.mem_map_of_mem hmem
      obtain ⟨hversion, hlease⟩ := h.kept contract hmem
      refine ⟨?_, hversion, hid, hlease⟩
      obtain ⟨resource, hresource, heq⟩ := List.mem_map.1 hid
      exact heq ▸ hids resource hresource
    rw [dif_pos ⟨hids, h.ids⟩, dif_pos hcontracts]
    exact ⟨_, _, rfl⟩

/-- What the core is made for. -/
theorem makeRemoteCore_board {instance' : UInt32} {board : Board} {core : RemoteCore}
    (h : twin.makeRemoteCore instance' = .ok (board, core)) :
    board.resources = twin.manifest.resources := by
  unfold makeRemoteCore at h
  split at h
  · cases h
  next nodeInfo _ =>
  unfold Board.create at h
  split_ifs at h
  obtain ⟨rfl, -⟩ := Prod.mk.inj (Except.ok.inj h)
  rfl

end DigitalTwin

/-- A board that has been loaded can be put into service, as any of the instances 1 to 127, exactly
if no resource has the ID zero and the axes are ready. The loader checks neither of the two; it has
checked whatever else the twin, the executor and the core ask for. -/
theorem in_service_iff (sort : Sorter EdgeLe) {text : List UInt8}
    (h : parseBoardManifest text = .ok manifest) {instance' : UInt32}
    (hinstance : 1 ≤ instance' ∧ instance' ≤ 127) :
    (∃ twin board core, DigitalTwin.create sort manifest {} = .ok twin ∧
        twin.makeRemoteCore instance' = .ok (board, core)) ↔
      (∀ resource ∈ manifest.resources, resource.resourceId ≠ 0) ∧ AxesReady manifest := by
  have hsound := sound_of_load h
  have hadmitted : ¬(instance' = 0 ∨ instance' > 127) := by
    rintro (rfl | hlarge)
    · exact absurd hinstance.1 (by decide)
    · exact absurd hinstance.2 (UInt32.not_le.2 hlarge)
  constructor
  · rintro ⟨twin, board, core, htwin, hcore⟩
    refine ⟨?_, (DigitalTwin.create_ok_iff sort hsound).1 ⟨twin, htwin⟩⟩
    obtain ⟨_, _, -, -, -, rfl⟩ := DigitalTwin.create_eq_ok_iff.1 htwin
    exact (DigitalTwin.makeRemoteCore_ok_iff hsound instance' hadmitted).1 ⟨board, core, hcore⟩
  · rintro ⟨hids, hready⟩
    obtain ⟨twin, htwin⟩ := (DigitalTwin.create_ok_iff sort hsound).2 hready
    have hmanifest : twin.manifest = manifest := by
      obtain ⟨_, _, -, -, -, rfl⟩ := DigitalTwin.create_eq_ok_iff.1 htwin
      rfl
    rw [← hmanifest] at hsound hids
    obtain ⟨board, core, hcore⟩ :=
      (DigitalTwin.makeRemoteCore_ok_iff hsound instance' hadmitted).2 hids
    exact ⟨twin, board, core, htwin, hcore⟩

/-- A board whose pin has the ID 1 can be put into service, one whose pin has the ID 0 cannot. -/
theorem in_service_pins :
    (∃ twin board core, DigitalTwin.create stableSort (pinManifest 1) {} = .ok twin ∧
        twin.makeRemoteCore 1 = .ok (board, core)) ∧
      ¬ ∃ twin board core, DigitalTwin.create stableSort (pinManifest 0) {} = .ok twin ∧
        twin.makeRemoteCore 1 = .ok (board, core) := by
  constructor
  · exact (in_service_iff stableSort load_pinText (by decide)).2
      ⟨by simp [pinManifest], List.forall_mem_nil _⟩
  · intro h
    have hids := ((in_service_iff stableSort load_pinText_zero (by decide)).1 h).1
    exact hids _ List.mem_cons_self rfl

/-- A well-formed request for the catalog. -/
structure AsksForCatalog (request : Packet) : Prop where
  /-- The packet is a request. -/
  isRequest : request.header.messageType = .request
  /-- The packet is of the version that the core speaks. -/
  version : request.header.version = kProtocolVersion
  /-- The command is RESOURCE_ENUM. -/
  command : request.header.command = Command.resourceEnum
  /-- There is nothing behind the header. -/
  payload : request.payload = []
  /-- The request names the node itself. -/
  object : request.header.objectId = 0

/-- In any state of the core of a board that has been loaded, a request for the catalog is answered
with the catalog of the manifest, if it has at most 118 resources, and in vain otherwise. -/
theorem catalog_over_the_wire (sort : Sorter EdgeLe) {text : List UInt8}
    (h : parseBoardManifest text = .ok manifest) {scenario : FaultScenario} {twin : DigitalTwin}
    {instance' : UInt32} {board : Board} {core : RemoteCore}
    (htwin : DigitalTwin.create sort manifest scenario = .ok twin)
    (hcore : twin.makeRemoteCore instance' = .ok (board, core)) (later : RemoteCore)
    {request : Packet} (hrequest : AsksForCatalog request) (now : ℤ) :
    ∃ encoded, encodeResourceList manifest.resources = .ok encoded ∧
      decodeResourceList encoded = .ok manifest.resources ∧
      (later.handle board request now).1 = if manifest.resources.length ≤ 118 then
        .ok (respond request encoded) else .ok (makeResponse request .resourceExhausted) := by
  have hsound := sound_of_load h
  have hboard : board.resources = manifest.resources := by
    obtain ⟨_, _, -, -, -, rfl⟩ := DigitalTwin.create_eq_ok_iff.1 htwin
    exact DigitalTwin.makeRemoteCore_board hcore
  have hencode : encodeResourceList manifest.resources = .ok (putU16 (UInt16.ofNat
      manifest.resources.length) ++ manifest.resources.flatMap encodeResourceDescriptor) :=
    if_neg (not_lt.2 hsound.length_le)
  refine ⟨_, hencode, resourceList_codec.decode_encode _ _ trivial hencode, ?_⟩
  -- The request gets to its handler.
  have hhandle : (later.handle board request now).1 =
      RemoteCore.handleResourceEnum board request := by
    unfold RemoteCore.handle
    rw [if_neg (not_not.2 hrequest.isRequest), if_neg (not_not.2 hrequest.version)]
    unfold RemoteCore.dispatch
    simp only [hrequest.command]
    rfl
  have hlength : (putU16 (UInt16.ofNat manifest.resources.length) ++
      manifest.resources.flatMap encodeResourceDescriptor).length =
        2 + manifest.resources.length * kDescriptorSize := by
    rw [List.length_append, length_putU16,
      List.length_flatMap_of_length length_encodeResourceDescriptor]
  rw [hhandle, RemoteCore.handleResourceEnum,
    if_neg (by rw [hrequest.payload, hrequest.object]; simp), hboard, hencode]
  dsimp only
  have hdescriptor : kDescriptorSize = 17 := rfl
  have hpayload : kMaximumPayloadSize = 2024 := rfl
  rw [hlength, hdescriptor]
  by_cases hfew : manifest.resources.length ≤ 118
  · rw [if_pos hfew, if_neg (by omega)]
  · rw [if_neg hfew, if_pos (by omega)]

/-! ## A board and its scenario -/

/-- A scenario for the board with two pins and two axes: a level on the second pin, a limit switch,
an outage, and a level on the first pin. -/
def benchScenarioText : List UInt8 :=
  utf8 ("\x7b\"schema_version\":1,\"events\":[" ++
    "\x7b\"at_ms\":3,\"action\":\"gpio_input\",\"resource_id\":16777217,\"value\":true\x7d," ++
    "\x7b\"at_ms\":8,\"action\":\"motion_limit\",\"resource_id\":150994944\x7d," ++
    "\x7b\"at_ms\":10,\"action\":\"node_online\",\"value\":false\x7d," ++
    "\x7b\"at_ms\":12,\"action\":\"gpio_input\",\"resource_id\":16777216,\"value\":true\x7d" ++
    "]\x7d")

/-- The scenario that the text above is read as. -/
def benchScenario : FaultScenario where
  events := [⟨3, .setGpioInput, 0x01000001, true⟩, ⟨8, .triggerMotionLimit, 0x09000000, false⟩,
    ⟨10, .setNodeOnline, 0, false⟩, ⟨12, .setGpioInput, 0x01000000, true⟩]

/-- They are what the loader makes of the text. -/
theorem load_benchScenarioText : parseFaultScenario benchScenarioText = .ok benchScenario := by
  decide +kernel

/-- The board as its first instance, with its twin. -/
def makeBench : Except TwinException (Board × TwinNode) :=
  match DigitalTwin.create stableSort benchManifest benchScenario with
  | .error e => .error e
  | .ok twin => (twin.makeRemoteCore 1).map fun made => (made.1, ⟨twin, made.2⟩)

/-- The board can be made. What is found by running it is so. -/
theorem exists_bench (found : Board → TwinNode → Bool)
    (h : (makeBench.map fun made => found made.1 made.2) = .ok true) :
    ∃ board node, DigitalTwin.create stableSort benchManifest benchScenario = .ok node.twin ∧
      node.twin.makeRemoteCore 1 = .ok (board, node.core) ∧ found board node = true := by
  unfold makeBench at h
  cases hcreate : DigitalTwin.create stableSort benchManifest benchScenario with
  | error e =>
    rw [hcreate] at h
    cases h
  | ok twin =>
    rw [hcreate] at h
    dsimp only at h
    cases hcore : twin.makeRemoteCore 1 with
    | error e =>
      rw [hcore] at h
      cases h
    | ok made =>
      rw [hcore] at h
      exact ⟨made.1, ⟨twin, made.2⟩, rfl, hcore, Except.ok.inj h⟩

/-- A client configures the first pin as an output. -/
def benchPin : Packet :=
  ⟨{ command := Command.gpioCreate, sessionId := 7 }, [0, 0, 1, 0]⟩

/-- A client queues a segment, which makes four steps on one axis and two back on the other one
within 20 ms. -/
def benchSegment : Packet :=
  ⟨{ command := Command.motionEnqueue, sessionId := 7 },
    putU32 1 ++ putU64 0 ++ putU64 20000000 ++ [0, 2, 0, 0] ++ putU32 0x09000000 ++ putU32 4 ++
      putU32 0x09000001 ++ putU32 0xFFFFFFFE⟩

/-- A client asks for the catalog. -/
def benchAsk : Packet := ⟨{ command := Command.resourceEnum, sessionId := 7 }, []⟩

/-- The node of the board behind these two requests. -/
def usedBench (board : Board) (core : RemoteCore) : RemoteCore :=
  ((core.handle board benchPin 0).2.handle board benchSegment 1).2

/-- The board with two pins and two axes, of which one pin is in use and the axes are to move,
answers with the catalog of the four. -/
theorem catalog_over_the_wire_bench : ∃ twin board core encoded,
    DigitalTwin.create stableSort benchManifest benchScenario = .ok twin ∧
      twin.makeRemoteCore 1 = .ok (board, core) ∧
      ((usedBench board core).gpioObjects.entries.length = 1 ∧
        (usedBench board core).motion.map (fun motion => motion.queue.length) = some 1) ∧
      encodeResourceList benchManifest.resources = .ok encoded ∧
      decodeResourceList encoded = .ok benchManifest.resources ∧
      ((usedBench board core).handle board benchAsk 2).1 = .ok (respond benchAsk encoded) := by
  obtain ⟨board, node, htwin, hcore, hused⟩ := exists_bench (fun board node =>
    decide ((usedBench board node.core).gpioObjects.entries.length = 1 ∧
      (usedBench board node.core).motion.map (fun motion => motion.queue.length) = some 1))
    (by decide +kernel)
  have hask : AsksForCatalog benchAsk := ⟨rfl, rfl, rfl, rfl, rfl⟩
  obtain ⟨encoded, hencode, hdecode, hanswer⟩ := catalog_over_the_wire stableSort load_benchText
    htwin hcore (usedBench board node.core) hask 2
  exact ⟨_, board, _, encoded, htwin, hcore, of_decide_eq_true hused, hencode, hdecode, hanswer⟩

/-! ## Scenarios -/

/-- The events of a scenario that has been loaded are in the order of their times. -/
theorem sorted_of_load {text : List UInt8} {scenario : FaultScenario}
    (h : parseFaultScenario text = .ok scenario) :
    scenario.events.Pairwise fun event later => event.atMs ≤ later.atMs := by
  unfold parseFaultScenario at h
  split at h
  · cases h
  unfold scenarioOfJson at h
  simp only [Except.bind_eq_ok_iff] at h
  obtain ⟨root, -, -, -, schemaVersion, -, h⟩ := h
  unfold schemaError at h
  split_ifs at h
  simp only [Except.bind_eq_ok_iff] at h
  obtain ⟨values, -, events, hevents, h⟩ := h
  obtain rfl := Except.ok.inj h
  refine List.foldlM_ok (P := fun events : List FaultEvent =>
    events.Pairwise fun event later => event.atMs ≤ later.atMs) ?_ .nil hevents
  intro value _ events events' hsorted hadd
  unfold addEvent schemaError at hadd
  split_ifs at hadd with hmany
  simp only [Except.bind_eq_ok_iff] at hadd
  obtain ⟨event, -, -, -, atMs, -, hadd⟩ := hadd
  -- The last check stands behind either way to read the value.
  split_ifs at hadd with hlarge hlast
  · simp only [Except.bind_eq_ok_iff] at hadd
    obtain ⟨_, -, parsed, -, hadd⟩ := hadd
    split_ifs at hadd
    · obtain ⟨_, -, hadd⟩ := Except.bind_eq_ok_iff.1 hadd
      cases hadd
    · obtain ⟨_, -, hadd⟩ := Except.bind_eq_ok_iff.1 hadd
      cases hadd
  simp only [Except.bind_eq_ok_iff] at hadd
  obtain ⟨_, -, parsed, -, hadd⟩ := hadd
  obtain ⟨flag, rfl⟩ : ∃ flag, events' = events ++ [⟨atMs, parsed.1, parsed.2, flag⟩] := by
    split_ifs at hadd
    · obtain ⟨flag, -, hadd⟩ := Except.bind_eq_ok_iff.1 hadd
      exact ⟨flag, (Except.ok.inj hadd).symm⟩
    · obtain ⟨flag, -, hadd⟩ := Except.bind_eq_ok_iff.1 hadd
      exact ⟨flag, (Except.ok.inj hadd).symm⟩
  -- The new event is not before the last one, which is not before any other.
  rw [List.pairwise_append]
  refine ⟨hsorted, List.pairwise_singleton _ _, fun earlier hmem later hlater => ?_⟩
  rw [List.mem_singleton.1 hlater]
  obtain ⟨last, hend⟩ := Option.isSome_iff_exists.1
    (List.getLast?_isSome.2 (List.ne_nil_of_mem hmem))
  rw [hend, Option.any_some, decide_eq_true_eq, UInt64.not_lt] at hlast
  obtain ⟨before, rfl⟩ := List.getLast?_eq_some_iff.1 hend
  rcases List.mem_append.1 hmem with hmem | hmem
  · exact UInt64.le_trans ((List.pairwise_append.1 hsorted).2.2 earlier hmem last
      (List.mem_singleton_self last)) hlast
  · rw [List.mem_singleton.1 hmem]
    exact hlast

end RemoteBSP.MockMcu
