import RemoteBSP.Lib.Chunks
import RemoteBSP.Lib.Codec
import RemoteBSP.Lib.Loop
import RemoteBSP.Protocol.Discovery
import RemoteBSP.Protocol.PacketCodec
import RemoteBSP.Protocol.Resource

/-!
# The codecs of the resource and discovery payloads

Each payload of `resource.hpp` and `discovery.hpp` is read back as it was written, and written again
as it was read (`payload_codecs_bijective`). For each of them there are two lemmas: `decode` reads
the bytes that `encode` writes, and bytes that `decode` accepts are those that `encode` writes. The
second one puts the fields together from the left: the bytes in front of a field and the field
written again are the bytes in front of the next field.
-/

namespace RemoteBSP

/-! ## Enumerations -/

/-- The number of a resource type stands for it. -/
@[simp]
theorem ResourceType.ofValue_value (type : ResourceType) : ofValue type.value = some type := by
  cases type <;> decide

/-- A number that stands for a resource type is its number. -/
theorem ResourceType.value_of_ofValue {value : UInt8} {type : ResourceType}
    (h : ofValue value = some type) : type.value = value := by
  unfold ofValue at h
  split_ifs at h <;> (subst_vars; obtain rfl := Option.some.inj h; rfl)

/-- The number of a health stands for it. -/
@[simp]
theorem ResourceHealth.ofValue_value (health : ResourceHealth) :
    ofValue health.value = some health := by
  cases health <;> decide

/-- A number that stands for a health is its number. -/
theorem ResourceHealth.value_of_ofValue {value : UInt8} {health : ResourceHealth}
    (h : ofValue value = some health) : health.value = value := by
  unfold ofValue at h
  split_ifs at h <;> (subst_vars; obtain rfl := Option.some.inj h; rfl)

namespace ResourceLeaseMode

/-- The number that stands for a lease mode on the wire is read as this mode. -/
@[simp]
theorem ofInfoValue_value (mode : ResourceLeaseMode) : ofInfoValue mode.value = some mode := by
  cases mode <;> decide

/-- The number of a mode that may be asked for stands for it. -/
theorem ofValue_value {mode : ResourceLeaseMode} (h : mode ≠ .none) :
    ofValue mode.value = some mode := by
  cases mode with
  | none => exact absurd rfl h
  | sharedRead => decide
  | exclusive => decide

/-- A number that stands for a mode that may be asked for is its number. -/
theorem value_of_ofValue {value : UInt8} {mode : ResourceLeaseMode}
    (h : ofValue value = some mode) : mode ≠ .none ∧ mode.value = value := by
  unfold ofValue at h
  split_ifs at h <;> (subst_vars; obtain rfl := Option.some.inj h; exact ⟨nofun, rfl⟩)

/-- Only one number on the wire stands for each lease mode. -/
theorem value_of_ofInfoValue {value : UInt8} {mode : ResourceLeaseMode}
    (h : ofInfoValue value = some mode) : mode.value = value := by
  unfold ofInfoValue at h
  split_ifs at h with hnone
  · obtain rfl := Option.some.inj h
    exact hnone.symm
  · exact (value_of_ofValue h).2

end ResourceLeaseMode

/-! ## Resources -/

/-- A resource ID is read as it was written. -/
theorem decodeResourceId_encode (resourceId : UInt32) :
    decodeResourceId (encodeResourceId resourceId) = .ok resourceId := by
  simp [decodeResourceId, encodeResourceId]

/-- A resource ID is written as it was read. -/
theorem encodeResourceId_of_decode {b : List UInt8} {resourceId : UInt32}
    (h : decodeResourceId b = .ok resourceId) : encodeResourceId resourceId = b := by
  unfold decodeResourceId at h
  split_ifs at h with hlength
  obtain rfl := Except.ok.inj h
  rw [ne_eq, not_not] at hlength
  rw [encodeResourceId, putU32_getU32_zero hlength.ge, List.take_of_length_le hlength.le]

/-- Each descriptor takes the same number of bytes on the wire. -/
theorem length_encodeResourceDescriptor (descriptor : ResourceDescriptor) :
    (encodeResourceDescriptor descriptor).length = kDescriptorSize := by
  simp [encodeResourceDescriptor, kDescriptorSize]

/-- A descriptor is read as it was written. -/
theorem decodeResourceDescriptor_encode (descriptor : ResourceDescriptor) :
    decodeResourceDescriptor (encodeResourceDescriptor descriptor) = .ok descriptor := by
  simp [decodeResourceDescriptor, encodeResourceDescriptor, kDescriptorSize]

/-- A descriptor is written as it was read. -/
theorem encodeResourceDescriptor_of_decode {b : List UInt8} {descriptor : ResourceDescriptor}
    (h : decodeResourceDescriptor b = .ok descriptor) :
    encodeResourceDescriptor descriptor = b := by
  unfold decodeResourceDescriptor at h
  split_ifs at h with hlength
  rw [ne_eq, not_not, kDescriptorSize] at hlength
  split at h
  · cases h
  · next type htype =>
    obtain rfl := Except.ok.inj h
    rw [encodeResourceDescriptor, ResourceType.value_of_ofValue htype]
    dsimp only
    rw [putU32_getU32_zero (by omega)]
    simp (disch := omega) only [take_append_byte, take_append_putU16, take_append_putU32,
      Nat.reduceAdd]
    exact List.take_of_length_le hlength.le

/-- A status is read as it was written. -/
theorem decodeResourceStatus_encode (status : ResourceStatusPayload) :
    decodeResourceStatus (encodeResourceStatus status) = .ok status := by
  simp [decodeResourceStatus, encodeResourceStatus]

/-- A status is written as it was read. -/
theorem encodeResourceStatus_of_decode {b : List UInt8} {status : ResourceStatusPayload}
    (h : decodeResourceStatus b = .ok status) : encodeResourceStatus status = b := by
  unfold decodeResourceStatus at h
  split_ifs at h with hlength
  rw [ne_eq, not_not] at hlength
  split at h
  · cases h
  · next health hhealth =>
    obtain rfl := Except.ok.inj h
    rw [encodeResourceStatus, ResourceHealth.value_of_ofValue hhealth]
    dsimp only
    rw [putU32_getU32_zero (by omega)]
    simp (disch := omega) only [take_append_byte, take_append_putU32, Nat.reduceAdd]
    exact List.take_of_length_le hlength.le

/-- The codec of resource contracts reads what it writes, and nothing else. -/
theorem resourceContract_codec :
    InverseOn (fun _ => True) encodeResourceContract decodeResourceContract := by
  refine .of_guard (fun contract hversion => ?_) fun b contract h => ?_
  · rw [not_not] at hversion
    simp [decodeResourceContract, kContractSize, hversion.symm]
  · unfold decodeResourceContract at h
    split_ifs at h with hlength hversion
    obtain rfl := Except.ok.inj h
    rw [ne_eq, not_not, kContractSize] at hlength
    refine ⟨hversion, ?_⟩
    dsimp only
    rw [putU32_getU32_zero (by omega)]
    simp (disch := omega) only [take_append_putU16, take_append_putU32, Nat.reduceAdd]
    exact List.take_of_length_le hlength.le

/-- The codec of lease requests reads what it writes, and nothing else. -/
theorem resourceLeaseRequest_codec :
    InverseOn (fun _ => True) encodeResourceLeaseRequest decodeResourceLeaseRequest := by
  refine .of_guard (fun request hmode => ?_) fun b request h => ?_
  · simp [decodeResourceLeaseRequest, kLeaseRequestSize, ResourceLeaseMode.ofValue_value hmode]
  · unfold decodeResourceLeaseRequest at h
    split_ifs at h with hlength
    rw [ne_eq, not_not, kLeaseRequestSize] at hlength
    split at h
    · cases h
    · next mode hmode =>
      obtain rfl := Except.ok.inj h
      obtain ⟨hsome, hvalue⟩ := ResourceLeaseMode.value_of_ofValue hmode
      refine ⟨hsome, ?_⟩
      dsimp only
      rw [hvalue, putU32_getU32_zero (by omega)]
      simp (disch := omega) only [take_append_byte, take_append_putU32, Nat.reduceAdd]
      exact List.take_of_length_le hlength.le

/-- A lease token is read as it was written. -/
theorem decodeResourceLeaseTokenRequest_encode (request : ResourceLeaseTokenRequest) :
    decodeResourceLeaseTokenRequest (encodeResourceLeaseTokenRequest request) = .ok request := by
  simp [decodeResourceLeaseTokenRequest, encodeResourceLeaseTokenRequest, kLeaseTokenRequestSize]

/-- A lease token is written as it was read. -/
theorem encodeResourceLeaseTokenRequest_of_decode {b : List UInt8}
    {request : ResourceLeaseTokenRequest} (h : decodeResourceLeaseTokenRequest b = .ok request) :
    encodeResourceLeaseTokenRequest request = b := by
  unfold decodeResourceLeaseTokenRequest at h
  split_ifs at h with hlength
  obtain rfl := Except.ok.inj h
  rw [ne_eq, not_not, kLeaseTokenRequestSize] at hlength
  rw [encodeResourceLeaseTokenRequest]
  dsimp only
  rw [putU32_getU32_zero (by omega)]
  simp (disch := omega) only [take_append_putU32, take_append_putU64, Nat.reduceAdd]
  exact List.take_of_length_le hlength.le

/-- The state of a lease is read as it was written. -/
theorem decodeResourceLeaseInfo_encode (info : ResourceLeaseInfo) :
    decodeResourceLeaseInfo (encodeResourceLeaseInfo info) = .ok info := by
  simp [decodeResourceLeaseInfo, encodeResourceLeaseInfo, kLeaseInfoSize]

/-- The state of a lease is written as it was read. -/
theorem encodeResourceLeaseInfo_of_decode {b : List UInt8} {info : ResourceLeaseInfo}
    (h : decodeResourceLeaseInfo b = .ok info) : encodeResourceLeaseInfo info = b := by
  unfold decodeResourceLeaseInfo at h
  split_ifs at h with hlength
  rw [ne_eq, not_not, kLeaseInfoSize] at hlength
  split at h
  · cases h
  · next mode hmode =>
    obtain rfl := Except.ok.inj h
    rw [encodeResourceLeaseInfo, ResourceLeaseMode.value_of_ofInfoValue hmode]
    dsimp only
    rw [putU32_getU32_zero (by omega)]
    simp (disch := omega) only [take_append_byte, take_append_putU16, take_append_putU32,
      take_append_putU64, Nat.reduceAdd]
    exact List.take_of_length_le hlength.le

/-! ## Resource lists -/

/-- What `decode_resource_list` reads is the chunks behind the number of descriptors. -/
theorem decodeResourceList_eq_ok_iff {payload : List UInt8} {resources : List ResourceDescriptor} :
    decodeResourceList payload = .ok resources ↔
      payload.length = 2 + (getU16 payload 0).toNat * kDescriptorSize ∧
        List.Forall₂ (fun index descriptor =>
            decodeResourceDescriptor ((payload.drop 2).chunk kDescriptorSize index) =
              .ok descriptor)
          (List.range (getU16 payload 0).toNat) resources := by
  unfold decodeResourceList
  dsimp only
  split_ifs with hshort hlength
  · exact ⟨nofun, fun h => by omega⟩
  · exact ⟨nofun, fun h => absurd h.1 hlength⟩
  · rw [List.mapM_ok_iff]
    simp only [List.chunk, List.drop_drop]
    exact ⟨fun h => ⟨not_not.1 hlength, h⟩, fun h => h.2⟩

/-- The codec of resource lists reads what it writes, and nothing else. -/
theorem resourceList_codec : InverseOn (fun _ => True) encodeResourceList decodeResourceList := by
  refine .of_guard (fun resources hcount => ?_) fun b resources h => ?_
  · have hlt : resources.length < 2^16 := by omega
    have hcounted := UInt16.toNat_ofNat_of_lt' hlt
    rw [decodeResourceList_eq_ok_iff, getU16_putU16_append, hcounted, List.length_append,
      length_putU16, List.length_flatMap_of_length length_encodeResourceDescriptor,
      List.drop_left' (length_putU16 _)]
    refine ⟨rfl, List.forall₂_iff_get.2 ⟨List.length_range, fun k hk hk' => ?_⟩⟩
    simp only [List.get_eq_getElem, List.getElem_range]
    rw [List.chunk_flatMap_of_length length_encodeResourceDescriptor resources hk']
    exact decodeResourceDescriptor_encode _
  · obtain ⟨hlength, hread⟩ := decodeResourceList_eq_ok_iff.1 h
    have hcount := hread.length_eq
    rw [List.length_range] at hcount
    have hwritten : List.Forall₂ Eq
        ((List.range (getU16 b 0).toNat).map ((b.drop 2).chunk kDescriptorSize))
        (resources.map encodeResourceDescriptor) := by
      rw [List.forall₂_map_left_iff, List.forall₂_map_right_iff]
      exact hread.imp fun _ _ hone => (encodeResourceDescriptor_of_decode hone).symm
    rw [List.forall₂_eq_eq_eq] at hwritten
    have hcounted := (getU16 b 0).toNat_lt
    refine ⟨by omega, ?_⟩
    -- The chunks are all that stands behind the number of descriptors.
    have hall : (b.drop 2).length ≤ (getU16 b 0).toNat * kDescriptorSize := by
      rw [List.length_drop]
      omega
    rw [← hcount, UInt16.ofNat_toNat, putU16_getU16_zero (by omega), List.flatMap_def, ← hwritten,
      ← List.flatMap_def, List.flatMap_chunk_range, List.take_of_length_le hall,
      List.take_append_drop]

/-! ## Discovery -/

/-- The UUID at the beginning of a payload. -/
@[simp]
theorem NodeUuid.ofPayload_append (uuid : NodeUuid) (rest : List UInt8) :
    ofPayload (uuid.bytes ++ rest) = uuid := by
  have hfits : 16 ≤ (uuid.bytes ++ rest).length := by
    rw [List.length_append, uuid.length_bytes]
    omega
  obtain ⟨bytes, hlength⟩ := uuid
  rw [ofPayload, NodeUuid.mk.injEq, ← take_eq_map_byteAt hfits]
  exact List.take_left' hlength

/-- The bytes of the UUID at the beginning of a payload. -/
theorem NodeUuid.bytes_ofPayload {payload : List UInt8} (h : 16 ≤ payload.length) :
    (ofPayload payload).bytes = payload.take 16 := (take_eq_map_byteAt h).symm

/-- The codec of discovery requests reads what it writes, and nothing else. -/
theorem discoveryRequest_codec :
    InverseOn (fun _ => True) encodeDiscoveryRequest decodeDiscoveryRequest := by
  refine .of_guard (fun request hrange => ?_) fun b request h => ?_
  · have hwritten : encodeDiscoveryRequest request = .ok _ := if_neg hrange
    rw [decodeDiscoveryRequest, if_neg (by simp)]
    simp only [byteAt_cons_zero, byteAt_cons_succ, hwritten]
    rfl
  · unfold decodeDiscoveryRequest encodeDiscoveryRequest at h
    simp only [bind, Except.bind, pure, Except.pure] at h
    split_ifs at h with hlength hrange
    obtain rfl := Except.ok.inj h
    rw [ne_eq, not_not] at hlength
    exact ⟨hrange, (eq_map_byteAt hlength).symm⟩

/-- A node's identity is read as it was written. -/
theorem decodeNodeIdentity_encode (identity : NodeIdentity) :
    decodeNodeIdentity (encodeNodeIdentity identity) = .ok identity := by
  simp [decodeNodeIdentity, encodeNodeIdentity, identity.uuid.length_bytes]

/-- A node's identity is written as it was read. -/
theorem encodeNodeIdentity_of_decode {b : List UInt8} {identity : NodeIdentity}
    (h : decodeNodeIdentity b = .ok identity) : encodeNodeIdentity identity = b := by
  unfold decodeNodeIdentity at h
  split_ifs at h with hlength
  obtain rfl := Except.ok.inj h
  rw [ne_eq, not_not] at hlength
  rw [encodeNodeIdentity]
  dsimp only
  rw [NodeUuid.bytes_ofPayload (by omega)]
  simp (disch := omega) only [take_append_byte, take_append_putU16, take_append_putU32,
    Nat.reduceAdd]
  exact List.take_of_length_le hlength.le

/-- The codec of node assignments reads what it writes, and nothing else. -/
theorem nodeAssignment_codec :
    InverseOn (fun _ => True) encodeNodeAssignment decodeNodeAssignment := by
  refine .of_guard (fun assignment hid => ?_) fun b assignment h => ?_
  · simp [decodeNodeAssignment, assignment.uuid.length_bytes, hid]
  · unfold decodeNodeAssignment at h
    split_ifs at h with hlength hid
    obtain rfl := Except.ok.inj h
    rw [ne_eq, not_not] at hlength
    refine ⟨hid, ?_⟩
    dsimp only
    rw [NodeUuid.bytes_ofPayload (by omega), take_append_putU32 hlength.ge]
    exact List.take_of_length_le hlength.le

/-- A heartbeat is read as it was written. -/
theorem decodeHeartbeat_encode (heartbeat : HeartbeatPayload) :
    decodeHeartbeat (encodeHeartbeat heartbeat) = .ok heartbeat := by
  simp [decodeHeartbeat, encodeHeartbeat, heartbeat.uuid.length_bytes]

/-- A heartbeat is written as it was read. -/
theorem encodeHeartbeat_of_decode {b : List UInt8} {heartbeat : HeartbeatPayload}
    (h : decodeHeartbeat b = .ok heartbeat) : encodeHeartbeat heartbeat = b := by
  unfold decodeHeartbeat at h
  split_ifs at h with hlength
  obtain rfl := Except.ok.inj h
  rw [ne_eq, not_not] at hlength
  rw [encodeHeartbeat]
  dsimp only
  rw [NodeUuid.bytes_ofPayload (by omega), take_append_byte hlength.ge]
  exact List.take_of_length_le hlength.le

/-- Each of the resource and discovery payloads is read back as it was written, and written again as
it was read. -/
theorem payload_codecs_bijective :
    InverseOn (fun _ => True)
      (fun resourceId => (.ok (encodeResourceId resourceId) : Except ResourcePayloadException _))
      decodeResourceId ∧
    InverseOn (fun _ => True)
      (fun descriptor =>
        (.ok (encodeResourceDescriptor descriptor) : Except ResourcePayloadException _))
      decodeResourceDescriptor ∧
    InverseOn (fun _ => True) encodeResourceList decodeResourceList ∧
    InverseOn (fun _ => True)
      (fun status => (.ok (encodeResourceStatus status) : Except ResourcePayloadException _))
      decodeResourceStatus ∧
    InverseOn (fun _ => True) encodeResourceContract decodeResourceContract ∧
    InverseOn (fun _ => True) encodeResourceLeaseRequest decodeResourceLeaseRequest ∧
    InverseOn (fun _ => True)
      (fun request =>
        (.ok (encodeResourceLeaseTokenRequest request) : Except ResourcePayloadException _))
      decodeResourceLeaseTokenRequest ∧
    InverseOn (fun _ => True)
      (fun info => (.ok (encodeResourceLeaseInfo info) : Except ResourcePayloadException _))
      decodeResourceLeaseInfo ∧
    InverseOn (fun _ => True) encodeDiscoveryRequest decodeDiscoveryRequest ∧
    InverseOn (fun _ => True)
      (fun identity => (.ok (encodeNodeIdentity identity) : Except DiscoveryPayloadException _))
      decodeNodeIdentity ∧
    InverseOn (fun _ => True) encodeNodeAssignment decodeNodeAssignment ∧
    InverseOn (fun _ => True)
      (fun heartbeat => (.ok (encodeHeartbeat heartbeat) : Except DiscoveryPayloadException _))
      decodeHeartbeat :=
  ⟨.of_total decodeResourceId_encode fun _ _ => encodeResourceId_of_decode,
    .of_total decodeResourceDescriptor_encode fun _ _ => encodeResourceDescriptor_of_decode,
    resourceList_codec,
    .of_total decodeResourceStatus_encode fun _ _ => encodeResourceStatus_of_decode,
    resourceContract_codec, resourceLeaseRequest_codec,
    .of_total decodeResourceLeaseTokenRequest_encode
      fun _ _ => encodeResourceLeaseTokenRequest_of_decode,
    .of_total decodeResourceLeaseInfo_encode fun _ _ => encodeResourceLeaseInfo_of_decode,
    discoveryRequest_codec,
    .of_total decodeNodeIdentity_encode fun _ _ => encodeNodeIdentity_of_decode,
    nodeAssignment_codec, .of_total decodeHeartbeat_encode fun _ _ => encodeHeartbeat_of_decode⟩

end RemoteBSP
