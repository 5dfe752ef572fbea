import RemoteBSP.Lib.Map
import RemoteBSP.Protocol.Discovery
import RemoteBSP.Protocol.Packet

/-!
# The node registry

`NodeRegistry` of `toolbusd/src/node_registry.cpp`: what the daemon knows of the nodes on its bus,
by their UUIDs. A record gets its node ID from two sides, from the daemon, by
`make_node_assignment`, and from the node, by `accept_heartbeat`. A time point of the steady clock
is an integer, in nanoseconds.
-/

namespace RemoteBSP.Toolbusd

/-- The exceptions that the functions of the registry throw. -/
inductive RegistryError
  /-- `std::invalid_argument`, with its text. -/
  | invalidArgument (message : String)
  /-- A payload has the wrong form. -/
  | payload (exception : DiscoveryPayloadException)
deriving DecidableEq, Repr

/-- `NodeUpdate`, what a discovery response has changed. -/
inductive NodeUpdate
  | added
  | updated
deriving DecidableEq, Repr

/-- `NodeRecord`, what the registry knows of a board. -/
structure NodeRecord where
  /-- What the node said of itself. -/
  identity : NodeIdentity
  /-- Its node ID, zero if it has none. -/
  nodeId : UInt32
  /-- Whether the node has been heard of lately. -/
  online : Bool
  /-- Whether a heartbeat has confirmed the node ID. -/
  assigned : Bool
  /-- When the node was last heard of. -/
  lastSeen : ℤ
deriving DecidableEq, Repr

/-- `NodeRegistry`. Its constructor throws unless the timeout is positive, so this is a field. -/
structure NodeRegistry where
  /-- How long a node may be silent, in nanoseconds. -/
  offlineTimeout : ℤ
  /-- The records of the boards that have been heard of, by UUID. -/
  nodes : Map NodeUuid NodeRecord
  /-- A node may be silent for some time before it is offline. -/
  offlineTimeout_pos : 0 < offlineTimeout

namespace NodeRegistry

/-- The registry that the constructor makes. -/
def create (offlineTimeout : ℤ) (offlineTimeout_pos : 0 < offlineTimeout) : NodeRegistry :=
  ⟨offlineTimeout, ∅, offlineTimeout_pos⟩

/-- Puts a record under a UUID. -/
def store (registry : NodeRegistry) (uuid : NodeUuid) (record : NodeRecord) : NodeRegistry :=
  { registry with nodes := registry.nodes.insert uuid record }

/-- `NodeRegistry::find`, the record of a board. -/
def find (registry : NodeRegistry) (uuid : NodeUuid) : Option NodeRecord :=
  registry.nodes.lookup uuid

/-- `NodeRegistry::find_by_node_id`: the first record with a node ID. -/
def findByNodeId (registry : NodeRegistry) (nodeId : UInt32) : Option NodeRecord :=
  (registry.nodes.entries.find? fun entry => entry.2.nodeId = nodeId).map Sigma.snd

/-- `NodeRegistry::make_discovery_request`, of the session zero. -/
def makeDiscoveryRequest (requestId : UInt32) (minimumVersion maximumVersion : UInt8) :
    Except RegistryError Packet :=
  match encodeDiscoveryRequest ⟨minimumVersion, maximumVersion⟩ with
  | .error exception => .error (.payload exception)
  | .ok payload =>
    .ok ⟨{ messageType := .request, command := Command.discoveryRequest, requestId := requestId },
      payload⟩

/-- The record of a node that has answered a discovery. -/
def discovered (found : Option NodeRecord) (identity : NodeIdentity) (now : ℤ) : NodeRecord :=
  match found with
  | none => ⟨identity, 0, true, false, now⟩
  | some record => { record with identity := identity, online := true, lastSeen := now }

/-- `NodeRegistry::accept_discovery_response`: the board has a record and is online. -/
def acceptDiscoveryResponse (registry : NodeRegistry) (response : Packet) (now : ℤ) :
    Except RegistryError (NodeUpdate × NodeRegistry) :=
  if response.header.messageType ≠ .response ∨
      response.header.command ≠ Command.discoveryResponse then
    .error (.invalidArgument "消息不是发现响应")
  else
    match decodeNodeIdentity response.payload with
    | .error exception => .error (.payload exception)
    | .ok identity =>
      let found := registry.find identity.uuid
      .ok (if found.isNone then .added else .updated,
        registry.store identity.uuid (discovered found identity now))

/-- `NodeRegistry::make_node_assignment`, of a node ID to a board that has a record. -/
def makeNodeAssignment (registry : NodeRegistry) (uuid : NodeUuid) (nodeId requestId : UInt32) :
    Except RegistryError (Packet × NodeRegistry) :=
  match registry.find uuid with
  | none => .error (.invalidArgument "不能为未知节点分配 ID")
  | some record =>
    match encodeNodeAssignment ⟨uuid, nodeId⟩ with
    | .error exception => .error (.payload exception)
    | .ok payload =>
      .ok (⟨{ messageType := .request, command := Command.nodeAssign, requestId := requestId },
          payload⟩,
        registry.store uuid { record with nodeId := nodeId, assigned := false })

/-- `NodeRegistry::mark_assignment_unconfirmed`, of a board that has a record. -/
def markAssignmentUnconfirmed (registry : NodeRegistry) (uuid : NodeUuid) : Bool × NodeRegistry :=
  match registry.find uuid with
  | none => (false, registry)
  | some record => (true, registry.store uuid { record with assigned := false })

/-- The record of a node of which a heartbeat with an object ID has arrived. -/
def confirmed (record : NodeRecord) (objectId : UInt32) (now : ℤ) : NodeRecord :=
  let record := { record with online := true, lastSeen := now }
  if objectId ≠ 0 then { record with nodeId := objectId, assigned := true } else record

/-- `NodeRegistry::accept_heartbeat`: the board of the UUID is online, under the node ID that the
heartbeat carries. -/
def acceptHeartbeat (registry : NodeRegistry) (heartbeat : Packet) (now : ℤ) :
    Except RegistryError (Bool × NodeRegistry) :=
  if heartbeat.header.messageType ≠ .event ∨ heartbeat.header.command ≠ Command.heartbeat then
    .ok (false, registry)
  else
    match decodeHeartbeat heartbeat.payload with
    | .error exception => .error (.payload exception)
    | .ok decoded =>
      match registry.find decoded.uuid with
      | none => .ok (false, registry)
      | some record =>
        if record.identity.protocolVersion ≠ decoded.protocolVersion then .ok (false, registry)
        else
          .ok (true, registry.store decoded.uuid (confirmed record heartbeat.header.objectId now))

/-- Whether `expire` marks a node as offline. -/
def silent (registry : NodeRegistry) (now : ℤ) (record : NodeRecord) : Bool :=
  record.online && decide (registry.offlineTimeout ≤ now - record.lastSeen)

/-- `NodeRegistry::expire`: the nodes that are offline from now on, and the registry. -/
def expire (registry : NodeRegistry) (now : ℤ) : List NodeUuid × NodeRegistry :=
  ((registry.nodes.filterEntries fun _ => registry.silent now).keys,
    { registry with nodes := registry.nodes.mapValues fun record =>
        if registry.silent now record then { record with online := false } else record })

/-- `NodeRegistry::records`: the records in the order of their node IDs. -/
def records (registry : NodeRegistry) : List NodeRecord :=
  (registry.nodes.entries.map Sigma.snd).insertionSort fun left right =>
    left.nodeId ≤ right.nodeId

/-- `NodeRegistry::size`, the number of the records. -/
def size (registry : NodeRegistry) : ℕ := registry.nodes.entries.length

/-! ## What the functions do to a record -/

/-- The record of a node after a record has been stored. -/
@[simp]
theorem find_store (registry : NodeRegistry) (uuid uuid' : NodeUuid) (record : NodeRecord) :
    (registry.store uuid record).find uuid' =
      if uuid' = uuid then some record else registry.find uuid' :=
  Map.lookup_insert_ite _ _ _ _

/-- An answer to a discovery is stored as a record with the node ID that the node has. -/
theorem acceptDiscoveryResponse_spec {registry registry' : NodeRegistry} {response : Packet}
    {now : ℤ} {update : NodeUpdate}
    (h : registry.acceptDiscoveryResponse response now = .ok (update, registry')) :
    ∃ identity, decodeNodeIdentity response.payload = .ok identity ∧
      (update = .added ↔ registry.find identity.uuid = none) ∧
      registry' = registry.store identity.uuid
        (discovered (registry.find identity.uuid) identity now) := by
  unfold acceptDiscoveryResponse at h
  split_ifs at h
  cases hdecode : decodeNodeIdentity response.payload with
  | error exception => rw [hdecode] at h; exact absurd h nofun
  | ok identity =>
    rw [hdecode] at h
    dsimp only at h
    obtain ⟨hupdate, hregistry⟩ := Prod.mk.inj (Except.ok.inj h)
    refine ⟨identity, rfl, ?_, hregistry.symm⟩
    rw [← hupdate]
    cases registry.find identity.uuid with
    | none => exact ⟨fun _ => rfl, fun _ => rfl⟩
    | some record => exact ⟨nofun, nofun⟩

/-- An assignment gives a known node a node ID other than zero, which is not confirmed. -/
theorem makeNodeAssignment_spec {registry registry' : NodeRegistry} {uuid : NodeUuid}
    {nodeId requestId : UInt32} {packet : Packet}
    (h : registry.makeNodeAssignment uuid nodeId requestId = .ok (packet, registry')) :
    nodeId ≠ 0 ∧ ∃ record, registry.find uuid = some record ∧
      registry' = registry.store uuid { record with nodeId := nodeId, assigned := false } := by
  unfold makeNodeAssignment at h
  cases hfind : registry.find uuid with
  | none => rw [hfind] at h; exact absurd h nofun
  | some record =>
    rw [hfind] at h
    unfold encodeNodeAssignment at h
    by_cases hzero : nodeId = 0
    · rw [if_pos hzero] at h
      exact absurd h nofun
    · rw [if_neg hzero] at h
      exact ⟨hzero, record, rfl, (Prod.mk.inj (Except.ok.inj h)).2.symm⟩

/-- A heartbeat is not accepted, or confirms the node ID that it carries. -/
theorem acceptHeartbeat_spec {registry registry' : NodeRegistry} {heartbeat : Packet} {now : ℤ}
    {accepted : Bool} (h : registry.acceptHeartbeat heartbeat now = .ok (accepted, registry')) :
    registry' = registry ∨ heartbeat.header.messageType = .event ∧
      heartbeat.header.command = Command.heartbeat ∧
      ∃ decoded record, decodeHeartbeat heartbeat.payload = .ok decoded ∧
        registry.find decoded.uuid = some record ∧
        record.identity.protocolVersion = decoded.protocolVersion ∧
        registry' = registry.store decoded.uuid
          (confirmed record heartbeat.header.objectId now) := by
  unfold acceptHeartbeat at h
  split_ifs at h with hother
  · exact .inl (Prod.mk.inj (Except.ok.inj h)).2.symm
  · cases hdecode : decodeHeartbeat heartbeat.payload with
    | error exception => rw [hdecode] at h; exact absurd h nofun
    | ok decoded =>
      rw [hdecode] at h
      dsimp only at h
      cases hfind : registry.find decoded.uuid with
      | none =>
        rw [hfind] at h
        exact .inl (Prod.mk.inj (Except.ok.inj h)).2.symm
      | some record =>
        rw [hfind] at h
        dsimp only at h
        split_ifs at h with hversion
        · exact .inl (Prod.mk.inj (Except.ok.inj h)).2.symm
        · obtain ⟨hevent, hcommand⟩ := not_or.1 hother
          exact .inr ⟨not_not.1 hevent, not_not.1 hcommand, decoded, record, rfl, hfind,
            not_not.1 hversion, (Prod.mk.inj (Except.ok.inj h)).2.symm⟩

/-- The record of a node after silent nodes have been marked. -/
theorem find_expire (registry : NodeRegistry) (now : ℤ) (uuid : NodeUuid) :
    (registry.expire now).2.find uuid = (registry.find uuid).map fun record =>
      if registry.silent now record then { record with online := false } else record :=
  Map.lookup_mapValues _ _ _

end NodeRegistry

end RemoteBSP.Toolbusd
