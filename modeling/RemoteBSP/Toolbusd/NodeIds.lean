import RemoteBSP.Lib.Machine
import RemoteBSP.Toolbusd.Daemon

/-!
# The node IDs of the registry

The daemon allots the node IDs in order, but it also takes over whatever node ID a heartbeat
carries. As long as no heartbeat carries one that the daemon has allotted to another node, or has
still to allot, the node IDs of the records differ (`Daemon.Allotted`), and so do the confirmed ones
of the nodes that are online (`online_node_ids_unique`). A node that kept the node ID of an earlier
daemon breaks this (`stale_heartbeat_duplicates`).
-/

namespace RemoteBSP.Toolbusd

/-- No two nodes that are online have the same node ID confirmed. -/
def NodeRegistry.UniqueIds (registry : NodeRegistry) : Prop :=
  ∀ u v r s, registry.find u = some r → registry.find v = some s →
    r.online = true → s.online = true → r.assigned = true → s.assigned = true →
    r.nodeId = s.nodeId → u = v

/-- What happens to the daemon: a section of its code under the mutex, or the sending of a
packet. -/
inductive DaemonOp
  /-- The timer of `send_discovery` has run out. -/
  | discover
  /-- A message has come in from the bus. -/
  | receive (message : CanMessage) (now : ℤ)
  /-- The main loop calls `process_request_timers`. -/
  | timers (now : ℤ)
  /-- A client asks for a request to be sent to a node. -/
  | submit (nodeId : UInt32) (request : Packet) (now : ℤ)
  /-- The end of a client's request that is not admitted. -/
  | reject (submission : Submission)
  /-- The end of a client's request. -/
  | finish (requestKey : UInt64)
  /-- The daemon hands a packet to `send_packet`. -/
  | send (packet : Packet) (canId : UInt32) (admitted : Bool)

/-- The daemon as a machine, whose operations come in any order. -/
def toolbus : Machine Daemon DaemonOp Unit where
  step daemon op :=
    let next : Daemon := match op with
      | .discover => daemon.sendDiscovery.2
      | .receive message now => (daemon.receive message now).2
      | .timers now => (daemon.processRequestTimers now).2
      | .submit nodeId request now => (daemon.submitRequest nodeId request now).2
      | .reject submission => (daemon.rejectRequest submission).2
      | .finish requestKey => (daemon.finishRequest requestKey).2
      | .send packet canId admitted => (daemon.sendPacket packet canId admitted).2
    (next, ())

namespace Daemon

/-- The packet that a message completes. -/
def arrived (daemon : Daemon) (message : CanMessage) (now : ℤ) : Option Packet :=
  match (daemon.reassembler.accept message.identifier message.data now).1 with
  | .ok ⟨.complete, some bytes⟩ => (decode bytes).toOption
  | _ => none

/-- A heartbeat that the registry accepts, and that carries a node ID that is not the one of its
node, but the one of another node or one that is still to be allotted. -/
def carriesForeignId (daemon : Daemon) (packet : Packet) : Bool :=
  match decodeHeartbeat packet.payload with
  | .error _ => false
  | .ok decoded =>
    match daemon.nodes.find decoded.uuid with
    | none => false
    | some record =>
      let nodeId := packet.header.objectId
      packet.header.messageType = .event ∧ packet.header.command = Command.heartbeat ∧
        record.identity.protocolVersion = decoded.protocolVersion ∧ nodeId ≠ 0 ∧
        nodeId ≠ record.nodeId ∧
        ((daemon.nodes.findByNodeId nodeId).isSome ∨
          daemon.nextNodeId ≤ nodeId ∧ nodeId ≤ kMaximumNodeId)

/-- The operation delivers such a heartbeat. -/
def takesForeignId (daemon : Daemon) : DaemonOp → Bool
  | .receive message now => (daemon.arrived message now).any daemon.carriesForeignId
  | _ => false

/-- The daemon has allotted the node IDs: those of the records differ, and none of them is still to
be allotted. -/
structure Allotted (daemon : Daemon) : Prop where
  /-- No two boards have the same node ID. -/
  distinct : ∀ u v r s, daemon.nodes.find u = some r → daemon.nodes.find v = some s →
    r.nodeId = s.nodeId → r.nodeId ≠ 0 → u = v
  /-- They have been allotted, or they are beyond all that can be. -/
  passed : ∀ u r, daemon.nodes.find u = some r →
    r.nodeId < daemon.nextNodeId ∨ kMaximumNodeId < r.nodeId
  /-- A confirmed node ID is not zero. -/
  assigned : ∀ u r, daemon.nodes.find u = some r → r.assigned = true → r.nodeId ≠ 0
  /-- The first node ID is one. -/
  next_pos : 0 < daemon.nextNodeId
  /-- The next node ID is at most one above the largest. -/
  next_le : daemon.nextNodeId ≤ kMaximumNodeId + 1

/-- A node ID that has been allotted belongs to one board. -/
theorem Allotted.unique {daemon : Daemon} (h : daemon.Allotted) : daemon.nodes.UniqueIds :=
  fun u v r s hu hv _ _ hassigned _ heq =>
    h.distinct u v r s hu hv heq (h.assigned u r hu hassigned)

/-- A new daemon has allotted nothing. -/
theorem allotted_create (mode : CanMode) (sessionId : UInt32) (h : sessionId ≠ 0) :
    (create mode sessionId h).Allotted := by
  have hnone : ∀ u r, (create mode sessionId h).nodes.find u ≠ some r := fun u r => by
    rw [create, NodeRegistry.find, NodeRegistry.create, AList.lookup_empty]
    exact (Option.some_ne_none r).symm
  exact ⟨fun u v r s hu => absurd hu (hnone u r), fun u r hu => absurd hu (hnone u r),
    fun u r hu => absurd hu (hnone u r), show (0 : UInt32) < 1 by decide,
    show (1 : UInt32) ≤ kMaximumNodeId + 1 by decide⟩

/-- The node IDs stay allotted when the records keep theirs, and none becomes confirmed. -/
theorem Allotted.of_same {daemon daemon' : Daemon} (h : daemon.Allotted)
    (hnext : daemon'.nextNodeId = daemon.nextNodeId)
    (hnodes : ∀ u r', daemon'.nodes.find u = some r' → ∃ r, daemon.nodes.find u = some r ∧
      r'.nodeId = r.nodeId ∧ (r'.assigned = true → r.assigned = true)) : daemon'.Allotted := by
  refine ⟨fun u v r' s' hu hv heq hne => ?_, fun u r' hu => ?_, fun u r' hu hassigned => ?_,
    hnext ▸ h.next_pos, hnext ▸ h.next_le⟩
  · obtain ⟨r, hr, hid, -⟩ := hnodes u r' hu
    obtain ⟨s, hs, hid', -⟩ := hnodes v s' hv
    exact h.distinct u v r s hr hs (by rw [← hid, ← hid', heq]) (hid ▸ hne)
  · obtain ⟨r, hr, hid, -⟩ := hnodes u r' hu
    rw [hid, hnext]
    exact h.passed u r hr
  · obtain ⟨r, hr, hid, hconfirmed⟩ := hnodes u r' hu
    exact hid ▸ h.assigned u r hr (hconfirmed hassigned)

/-- A record may be stored that keeps its node ID, or gets one that no other record has and that is
not to be allotted any more. -/
theorem Allotted.store {daemon daemon' : Daemon} {uuid : NodeUuid} {record : NodeRecord}
    (h : daemon.Allotted) (hnodes : daemon'.nodes = daemon.nodes.store uuid record)
    (hle : daemon.nextNodeId ≤ daemon'.nextNodeId) (hlast : daemon'.nextNodeId ≤ kMaximumNodeId + 1)
    (hassigned : record.assigned = true → record.nodeId ≠ 0)
    (hpassed : record.nodeId < daemon'.nextNodeId ∨ kMaximumNodeId < record.nodeId)
    (hother : record.nodeId ≠ 0 → ∀ u r, u ≠ uuid → daemon.nodes.find u = some r →
      r.nodeId ≠ record.nodeId) : daemon'.Allotted := by
  have hfind : ∀ u r, daemon'.nodes.find u = some r →
      (u = uuid ∧ r = record) ∨ (u ≠ uuid ∧ daemon.nodes.find u = some r) := by
    intro u r hu
    rw [hnodes, NodeRegistry.find_store] at hu
    by_cases heq : u = uuid
    · rw [if_pos heq] at hu
      exact .inl ⟨heq, (Option.some.inj hu).symm⟩
    · rw [if_neg heq] at hu
      exact .inr ⟨heq, hu⟩
  refine ⟨fun u v r s hu hv heq hne => ?_, fun u r hu => ?_, fun u r hu hr => ?_,
    UInt32.lt_of_lt_of_le h.next_pos hle, hlast⟩
  · rcases hfind u r hu with ⟨rfl, rfl⟩ | ⟨hu', hr⟩
    · rcases hfind v s hv with ⟨rfl, rfl⟩ | ⟨hv', hs⟩
      · rfl
      · exact absurd heq.symm (hother hne v s hv' hs)
    · rcases hfind v s hv with ⟨rfl, rfl⟩ | ⟨hv', hs⟩
      · exact absurd heq (hother (heq ▸ hne) u r hu' hr)
      · exact h.distinct u v r s hr hs heq hne
  · rcases hfind u r hu with ⟨rfl, rfl⟩ | ⟨-, hold⟩
    · exact hpassed
    · exact (h.passed u r hold).imp_left fun hlt => UInt32.lt_of_lt_of_le hlt hle
  · rcases hfind u r hu with ⟨rfl, rfl⟩ | ⟨-, hold⟩
    · exact hassigned hr
    · exact h.assigned u r hold hr

/-- The node IDs stay allotted when the registry does not change. -/
theorem Allotted.of_eq {daemon daemon' : Daemon} (h : daemon.Allotted)
    (hnodes : daemon'.nodes = daemon.nodes) (hnext : daemon'.nextNodeId = daemon.nextNodeId) :
    daemon'.Allotted :=
  h.of_same hnext fun _ r hfind => ⟨r, hnodes ▸ hfind, rfl, id⟩

/-! ## One operation -/

/-- There is room for one more node ID while the last one has not been allotted. -/
theorem next_step {next : UInt32} (h : ¬ kMaximumNodeId < next) :
    next < next + 1 ∧ next + 1 ≤ kMaximumNodeId + 1 := by
  have hmax : kMaximumNodeId.toNat = 127 := rfl
  have hmax' : (kMaximumNodeId + 1).toNat = 128 := rfl
  rw [UInt32.lt_iff_toNat_lt, hmax] at h
  have hnext : (next + 1).toNat = next.toNat + 1 := by
    rw [UInt32.toNat_add, UInt32.toNat_one]
    exact Nat.mod_eq_of_lt (by omega)
  rw [UInt32.lt_iff_toNat_lt, UInt32.le_iff_toNat_le, hnext, hmax']
  omega

/-- A node may be assigned a node ID that no other record has. -/
theorem Allotted.assign {daemon daemon' : Daemon} {uuid : NodeUuid} {nodeId : UInt32}
    (h : daemon.Allotted) (hnodes : daemon'.nodes = daemon.nodes)
    (hle : daemon.nextNodeId ≤ daemon'.nextNodeId) (hlast : daemon'.nextNodeId ≤ kMaximumNodeId + 1)
    (hpassed : nodeId < daemon'.nextNodeId ∨ kMaximumNodeId < nodeId)
    (hother : ∀ u r, u ≠ uuid → daemon.nodes.find u = some r → r.nodeId ≠ nodeId) :
    (daemon'.assign uuid nodeId).2.Allotted := by
  unfold Daemon.assign
  dsimp only
  rw [hnodes]
  cases hassign : daemon.nodes.makeNodeAssignment uuid nodeId daemon'.nextControlRequestId with
  | error exception =>
    -- The record has not been changed, but the node ID has been taken all the same.
    refine ⟨fun u v r s hu hv => ?_, fun u r hu => ?_, fun u r hu => ?_,
      UInt32.lt_of_lt_of_le h.next_pos hle, hlast⟩
    · exact h.distinct u v r s (hnodes ▸ hu) (hnodes ▸ hv)
    · exact (h.passed u r (hnodes ▸ hu)).imp_left fun hlt => UInt32.lt_of_lt_of_le hlt hle
    · exact h.assigned u r (hnodes ▸ hu)
  | ok assignment =>
    obtain ⟨-, record, -, hstore⟩ := NodeRegistry.makeNodeAssignment_spec hassign
    exact h.store hstore hle hlast nofun hpassed fun _ => hother

/-- What the daemon does behind the acceptance of a discovery response. -/
theorem Allotted.assignDiscovered {daemon : Daemon} (h : daemon.Allotted) (update : NodeUpdate)
    (uuid : NodeUuid) : (daemon.assignDiscovered update uuid).2.Allotted := by
  unfold Daemon.assignDiscovered
  cases update with
  | added =>
    dsimp only
    by_cases hlast : kMaximumNodeId < daemon.nextNodeId
    · rw [if_pos hlast]
      exact h
    · rw [if_neg hlast]
      obtain ⟨hlt, hle⟩ := next_step hlast
      refine h.assign rfl (UInt32.le_of_lt hlt) hle (.inl hlt) fun u r _ hr heq => ?_
      rcases h.passed u r hr with hpassed | hpassed
      · exact UInt32.lt_irrefl _ (heq ▸ hpassed)
      · exact hlast (heq ▸ hpassed)
  | updated =>
    dsimp only
    cases hfind : daemon.nodes.find uuid with
    | none => exact h
    | some node =>
      dsimp only
      by_cases hresend : (!node.assigned) = true ∧ node.nodeId ≠ 0
      · rw [if_pos hresend]
        exact h.assign rfl (UInt32.le_refl _) h.next_le (h.passed uuid node hfind)
          fun u r hu hr heq => hu (h.distinct u uuid r node hr hfind heq (heq ▸ hresend.2))
      · rw [if_neg hresend]
        exact h

/-- A discovery response keeps the node IDs allotted. -/
theorem Allotted.handleDiscoveryResponse {daemon : Daemon} (h : daemon.Allotted)
    (identifier : UInt32) (packet : Packet) (now : ℤ) :
    (daemon.handleDiscoveryResponse identifier packet now).2.Allotted := by
  unfold Daemon.handleDiscoveryResponse
  cases haccept : daemon.nodes.acceptDiscoveryResponse packet now with
  | error exception => exact h
  | ok accepted =>
    obtain ⟨update, nodes⟩ := accepted
    obtain ⟨identity, hdecode, -, hstore⟩ := NodeRegistry.acceptDiscoveryResponse_spec haccept
    -- The record behind the answer has the node ID of the record before, or none.
    have hdiscovered : { daemon with nodes := nodes }.Allotted := by
      cases hfind : daemon.nodes.find identity.uuid with
      | none =>
        rw [hfind] at hstore
        exact h.store hstore (UInt32.le_refl _) h.next_le nofun (.inl h.next_pos)
          fun hne => absurd rfl hne
      | some record =>
        rw [hfind] at hstore
        exact h.store hstore (UInt32.le_refl _) h.next_le (h.assigned _ record hfind)
          (h.passed _ record hfind) fun hne u r hu hr heq =>
            hu (h.distinct u _ r record hr hfind heq (heq ▸ hne))
    rw [hdecode]
    dsimp only
    apply Allotted.assignDiscovered
    by_cases hprovisional : provisional identifier = true
    · rw [if_pos hprovisional]
      unfold NodeRegistry.markAssignmentUnconfirmed
      cases hfind : nodes.find identity.uuid with
      | none => exact hdiscovered
      | some record =>
        exact hdiscovered.store rfl (UInt32.le_refl _) h.next_le nofun
          (hdiscovered.passed _ record hfind) fun hne u r hu hr heq =>
            hu (hdiscovered.distinct u _ r record hr hfind heq (heq ▸ hne))
    · rw [if_neg hprovisional]
      exact hdiscovered

/-- A record with a node ID is found by it. -/
theorem findByNodeId_isSome {registry : NodeRegistry} {uuid : NodeUuid} {record : NodeRecord}
    (h : registry.find uuid = some record) :
    (registry.findByNodeId record.nodeId).isSome = true := by
  have hmem := (Map.mem_entries_iff registry.nodes uuid record).2 h
  rw [NodeRegistry.findByNodeId, Option.isSome_map, List.find?_isSome]
  exact ⟨_, hmem, decide_eq_true rfl⟩

/-- A heartbeat keeps the node IDs allotted, unless it carries a foreign one. -/
theorem Allotted.handleHeartbeat {daemon : Daemon} (h : daemon.Allotted) {packet : Packet} (now : ℤ)
    (hforeign : daemon.carriesForeignId packet = false) :
    (daemon.handleHeartbeat packet now).2.Allotted := by
  unfold Daemon.handleHeartbeat
  cases haccept : daemon.nodes.acceptHeartbeat packet now with
  | error exception => exact h
  | ok accepted =>
    obtain ⟨result, nodes⟩ := accepted
    rcases NodeRegistry.acceptHeartbeat_spec haccept with
      rfl | ⟨hevent, hcommand, decoded, record, hdecode, hfind, hversion, rfl⟩
    · exact h
    unfold NodeRegistry.confirmed
    by_cases hzero : packet.header.objectId ≠ 0
    · dsimp only
      rw [if_pos hzero]
      unfold carriesForeignId at hforeign
      rw [hdecode] at hforeign
      dsimp only at hforeign
      rw [hfind] at hforeign
      have hforeign := of_decide_eq_false hforeign
      by_cases hown : packet.header.objectId = record.nodeId
      · -- The node confirms the node ID that it has.
        refine h.store rfl (UInt32.le_refl _) h.next_le (fun _ => hzero)
          (hown ▸ h.passed _ record hfind) fun _ u r hu hr heq => ?_
        exact hu (h.distinct u _ r record hr hfind (heq.trans hown)
          (show r.nodeId ≠ 0 from heq ▸ hzero))
      · -- No record has the node ID, and it is not to be allotted any more.
        have hfree : ¬ ((daemon.nodes.findByNodeId packet.header.objectId).isSome = true ∨
            daemon.nextNodeId ≤ packet.header.objectId ∧
              packet.header.objectId ≤ kMaximumNodeId) :=
          fun hheld => hforeign ⟨hevent, hcommand, hversion, hzero, hown, hheld⟩
        refine h.store rfl (UInt32.le_refl _) h.next_le (fun _ => hzero) ?_ fun _ u r _ hr heq => ?_
        · by_cases hlt : packet.header.objectId < daemon.nextNodeId
          · exact .inl hlt
          · refine .inr (UInt32.not_le.1 fun hle => hfree (.inr ⟨UInt32.not_lt.1 hlt, hle⟩))
        · have heq : r.nodeId = packet.header.objectId := heq
          exact hfree (.inl (heq ▸ findByNodeId_isSome hr))
    · dsimp only
      rw [if_neg hzero]
      exact h.store rfl (UInt32.le_refl _) h.next_le (h.assigned _ record hfind)
        (h.passed _ record hfind) fun hne u r hu hr heq =>
          hu (h.distinct u _ r record hr hfind heq (heq ▸ hne))

/-- A packet keeps the node IDs allotted, unless it is a heartbeat with a foreign one. -/
theorem Allotted.handlePacket {daemon : Daemon} (h : daemon.Allotted) (identifier : UInt32)
    {packet : Packet} (now : ℤ) (hforeign : daemon.carriesForeignId packet = false) :
    (daemon.handlePacket identifier packet now).2.Allotted := by
  unfold Daemon.handlePacket
  split_ifs
  · exact h.handleDiscoveryResponse identifier packet now
  · exact h.handleHeartbeat now hforeign
  · unfold handleEvent
    dsimp only
    split_ifs
    · exact h
    · exact h.of_eq rfl rfl
    · exact h.of_eq rfl rfl
  · unfold handleResponse
    dsimp only
    split_ifs
    · exact h
    · exact h
    · split <;> exact h.of_eq rfl rfl

/-- A message keeps the node IDs allotted, unless it completes a heartbeat with a foreign one. -/
theorem Allotted.receive {daemon : Daemon} (h : daemon.Allotted) (message : CanMessage) (now : ℤ)
    (hforeign : ∀ packet ∈ daemon.arrived message now, daemon.carriesForeignId packet = false) :
    (daemon.receive message now).2.Allotted := by
  unfold Daemon.receive
  by_cases hnode : (!message.extendedIdentifier) = true ∧ (fromResponses message.identifier ∨
      fromEvents message.identifier ∨ provisional message.identifier)
  · rw [if_pos hnode]
    unfold Daemon.handleCanMessage
    unfold arrived at hforeign
    cases haccept : daemon.reassembler.accept message.identifier message.data now with
    | mk result reassembler =>
      rw [haccept] at hforeign
      dsimp only at hforeign ⊢
      split
      · exact h.of_eq rfl rfl
      · rename_i bytes
        dsimp only at hforeign
        cases hdecode : decode bytes with
        | error exception => exact h.of_eq rfl rfl
        | ok packet =>
          rw [hdecode] at hforeign
          have hopen : { daemon with reassembler := reassembler }.Allotted := h.of_eq rfl rfl
          exact hopen.handlePacket message.identifier now (hforeign packet rfl)
      · exact h.of_eq rfl rfl
  · rw [if_neg hnode]
    exact h

/-- The events of the request manager leave the registry alone. -/
theorem handleRequestEvents_spec (events : List RequestEvent) (retries : List (Packet × UInt32))
    (daemon : Daemon) :
    (events.foldl handleRequestEvent (retries, daemon)).2.nodes = daemon.nodes ∧
      (events.foldl handleRequestEvent (retries, daemon)).2.nextNodeId = daemon.nextNodeId := by
  induction events generalizing retries daemon with
  | nil => exact ⟨rfl, rfl⟩
  | cons event events ih =>
    rw [List.foldl_cons]
    have hevent : (handleRequestEvent (retries, daemon) event).2.nodes = daemon.nodes ∧
        (handleRequestEvent (retries, daemon) event).2.nextNodeId = daemon.nextNodeId := by
      unfold handleRequestEvent
      dsimp only
      split
      · cases AList.lookup (RequestManager.key event.sessionId event.requestId)
          daemon.requestCanIds <;> exact ⟨rfl, rfl⟩
      · exact ⟨rfl, rfl⟩
      · exact ⟨rfl, rfl⟩
    obtain ⟨hnodes, hnext⟩ := ih (handleRequestEvent (retries, daemon) event).1
      (handleRequestEvent (retries, daemon) event).2
    exact ⟨hnodes.trans hevent.1, hnext.trans hevent.2⟩

/-- The timers keep the node IDs allotted. -/
theorem Allotted.processRequestTimers {daemon : Daemon} (h : daemon.Allotted) (now : ℤ) :
    (daemon.processRequestTimers now).2.Allotted := by
  obtain ⟨hnodes, hnext⟩ := handleRequestEvents_spec (daemon.requests.poll now).1 []
    { daemon with requests := (daemon.requests.poll now).2 }
  refine h.of_same hnext fun u r' hu => ?_
  unfold Daemon.processRequestTimers at hu
  dsimp only at hu
  rw [NodeRegistry.find_expire, hnodes, Option.map_eq_some_iff] at hu
  obtain ⟨r, hr, rfl⟩ := hu
  refine ⟨r, hr, ?_, ?_⟩
  · split_ifs <;> rfl
  · split_ifs <;> exact id

/-- A client's request leaves the registry alone. -/
theorem Allotted.submitRequest {daemon : Daemon} (h : daemon.Allotted) (nodeId : UInt32)
    (request : Packet) (now : ℤ) : (daemon.submitRequest nodeId request now).2.Allotted := by
  unfold Daemon.submitRequest
  split
  · exact h
  · dsimp only
    split
    · exact h
    · split
      · exact h
      · split <;> exact h.of_eq rfl rfl

/-- Sending a packet leaves the registry alone. -/
theorem Allotted.sendPacket {daemon : Daemon} (h : daemon.Allotted) (packet : Packet)
    (canId : UInt32) (admitted : Bool) : (daemon.sendPacket packet canId admitted).2.Allotted := by
  unfold Daemon.sendPacket
  split
  · exact h
  · split <;> exact h.of_eq rfl rfl

/-- One operation keeps the node IDs allotted, unless it delivers a foreign one. -/
theorem Allotted.step {daemon : Daemon} (h : daemon.Allotted) (op : DaemonOp)
    (hforeign : daemon.takesForeignId op = false) : (toolbus.step daemon op).1.Allotted := by
  cases op with
  | discover => exact h.of_eq rfl rfl
  | receive message now =>
    refine h.receive message now fun packet hmem => ?_
    have hany : (daemon.arrived message now).any daemon.carriesForeignId = false := hforeign
    rw [Option.mem_def.1 hmem] at hany
    exact hany
  | timers now => exact h.processRequestTimers now
  | submit nodeId request now => exact h.submitRequest nodeId request now
  | reject submission => exact h.of_eq rfl rfl
  | finish requestKey =>
    show (daemon.finishRequest requestKey).2.Allotted
    unfold finishRequest
    split <;> exact h.of_eq rfl rfl
  | send packet canId admitted => exact h.sendPacket packet canId admitted

end Daemon

/-- In every run of a daemon in which no accepted heartbeat carries a node ID that is not its
node's, but another node's or one still to be allotted, the confirmed node IDs of the nodes that are
online differ. -/
theorem online_node_ids_unique (mode : CanMode) (sessionId : UInt32) (hsession : sessionId ≠ 0)
    (ops : List DaemonOp)
    (hown : toolbus.Along (fun daemon op => daemon.takesForeignId op = false)
      (Daemon.create mode sessionId hsession) ops) :
    (toolbus.run (Daemon.create mode sessionId hsession) ops).nodes.UniqueIds := by
  apply Daemon.Allotted.unique
  exact toolbus.run_induction_of (fun _ op h hforeign => h.step op hforeign)
    (Daemon.allotted_create mode sessionId hsession) hown

/-! ## Two boards -/

/-- The messages by which a node sends a packet on a CAN-FD bus. -/
def nodeMessages (identifier : UInt32) (transferId : UInt16) (packet : Packet) : List CanMessage :=
  match encode packet with
  | .error _ => []
  | .ok bytes =>
    match split CANFD_MAX_DLEN bytes transferId with
    | .error _ => []
    | .ok frames => frames.map fun frame =>
        ⟨identifier, false, zeroBuffer (RemoteBSP.canonicalFdLength frame.length) frame, true⟩

/-- The UUID of a board, sixteen times the same byte. -/
def boardUuid (board : UInt8) : NodeUuid := ⟨List.replicate 16 board, List.length_replicate⟩

/-- What a board answers to a discovery. -/
def discoveryResponse (board : UInt8) (requestId : UInt32) : Packet :=
  ⟨{ messageType := .response, command := Command.discoveryResponse, requestId := requestId },
    encodeNodeIdentity ⟨boardUuid board, 1, 0, 0, 7, kProtocolVersion⟩⟩

/-- The heartbeat of a board with a node ID. -/
def heartbeat (board : UInt8) (nodeId : UInt32) : Packet :=
  ⟨{ messageType := .event, command := Command.heartbeat, objectId := nodeId },
    encodeHeartbeat ⟨boardUuid board, kProtocolVersion⟩⟩

/-- A discovery, then messages from the nodes, one each millisecond. -/
def discoveryRun (messages : List (List CanMessage)) : List DaemonOp :=
  .discover :: messages.flatten.zipIdx.map fun message =>
    .receive message.1 (1000000 * message.2)

/-- Board 2 is discovered, assigned the node ID 1, and confirms it; then board 1 is discovered, and
gets the node ID 2. -/
def orderlyRun : List DaemonOp :=
  discoveryRun [nodeMessages 0x481 1 (discoveryResponse 2 0x80000000),
    nodeMessages 0x501 2 (heartbeat 2 1), nodeMessages 0x482 1 (discoveryResponse 1 0x80000000),
    nodeMessages 0x502 2 (heartbeat 1 2)]

/-- The same, but board 1 still has the node ID 1 of an earlier daemon when it is discovered, and
its next heartbeat comes before the assignment of the node ID 2. -/
def staleRun : List DaemonOp :=
  discoveryRun [nodeMessages 0x481 1 (discoveryResponse 2 0x80000000),
    nodeMessages 0x501 2 (heartbeat 2 1), nodeMessages 0x581 41 (discoveryResponse 1 0x80000000),
    nodeMessages 0x501 42 (heartbeat 1 1)]

/-- The node IDs of the two boards in the orderly run. -/
theorem online_node_ids_unique_two_boards :
    (toolbus.run (.create .flexibleDataRate 1 (by decide)) orderlyRun).nodes.UniqueIds :=
  online_node_ids_unique .flexibleDataRate 1 (by decide) orderlyRun (by decide +kernel)

/-- The heartbeat of board 1 confirms the node ID of board 2 once more. -/
theorem stale_heartbeat_duplicates :
    ¬ (toolbus.run (.create .flexibleDataRate 1 (by decide)) staleRun).nodes.UniqueIds := by
  have hfirst : (toolbus.run (.create .flexibleDataRate 1 (by decide)) staleRun).nodes.find
      (boardUuid 1) = some ⟨⟨boardUuid 1, 1, 0, 0, 7, 1⟩, 1, true, true, 3000000⟩ := by
    decide +kernel
  have hsecond : (toolbus.run (.create .flexibleDataRate 1 (by decide)) staleRun).nodes.find
      (boardUuid 2) = some ⟨⟨boardUuid 2, 1, 0, 0, 7, 1⟩, 1, true, true, 1000000⟩ := by
    decide +kernel
  intro hunique
  have heq := hunique _ _ _ _ hfirst hsecond rfl rfl rfl rfl rfl
  exact absurd heq (by decide)

end RemoteBSP.Toolbusd
