import RemoteBSP.Protocol.PayloadCodecs
import RemoteBSP.Protocol.RoundTrip
import RemoteBSP.Toolbusd.Ipc
import RemoteBSP.Toolbusd.NodeIds

/-!
# More boards than node IDs

There are 127 node IDs. The daemon adds the record of a board that it has not seen before, and
checks then whether there is a node ID left for it. With 127 records in the registry the check
fails, but the record stays: it never gets a node ID, and the list of all nodes is too long to be
sent to a client from then on (`exhausted_list_fails`). As long as no new board is discovered while
there are 127 records, everything is in order, and only then (`registry_intact_iff`).
-/

namespace RemoteBSP.Toolbusd

namespace Daemon

/-- The section of `handle_client` for `ListNodes`. -/
def listNodes (daemon : Daemon) : Except IpcError (List UInt8) :=
  encodeIpcNodeList <| daemon.nodes.records.map fun node => {
    uuid := node.identity.uuid
    nodeId := node.nodeId
    online := node.online
    ready := node.assigned
    firmwareMajor := node.identity.firmwareMajor
    firmwareMinor := node.identity.firmwareMinor
    firmwarePatch := node.identity.firmwarePatch
    boardType := node.identity.boardType
    protocolVersion := node.identity.protocolVersion }

/-- The error of a daemon that has no node ID left. -/
def exhausted : DaemonError := .runtimeError "可分配节点 ID 已耗尽"

/-- An operation leaves the registry intact: there are at most 127 records, a new record has a node
ID from 1 to 127, a discovery response for which there is no node ID left changes nothing, and the
nodes can be listed. -/
structure LeavesIntact (daemon : Daemon) (op : DaemonOp) : Prop where
  /-- The registry has no more records than there are node IDs. -/
  size_le : (toolbus.step daemon op).1.nodes.size ≤ 127
  /-- A new record has a node ID. -/
  given : ∀ uuid record, daemon.nodes.find uuid = none →
    (toolbus.step daemon op).1.nodes.find uuid = some record →
    1 ≤ record.nodeId ∧ record.nodeId ≤ 127
  /-- A board that gets no node ID is forgotten. -/
  undone : ∀ message now, op = .receive message now →
    (daemon.receive message now).1 = .error exhausted →
    (toolbus.step daemon op).1.nodes = daemon.nodes
  /-- The list of the nodes can be sent to a client. -/
  listed : ∃ body, (toolbus.step daemon op).1.listNodes = .ok body

/-- The packet that a message from a node completes. -/
def delivered (daemon : Daemon) (message : CanMessage) (now : ℤ) : Option Packet :=
  if !message.extendedIdentifier ∧ (fromResponses message.identifier ∨
      fromEvents message.identifier ∨ provisional message.identifier) then
    daemon.arrived message now
  else none

/-- The board without a record of which the packet is the discovery response. -/
def introduces (daemon : Daemon) (packet : Packet) : Option NodeUuid :=
  match decodeNodeIdentity packet.payload with
  | .error _ => none
  | .ok identity =>
    if packet.header.messageType = .response ∧ packet.header.command = Command.discoveryResponse ∧
        (daemon.nodes.find identity.uuid).isNone then
      some identity.uuid
    else none

/-- The operation delivers the discovery response of one more board than there are node IDs. -/
def overfills (daemon : Daemon) : DaemonOp → Bool
  | .receive message now =>
    127 ≤ daemon.nodes.size ∧ ((daemon.delivered message now).bind daemon.introduces).isSome
  | _ => false

/-! ## What an operation does to the records -/

/-- The daemon has the same records, and the same node ID to give next. -/
structure SameBoards (daemon daemon' : Daemon) : Prop where
  /-- The next board will get the same node ID. -/
  next : daemon'.nextNodeId = daemon.nextNodeId
  /-- The same boards have records. -/
  boards : ∀ uuid, (daemon'.nodes.find uuid).isSome = (daemon.nodes.find uuid).isSome

/-- An operation that leaves the registry and the next node ID keeps the boards. -/
theorem SameBoards.of_eq {daemon daemon' : Daemon} (hnodes : daemon'.nodes = daemon.nodes)
    (hnext : daemon'.nextNodeId = daemon.nextNodeId) : daemon.SameBoards daemon' :=
  ⟨hnext, fun uuid => by rw [hnodes]⟩

/-- What keeps the boards twice keeps them. -/
theorem SameBoards.trans {daemon daemon' daemon'' : Daemon} (h : daemon.SameBoards daemon')
    (h' : daemon'.SameBoards daemon'') : daemon.SameBoards daemon'' :=
  ⟨h'.next.trans h.next, fun uuid => (h'.boards uuid).trans (h.boards uuid)⟩

/-- The record of a board that has one is replaced. -/
theorem SameBoards.store {daemon daemon' : Daemon} {uuid : NodeUuid} {record record' : NodeRecord}
    (hfind : daemon.nodes.find uuid = some record)
    (hnodes : daemon'.nodes = daemon.nodes.store uuid record')
    (hnext : daemon'.nextNodeId = daemon.nextNodeId) : daemon.SameBoards daemon' := by
  refine ⟨hnext, fun u => ?_⟩
  rw [hnodes, NodeRegistry.find_store]
  by_cases hu : u = uuid
  · rw [if_pos hu, hu, hfind]
    rfl
  · rw [if_neg hu]

/-- The same boards are as many. -/
theorem SameBoards.size_eq {daemon daemon' : Daemon} (h : daemon.SameBoards daemon') :
    daemon'.nodes.size = daemon.nodes.size := Map.length_entries_congr h.boards

/-- A daemon that assigns a node ID to a board with a record. -/
theorem assign_known {daemon : Daemon} {uuid : NodeUuid} {record : NodeRecord} {nodeId : UInt32}
    (hfind : daemon.nodes.find uuid = some record) (hid : nodeId ≠ 0) :
    (∃ packet, (daemon.assign uuid nodeId).1 = .ok (some packet)) ∧
      (daemon.assign uuid nodeId).2.nodes =
        daemon.nodes.store uuid { record with nodeId := nodeId, assigned := false } ∧
      (daemon.assign uuid nodeId).2.nextNodeId = daemon.nextNodeId := by
  rw [Daemon.assign]
  dsimp only
  rw [NodeRegistry.makeNodeAssignment, hfind]
  dsimp only
  rw [encodeNodeAssignment, if_neg hid]
  exact ⟨⟨_, rfl⟩, rfl, rfl⟩

/-- A board that had no record has one, and nothing else has changed in the registry. -/
structure Gains (daemon daemon' : Daemon) (uuid : NodeUuid) (record : NodeRecord) : Prop where
  /-- The board had no record before. -/
  new : daemon.nodes.find uuid = none
  /-- The board has a record now, and those of the others are as they were. -/
  find : ∀ u, daemon'.nodes.find u = if u = uuid then some record else daemon.nodes.find u

/-- With a new board the registry has one record more. -/
theorem Gains.size_eq {daemon daemon' : Daemon} {uuid : NodeUuid} {record : NodeRecord}
    (h : daemon.Gains daemon' uuid record) : daemon'.nodes.size = daemon.nodes.size + 1 := by
  refine Map.length_entries_of_new h.new fun u => ?_
  have hfind : daemon'.nodes.nodes.lookup u = _ := h.find u
  rw [hfind]
  by_cases hu : u = uuid
  · simp [hu]
  · simp [hu, NodeRegistry.find]

/-- What the handling of a packet does to the records, when it is the discovery response of a board
without a record, and when it is not. -/
inductive Handled (daemon : Daemon) (outcome : Except DaemonError (Option Packet) × Daemon) :
    Option NodeUuid → Prop
  /-- No board is new, and the node IDs suffice. -/
  | kept (same : daemon.SameBoards outcome.2) (ne : outcome.1 ≠ .error exhausted) :
    Handled daemon outcome none
  /-- A new board gets the next node ID. -/
  | added {uuid : NodeUuid} {record : NodeRecord} (gains : daemon.Gains outcome.2 uuid record)
    (left : ¬ kMaximumNodeId < daemon.nextNodeId) (nodeId : record.nodeId = daemon.nextNodeId)
    (next : outcome.2.nextNodeId = daemon.nextNodeId + 1) (ne : outcome.1 ≠ .error exhausted) :
    Handled daemon outcome (some uuid)
  /-- There is no node ID for a new board, but it has a record. -/
  | refused {uuid : NodeUuid} {record : NodeRecord} (gains : daemon.Gains outcome.2 uuid record)
    (none_left : kMaximumNodeId < daemon.nextNodeId) (failed : outcome.1 = .error exhausted) :
    Handled daemon outcome (some uuid)

/-- Only the records and the next node ID count. -/
theorem Handled.of_eq {daemon daemon' : Daemon}
    {outcome : Except DaemonError (Option Packet) × Daemon} {introduced : Option NodeUuid}
    (h : daemon'.Handled outcome introduced) (hnodes : daemon'.nodes = daemon.nodes)
    (hnext : daemon'.nextNodeId = daemon.nextNodeId) : daemon.Handled outcome introduced := by
  cases h with
  | kept same ne => exact .kept (.trans (.of_eq hnodes hnext) same) ne
  | added gains left nodeId next ne =>
    exact .added ⟨hnodes ▸ gains.new, hnodes ▸ gains.find⟩ (hnext ▸ left) (hnext ▸ nodeId)
      (hnext ▸ next) ne
  | refused gains none_left failed =>
    exact .refused ⟨hnodes ▸ gains.new, hnodes ▸ gains.find⟩ (hnext ▸ none_left) failed

/-- The part of `handle_can_message` behind the acceptance of a discovery response from a board
without a record. -/
theorem handled_added {daemon daemon' : Daemon} {uuid : NodeUuid} {record : NodeRecord}
    (hgains : daemon.Gains daemon' uuid record) (hnext : daemon'.nextNodeId = daemon.nextNodeId)
    (hpos : daemon.nextNodeId ≠ 0) :
    daemon.Handled (daemon'.assignDiscovered .added uuid) (some uuid) := by
  unfold assignDiscovered
  dsimp only
  rw [hnext]
  by_cases hlast : kMaximumNodeId < daemon.nextNodeId
  · rw [if_pos hlast]
    exact .refused hgains hlast rfl
  · rw [if_neg hlast]
    have hfind : { daemon' with nextNodeId := daemon.nextNodeId + 1 }.nodes.find uuid =
        some record := (hgains.find uuid).trans (if_pos rfl)
    obtain ⟨⟨packet, hok⟩, hnodes, hnext'⟩ := assign_known hfind hpos
    have hassigned : daemon.Gains
        ({ daemon' with nextNodeId := daemon.nextNodeId + 1 }.assign uuid daemon.nextNodeId).2 uuid
        { record with nodeId := daemon.nextNodeId, assigned := false } := by
      refine ⟨hgains.new, fun u => ?_⟩
      rw [hnodes, NodeRegistry.find_store]
      by_cases hu : u = uuid
      · rw [if_pos hu, if_pos hu]
      · rw [if_neg hu, if_neg hu, hgains.find, if_neg hu]
    exact .added hassigned hlast rfl hnext' (by rw [hok]; exact nofun)

/-- The part of `handle_can_message` behind the acceptance of a discovery response from a board with
a record. -/
theorem handled_updated {daemon daemon' : Daemon} {uuid : NodeUuid} {record : NodeRecord}
    (hsame : daemon.SameBoards daemon') (hfind : daemon'.nodes.find uuid = some record) :
    daemon.Handled (daemon'.assignDiscovered .updated uuid) none := by
  unfold assignDiscovered
  dsimp only
  rw [hfind]
  dsimp only
  by_cases hresend : (!record.assigned) = true ∧ record.nodeId ≠ 0
  · rw [if_pos hresend]
    obtain ⟨⟨packet, hok⟩, hnodes, hnext⟩ := assign_known hfind hresend.2
    exact .kept (hsame.trans (.store hfind hnodes hnext)) (by rw [hok]; exact nofun)
  · rw [if_neg hresend]
    exact .kept hsame nofun

/-- A discovery response that is not accepted does not introduce a board. -/
theorem introduces_of_error {daemon : Daemon} {packet : Packet} {now : ℤ} {error : RegistryError}
    (h : daemon.nodes.acceptDiscoveryResponse packet now = .error error) :
    daemon.introduces packet = none := by
  unfold NodeRegistry.acceptDiscoveryResponse at h
  unfold introduces
  cases hdecode : decodeNodeIdentity packet.payload with
  | error exception => rfl
  | ok identity =>
    rw [hdecode] at h
    by_cases hother : packet.header.messageType ≠ .response ∨
        packet.header.command ≠ Command.discoveryResponse
    · exact if_neg fun hall => hother.elim (absurd hall.1) (absurd hall.2.1)
    · rw [if_neg hother] at h
      exact absurd h nofun

/-- A discovery response that is accepted introduces a board that has no record. -/
theorem introduces_of_ok {daemon : Daemon} {packet : Packet} {now : ℤ}
    {accepted : NodeUpdate × NodeRegistry} {identity : NodeIdentity}
    (h : daemon.nodes.acceptDiscoveryResponse packet now = .ok accepted)
    (hdecode : decodeNodeIdentity packet.payload = .ok identity) :
    daemon.introduces packet =
      if (daemon.nodes.find identity.uuid).isNone then some identity.uuid else none := by
  unfold NodeRegistry.acceptDiscoveryResponse at h
  unfold introduces
  rw [hdecode] at h ⊢
  by_cases hother : packet.header.messageType ≠ .response ∨
      packet.header.command ≠ Command.discoveryResponse
  · rw [if_pos hother] at h
    exact absurd h nofun
  · obtain ⟨htype, hcommand⟩ := not_or.1 hother
    simp [not_not.1 htype, not_not.1 hcommand]

/-- A discovery response keeps the boards, adds one, or finds the node IDs exhausted. -/
theorem handled_discoveryResponse {daemon : Daemon} (hpos : daemon.nextNodeId ≠ 0)
    (identifier : UInt32) (packet : Packet) (now : ℤ) :
    daemon.Handled (daemon.handleDiscoveryResponse identifier packet now)
      (daemon.introduces packet) := by
  unfold handleDiscoveryResponse
  cases haccept : daemon.nodes.acceptDiscoveryResponse packet now with
  | error error =>
    rw [introduces_of_error haccept]
    exact .kept (.of_eq rfl rfl) nofun
  | ok accepted =>
    obtain ⟨update, nodes⟩ := accepted
    obtain ⟨identity, hdecode, hupdate, rfl⟩ := NodeRegistry.acceptDiscoveryResponse_spec haccept
    rw [introduces_of_ok haccept hdecode, hdecode]
    dsimp only
    -- The mark on the record of a node that has lost its node ID changes nothing of all this.
    obtain ⟨record, hfind⟩ : ∃ record, ∀ u, (if provisional identifier then
        ((daemon.nodes.store identity.uuid (NodeRegistry.discovered
          (daemon.nodes.find identity.uuid) identity now)).markAssignmentUnconfirmed
            identity.uuid).2
        else daemon.nodes.store identity.uuid (NodeRegistry.discovered
          (daemon.nodes.find identity.uuid) identity now)).find u =
        if u = identity.uuid then some record else daemon.nodes.find u := by
      by_cases hprovisional : provisional identifier = true
      · refine ⟨{ NodeRegistry.discovered (daemon.nodes.find identity.uuid) identity now with
          assigned := false }, fun u => ?_⟩
        rw [if_pos hprovisional, NodeRegistry.markAssignmentUnconfirmed, NodeRegistry.find_store,
          if_pos rfl]
        dsimp only
        rw [NodeRegistry.find_store, NodeRegistry.find_store]
        by_cases hu : u = identity.uuid
        · rw [if_pos hu, if_pos hu]
        · rw [if_neg hu, if_neg hu, if_neg hu]
      · refine ⟨NodeRegistry.discovered (daemon.nodes.find identity.uuid) identity now,
          fun u => ?_⟩
        rw [if_neg hprovisional, NodeRegistry.find_store]
    generalize (if provisional identifier then
        ((daemon.nodes.store identity.uuid (NodeRegistry.discovered
          (daemon.nodes.find identity.uuid) identity now)).markAssignmentUnconfirmed
            identity.uuid).2
        else daemon.nodes.store identity.uuid (NodeRegistry.discovered
          (daemon.nodes.find identity.uuid) identity now)) = nodes at hfind ⊢
    -- A board that is new gets a node ID; one that is known keeps its own.
    cases update with
    | added =>
      have hnew := hupdate.1 rfl
      rw [hnew]
      have hgains : daemon.Gains { daemon with nodes := nodes } identity.uuid record :=
        ⟨hnew, hfind⟩
      exact handled_added hgains rfl hpos
    | updated =>
      cases hold : daemon.nodes.find identity.uuid with
      | none => exact absurd (hupdate.2 hold) nofun
      | some old =>
        have hsame : daemon.SameBoards { daemon with nodes := nodes } := by
          refine ⟨rfl, fun u => ?_⟩
          rw [hfind]
          by_cases hu : u = identity.uuid
          · rw [if_pos hu, hu, hold]
            rfl
          · rw [if_neg hu]
        exact handled_updated hsame ((hfind identity.uuid).trans (if_pos rfl))

/-- A packet from a node keeps the boards, adds one, or finds the node IDs exhausted. -/
theorem handled_handlePacket {daemon : Daemon} (hpos : daemon.nextNodeId ≠ 0)
    (identifier : UInt32) (packet : Packet) (now : ℤ) :
    daemon.Handled (daemon.handlePacket identifier packet now) (daemon.introduces packet) := by
  unfold handlePacket
  by_cases hdiscovery : packet.header.command = Command.discoveryResponse
  · rw [if_pos hdiscovery]
    exact handled_discoveryResponse hpos identifier packet now
  -- No other packet introduces a board.
  have hother : daemon.introduces packet = none := by
    unfold introduces
    split
    · rfl
    · exact if_neg fun hall => hdiscovery hall.2.1
  rw [if_neg hdiscovery, hother]
  by_cases hheartbeat : packet.header.command = Command.heartbeat
  · rw [if_pos hheartbeat, handleHeartbeat]
    cases haccept : daemon.nodes.acceptHeartbeat packet now with
    | error error => exact .kept (.of_eq rfl rfl) (by simp [exhausted])
    | ok accepted =>
      obtain ⟨result, nodes⟩ := accepted
      rcases NodeRegistry.acceptHeartbeat_spec haccept with rfl | ⟨-, -, _, _, -, hfind, -, rfl⟩
      · exact .kept (.of_eq rfl rfl) (by simp [exhausted])
      · exact .kept (.store hfind rfl rfl) (by simp [exhausted])
  rw [if_neg hheartbeat]
  by_cases hevent : packet.header.messageType = .event
  · rw [if_pos hevent]
    unfold handleEvent
    split
    · exact .kept (.of_eq rfl rfl) (by simp [exhausted])
    · exact .kept (.of_eq rfl rfl) (by simp [exhausted])
  -- A response touches the tables of the requests only.
  · rw [if_neg hevent]
    unfold handleResponse
    split
    · exact .kept (.of_eq rfl rfl) (by simp [exhausted])
    · dsimp only
      split
      · exact .kept (.of_eq rfl rfl) (by simp [exhausted])
      · split <;> exact .kept (.of_eq rfl rfl) (by simp [exhausted])

/-- A message keeps the boards, adds one, or finds the node IDs exhausted. -/
theorem handled_receive {daemon : Daemon} (hpos : daemon.nextNodeId ≠ 0) (message : CanMessage)
    (now : ℤ) : daemon.Handled (daemon.receive message now)
      ((daemon.delivered message now).bind daemon.introduces) := by
  unfold receive delivered
  split
  · unfold handleCanMessage arrived
    cases haccept : daemon.reassembler.accept message.identifier message.data now with
    | mk result reassembler =>
      dsimp only
      split
      · exact .kept (.of_eq rfl rfl) (by simp [exhausted])
      · rename_i bytes
        dsimp only
        cases hdecode : decode bytes with
        | error exception => exact .kept (.of_eq rfl rfl) (by simp [exhausted])
        | ok packet =>
          have hopen : { daemon with reassembler := reassembler }.nextNodeId ≠ 0 := hpos
          exact (handled_handlePacket hopen message.identifier packet now).of_eq rfl rfl
      · rename_i reassembly hincomplete
        split
        · rename_i bytes heq
          exact absurd (Except.ok.inj heq) (hincomplete bytes)
        · exact .kept (.of_eq rfl rfl) (by simp [exhausted])
  · exact .kept (.of_eq rfl rfl) (by simp [exhausted])

/-- The timers leave the boards alone. -/
theorem sameBoards_timers (daemon : Daemon) (now : ℤ) :
    daemon.SameBoards (daemon.processRequestTimers now).2 := by
  obtain ⟨hnodes, hnext⟩ := handleRequestEvents_spec (daemon.requests.poll now).1 []
    { daemon with requests := (daemon.requests.poll now).2 }
  refine ⟨hnext, fun u => ?_⟩
  unfold processRequestTimers
  dsimp only
  rw [NodeRegistry.find_expire, hnodes, Option.isSome_map]

/-- Of all operations only messages bring new boards. -/
theorem sameBoards_step (daemon : Daemon) (op : DaemonOp)
    (hop : ∀ message now, op ≠ .receive message now) :
    daemon.SameBoards (toolbus.step daemon op).1 := by
  cases op with
  | discover => exact .of_eq rfl rfl
  | receive message now => exact absurd rfl (hop message now)
  | timers now => exact sameBoards_timers daemon now
  | submit nodeId request now =>
    change daemon.SameBoards (daemon.submitRequest nodeId request now).2
    unfold submitRequest
    split
    · exact .of_eq rfl rfl
    · dsimp only
      split
      · exact .of_eq rfl rfl
      · split
        · exact .of_eq rfl rfl
        · split <;> exact .of_eq rfl rfl
  | reject submission => exact .of_eq rfl rfl
  | finish requestKey =>
    change daemon.SameBoards (daemon.finishRequest requestKey).2
    unfold finishRequest
    split <;> exact .of_eq rfl rfl
  | send packet canId admitted =>
    change daemon.SameBoards (daemon.sendPacket packet canId admitted).2
    unfold sendPacket
    split
    · exact .of_eq rfl rfl
    · split <;> exact .of_eq rfl rfl

/-- Each record has got the node ID that was the next one, beginning with 1. -/
structure Counted (daemon : Daemon) : Prop where
  /-- The next node ID is one above the number of the records. -/
  next : daemon.nextNodeId.toNat = daemon.nodes.size + 1
  /-- The registry has no more records than there are node IDs. -/
  size_le : daemon.nodes.size ≤ 127

/-- There is a next node ID. -/
theorem Counted.pos {daemon : Daemon} (h : daemon.Counted) : daemon.nextNodeId ≠ 0 := by
  intro hzero
  have hnext := h.next
  rw [hzero] at hnext
  exact absurd hnext (by simp)

/-- A node ID is left as long as there are fewer than 127 records. -/
theorem Counted.left_iff {daemon : Daemon} (h : daemon.Counted) :
    kMaximumNodeId < daemon.nextNodeId ↔ 127 ≤ daemon.nodes.size := by
  have hmax : kMaximumNodeId.toNat = 127 := rfl
  rw [UInt32.lt_iff_toNat_lt, hmax, h.next]
  omega

/-- The same boards are counted in the same way. -/
theorem Counted.of_same {daemon daemon' : Daemon} (h : daemon.Counted)
    (hsame : daemon.SameBoards daemon') : daemon'.Counted :=
  ⟨by rw [hsame.next, hsame.size_eq, h.next], by rw [hsame.size_eq]; exact h.size_le⟩

/-- A new daemon has no record. -/
theorem counted_create (mode : CanMode) (sessionId : UInt32) (h : sessionId ≠ 0) :
    (create mode sessionId h).Counted := ⟨rfl, Nat.zero_le _⟩

/-- There is one entry in the list for each record. -/
theorem length_records (registry : NodeRegistry) : registry.records.length = registry.size := by
  rw [NodeRegistry.records, List.length_insertionSort, List.length_map, NodeRegistry.size]

/-- Up to 127 nodes can be listed. -/
theorem listNodes_of_le {daemon : Daemon} (h : daemon.nodes.size ≤ 127) :
    ∃ body, daemon.listNodes = .ok body := by
  unfold listNodes encodeIpcNodeList
  rw [List.length_map, length_records, if_neg (by omega)]
  exact ⟨_, rfl⟩

/-- More than 127 nodes cannot be listed. -/
theorem listNodes_of_lt {daemon : Daemon} (h : 127 < daemon.nodes.size) :
    daemon.listNodes = .error (.ipc "节点数量超过本地 IPC 范围") := by
  unfold listNodes encodeIpcNodeList
  rw [List.length_map, length_records, if_pos h]

/-- The registry is intact behind an operation that brings no new board. -/
theorem LeavesIntact.of_same {daemon : Daemon} {op : DaemonOp} (h : daemon.Counted)
    (hsame : daemon.SameBoards (toolbus.step daemon op).1)
    (hne : ∀ message now, op = .receive message now →
      (daemon.receive message now).1 ≠ .error exhausted) : daemon.LeavesIntact op := by
  have hcounted := h.of_same hsame
  refine ⟨hcounted.size_le, fun uuid record hnone hsome => ?_,
    fun message now hop herror => absurd herror (hne message now hop),
    listNodes_of_le hcounted.size_le⟩
  have hboards := hsame.boards uuid
  rw [hnone, hsome] at hboards
  exact absurd hboards nofun

/-- The registry is intact behind a message, and the records stay counted, unless the message brings
one board too many. -/
theorem step_receive {daemon : Daemon} (h : daemon.Counted) (message : CanMessage) (now : ℤ) :
    (daemon.LeavesIntact (.receive message now) ↔
      daemon.overfills (.receive message now) = false) ∧
    (daemon.overfills (.receive message now) = false →
      (toolbus.step daemon (.receive message now)).1.Counted) := by
  have hhandled := handled_receive h.pos message now
  have hstep : (toolbus.step daemon (.receive message now)).1 = (daemon.receive message now).2 :=
    rfl
  unfold overfills
  dsimp only
  generalize (daemon.delivered message now).bind daemon.introduces = introduced at hhandled ⊢
  rw [hstep]
  -- The message has left the boards as they are.
  cases hhandled with
  | kept same ne =>
    have hintact : daemon.LeavesIntact (.receive message now) :=
      .of_same h same fun message' now' hop => by cases hop; exact ne
    exact ⟨⟨fun _ => by simp, fun _ => hintact⟩, fun _ => h.of_same same⟩
  -- A board has been added with the next node ID, which is in range.
  | @added uuid record gains left nodeId next ne =>
    rw [h.left_iff] at left
    have hnext : (daemon.receive message now).2.nextNodeId.toNat = daemon.nodes.size + 2 := by
      have hone : (1 : UInt32).toNat = 1 := rfl
      have hle := h.size_le
      rw [next, UInt32.toNat_add, h.next, hone]
      exact Nat.mod_eq_of_lt (by omega)
    have hcounted : (daemon.receive message now).2.Counted := by
      refine ⟨?_, ?_⟩
      · rw [hnext, gains.size_eq]
      · rw [gains.size_eq]
        omega
    have hintact : daemon.LeavesIntact (.receive message now) := by
      refine ⟨hcounted.size_le, fun u r hnone hsome => ?_, fun message' now' hop herror => ?_,
        listNodes_of_le hcounted.size_le⟩
      · -- The only new record is the one with the next node ID.
        rw [hstep, gains.find] at hsome
        by_cases hu : u = uuid
        · rw [if_pos hu] at hsome
          cases hsome
          rw [nodeId, UInt32.le_iff_toNat_le, UInt32.le_iff_toNat_le, h.next]
          exact ⟨Nat.le_add_left _ _, show daemon.nodes.size + 1 ≤ 127 by omega⟩
        · rw [if_neg hu, hnone] at hsome
          exact absurd hsome nofun
      · cases hop
        exact absurd herror ne
    exact ⟨⟨fun _ => by simp [left], fun _ => hintact⟩, fun _ => hcounted⟩
  -- No node ID has been left for the board.
  | @refused uuid record gains none_left failed =>
    rw [h.left_iff] at none_left
    have hover : decide (127 ≤ daemon.nodes.size ∧ (some uuid).isSome = true) = true :=
      decide_eq_true ⟨none_left, rfl⟩
    rw [hover]
    refine ⟨⟨fun hintact => ?_, nofun⟩, nofun⟩
    -- The record of the board stays, so there are 128.
    have hsize : (daemon.receive message now).2.nodes.size ≤ 127 := hintact.size_le
    rw [gains.size_eq] at hsize
    omega

/-- The registry is intact behind an operation, and the records stay counted, unless the operation
brings one board too many. -/
theorem leavesIntact_step {daemon : Daemon} (h : daemon.Counted) (op : DaemonOp) :
    (daemon.LeavesIntact op ↔ daemon.overfills op = false) ∧
      (daemon.overfills op = false → (toolbus.step daemon op).1.Counted) := by
  by_cases hmessage : ∃ message now, op = .receive message now
  · obtain ⟨message, now, rfl⟩ := hmessage
    exact step_receive h message now
  · have hother : ∀ message now, op ≠ .receive message now := fun message now hop =>
      hmessage ⟨message, now, hop⟩
    have hsame := sameBoards_step daemon op hother
    have hover : daemon.overfills op = false := by
      cases op with
      | receive message now => exact absurd rfl (hother message now)
      | _ => rfl
    exact ⟨⟨fun _ => hover, fun _ => .of_same h hsame fun message now hop =>
      absurd hop (hother message now)⟩, fun _ => h.of_same hsame⟩

end Daemon

/-- In every run of a daemon, the registry is intact behind all operations exactly if no discovery
response of a board without a record comes while there are 127 records. -/
theorem registry_intact_iff (mode : CanMode) (sessionId : UInt32) (hsession : sessionId ≠ 0)
    (ops : List DaemonOp) :
    toolbus.Along Daemon.LeavesIntact (Daemon.create mode sessionId hsession) ops ↔
      toolbus.Along (fun daemon op => daemon.overfills op = false)
        (Daemon.create mode sessionId hsession) ops := by
  have hstep : ∀ (daemon : Daemon) op, daemon.Counted → daemon.overfills op = false →
      (toolbus.step daemon op).1.Counted := fun _ op h => (Daemon.leavesIntact_step h op).2
  have hiff : ∀ (daemon : Daemon) op, daemon.Counted →
      (daemon.LeavesIntact op ↔ daemon.overfills op = false) := fun _ op h =>
    (Daemon.leavesIntact_step h op).1
  exact toolbus.along_congr_of hstep hiff (Daemon.counted_create mode sessionId hsession) ops

/-- The registry is intact while two boards are discovered. -/
theorem registry_intact_iff_two_boards :
    toolbus.Along Daemon.LeavesIntact (.create .flexibleDataRate 1 (by decide)) orderlyRun :=
  (registry_intact_iff .flexibleDataRate 1 (by decide) orderlyRun).2 (by decide +kernel)

/-! ## 128 boards -/

/-- The discovery response of a board, in one frame. -/
def boardMessages (board : ℕ) : List CanMessage :=
  nodeMessages 0x581 (UInt16.ofNat board) (discoveryResponse (UInt8.ofNat board) 0x80000000)

/-- A discovery that so many boards answer, one each millisecond. -/
def crowdedRun (boards : ℕ) : List DaemonOp :=
  .discover :: (List.range boards).flatMap fun board =>
    (boardMessages board).map fun message => .receive message (1000000 * board)

/-- A short packet goes into one frame. -/
theorem nodeMessages_single {packet : Packet} (h : packet.Encodable)
    (hlength : packet.payload.length ≤ 35) (identifier : UInt32) (transferId : UInt16) :
    ∃ data, nodeMessages identifier transferId packet = [⟨identifier, false, data, true⟩] ∧
      decodeFragment data CANFD_MAX_DLEN = .ok (fragmentAt 59 (packetBytes
        (packet.header.withLength packet.payload) packet.payload) transferId 0) := by
  generalize hbytes : packetBytes (packet.header.withLength packet.payload) packet.payload = bytes
  have hheader : kPacketHeaderSize = 24 := rfl
  -- The packet is one fragment, which fits into a frame.
  have hsize : bytes.length = kPacketHeaderSize + packet.payload.length := by
    rw [← hbytes, length_packetBytes]
  have hmax : bytes.length ≤ kMaximumPacketSize := by
    unfold kMaximumPacketSize
    omega
  have hroom : kFragmentHeaderSize < CANFD_MAX_DLEN := by decide
  have hmtu : CANFD_MAX_DLEN ≤ 68 := by decide
  have hcapacity : CANFD_MAX_DLEN - kFragmentHeaderSize = 59 := rfl
  have hcount : List.chunkCount 59 bytes.length = 1 := by
    rw [List.chunkCount, hsize, hheader]
    omega
  have hone : 0 < List.chunkCount (CANFD_MAX_DLEN - kFragmentHeaderSize) bytes.length := by
    rw [hcapacity, hcount]
    exact Nat.one_pos
  have hencodable : (fragmentAt 59 bytes transferId 0).Encodable CANFD_MAX_DLEN :=
    splitFragment_encodable hroom hmtu hmax transferId hone
  have hframe : (fragmentAt 59 bytes transferId 0).frame.length ≤ CANFD_MAX_DLEN := by
    rw [Fragment.length_frame]
    exact hencodable.fits
  obtain ⟨hle, hfd⟩ := canonicalFdLength_spec hframe
  have hsplit := split_spec hroom hmtu (by omega : 0 < bytes.length) hmax transferId
  rw [hcapacity, hcount] at hsplit
  refine ⟨zeroBuffer (RemoteBSP.canonicalFdLength (fragmentAt 59 bytes transferId 0).frame.length)
    (fragmentAt 59 bytes transferId 0).frame, ?_, ?_⟩
  · unfold nodeMessages
    rw [encode_eq_ok_iff.2 ⟨h, hbytes.symm⟩]
    dsimp only
    rw [hsplit, fragmentAt, fragmentCount, hcount]
    rfl
  · -- The frame is padded up to a length that CAN-FD has.
    have hpadded := take_zeroBuffer hle (Nat.le_refl _)
    rw [List.take_of_length_le (length_zeroBuffer _ _).le] at hpadded
    rw [hpadded]
    exact decodeFragment_padded hencodable (by omega)

/-- A reassembler that knows no transfer with its key completes a packet of one frame. -/
theorem accept_single {r : Reassembler} {bytes data : List UInt8} {transferId : UInt16}
    {identifier : UInt32} (hmtu : r.mtu = CANFD_MAX_DLEN) (hpos : 0 < bytes.length)
    (hlength : bytes.length ≤ 59)
    (hdecode : decodeFragment data CANFD_MAX_DLEN = .ok (fragmentAt 59 bytes transferId 0))
    (hfresh : r.transfers.lookup (Reassembler.key identifier transferId) = none) (now : ℤ) :
    (r.accept identifier data now).1 = .ok ⟨.complete, some bytes⟩ ∧
      ∀ other, other ≠ Reassembler.key identifier transferId →
        r.transfers.lookup other = none →
        (r.accept identifier data now).2.transfers.lookup other = none := by
  have hcount : fragmentCount 59 bytes = 1 := by
    rw [fragmentCount, List.chunkCount]
    omega
  have hmax : bytes.length ≤ kMaximumPacketSize := by
    unfold kMaximumPacketSize
    omega
  have hfirst : (fragmentAt 59 bytes transferId 0).isFirst = true := by
    rw [fragmentAt, (splitFragment_markers _ _ _ _ _).1]
    rfl
  have hfor : r.transferFor identifier (fragmentAt 59 bytes transferId 0) now =
      some (.empty now) := by
    unfold Reassembler.transferFor
    rw [show (fragmentAt 59 bytes transferId 0).transferId = transferId from rfl, hfresh,
      Option.filter_none, hfirst]
    rfl
  have hholds : (Transfer.empty now).Holds 59 bytes transferId ∅ := Transfer.holds_empty now
  have hcomplete := hholds.accept_new (by decide) hmax (Finset.notMem_empty 0) (by omega)
    (by omega) now
  rw [hcount, if_pos (by decide)] at hcomplete
  rw [Reassembler.accept_spec (hmtu ▸ hdecode) hfor]
  refine ⟨hcomplete, fun other hother hnone => ?_⟩
  have hkey : (fragmentAt 59 bytes transferId 0).transferId = transferId := rfl
  rw [hkey, Reassembler.lookup_store, if_neg hother, Reassembler.lookup_expire, hnone,
    Option.filter_none]

namespace Daemon

/-- The daemon behind the answers of so many boards: it has their records, and the messages of the
others are new to it. -/
structure Crowded (daemon : Daemon) (boards : ℕ) : Prop where
  /-- The next node ID is one above the number of the records. -/
  counted : daemon.Counted
  /-- The registry has as many records as boards have answered. -/
  size_eq : daemon.nodes.size = boards
  /-- The other boards have no records. -/
  unknown : ∀ board, boards ≤ board → board < 256 →
    daemon.nodes.find (boardUuid (UInt8.ofNat board)) = none
  /-- The frames are those of a CAN-FD bus. -/
  mtu : daemon.reassembler.mtu = CANFD_MAX_DLEN
  /-- No message of the other boards has arrived. -/
  fresh : ∀ board, boards ≤ board → board < 256 →
    daemon.reassembler.transfers.lookup (Reassembler.key 0x581 (UInt16.ofNat board)) = none

/-- A new daemon that looks for nodes knows of no board. -/
theorem crowded_create (sessionId : UInt32) (h : sessionId ≠ 0) :
    (toolbus.step (create .flexibleDataRate sessionId h) .discover).1.Crowded 0 :=
  ⟨⟨rfl, Nat.zero_le _⟩, rfl, fun _ _ _ => rfl, rfl, fun _ _ _ => rfl⟩

/-- A packet leaves the reassembler alone. -/
theorem reassembler_handlePacket (daemon : Daemon) (identifier : UInt32) (packet : Packet)
    (now : ℤ) : (daemon.handlePacket identifier packet now).2.reassembler = daemon.reassembler := by
  -- Assignments are sent, and discoveries recorded, without the reassembler.
  have hassign : ∀ (d : Daemon) uuid nodeId,
      (d.assign uuid nodeId).2.reassembler = d.reassembler := by
    intro d uuid nodeId
    unfold assign
    dsimp only
    split <;> rfl
  have hdiscovered : ∀ (d : Daemon) update uuid,
      (d.assignDiscovered update uuid).2.reassembler = d.reassembler := by
    intro d update uuid
    unfold assignDiscovered
    split
    · split
      · rfl
      · rw [hassign]
    · split
      · rfl
      · split
        · rw [hassign]
        · rfl
  unfold handlePacket
  split_ifs
  · unfold handleDiscoveryResponse
    split
    · rfl
    · split
      · rfl
      · dsimp only
        rw [hdiscovered]
  · unfold handleHeartbeat
    split <;> rfl
  · unfold handleEvent
    split <;> rfl
  · unfold handleResponse
    split
    · rfl
    · dsimp only
      split
      · rfl
      · split <;> rfl

/-- The discovery response of the next board is delivered, and introduces it. -/
theorem Crowded.delivered {daemon : Daemon} {boards : ℕ} (h : daemon.Crowded boards)
    (hlt : boards < 256) (now : ℤ) :
    ∃ message, boardMessages boards = [message] ∧
      (daemon.delivered message now).bind daemon.introduces =
        some (boardUuid (UInt8.ofNat boards)) ∧
      (daemon.receive message now).2.reassembler.mtu = CANFD_MAX_DLEN ∧
      ∀ board, boards + 1 ≤ board → board < 256 →
        (daemon.receive message now).2.reassembler.transfers.lookup
          (Reassembler.key 0x581 (UInt16.ofNat board)) = none := by
  -- The packet fits into one frame.
  generalize hpacket : discoveryResponse (UInt8.ofNat boards) 0x80000000 = packet
  have hpayload : packet.payload.length = 27 := by
    rw [← hpacket]
    simp [discoveryResponse, encodeNodeIdentity, boardUuid]
  have hencodable : packet.Encodable := by
    refine ⟨by rw [← hpacket]; rfl, ?_⟩
    have hmax : 27 ≤ kMaximumPayloadSize := by decide
    exact hpayload ▸ hmax
  have hidentity : decodeNodeIdentity packet.sealed.payload =
      .ok ⟨boardUuid (UInt8.ofNat boards), 1, 0, 0, 7, kProtocolVersion⟩ := by
    rw [← hpacket]
    exact decodeNodeIdentity_encode _
  obtain ⟨data, hmessages, hdecode⟩ := nodeMessages_single hencodable (by omega) 0x581
    (UInt16.ofNat boards)
  generalize hbytes : packetBytes (packet.header.withLength packet.payload) packet.payload = bytes
    at hdecode
  have hheader : kPacketHeaderSize = 24 := rfl
  have hlength : bytes.length = kPacketHeaderSize + packet.payload.length := by
    rw [← hbytes, length_packetBytes]
  obtain ⟨hcomplete, hothers⟩ := accept_single h.mtu (by omega) (by omega) hdecode
    (h.fresh boards (Nat.le_refl _) hlt) now
  -- So the frame completes it, and it is decoded as it was encoded.
  have hsealed : decode bytes = .ok packet.sealed := by
    rw [← hbytes]
    exact decode_eq_ok_iff.2 ⟨hencodable, rfl, rfl⟩
  have hnode : (!false) = true ∧ (fromResponses 0x581 = true ∨ fromEvents 0x581 = true ∨
      provisional 0x581 = true) := by decide
  refine ⟨⟨0x581, false, data, true⟩, ?_, ?_, ?_⟩
  · rw [boardMessages, hpacket, hmessages]
  -- What is delivered introduces the board, which is still unknown.
  · unfold Daemon.delivered arrived
    rw [if_pos hnode, hcomplete]
    dsimp only
    rw [hsealed]
    change daemon.introduces packet.sealed = _
    unfold introduces
    rw [hidentity]
    refine if_pos ⟨by rw [← hpacket]; rfl, by rw [← hpacket]; rfl, ?_⟩
    rw [h.unknown boards (Nat.le_refl _) hlt]
    rfl
  · -- The packet leaves the reassembler as it is behind the frame.
    have hreassembler : (daemon.receive ⟨0x581, false, data, true⟩ now).2.reassembler =
        (daemon.reassembler.accept 0x581 data now).2 := by
      unfold receive handleCanMessage
      rw [if_pos hnode]
      cases haccept : daemon.reassembler.accept 0x581 data now with
      | mk result reassembler =>
        rw [haccept] at hcomplete
        dsimp only at hcomplete ⊢
        rw [hcomplete]
        dsimp only
        rw [hsealed]
        exact reassembler_handlePacket _ _ _ _
    rw [hreassembler]
    refine ⟨(Reassembler.accept_config _ _ _ _).1.trans h.mtu, fun board hle hboard => ?_⟩
    refine hothers _ (fun hkey => ?_) (h.fresh board (by omega) hboard)
    have hid := congrArg UInt16.toNat (Reassembler.key_inj.1 hkey).2
    rw [UInt16.toNat_ofNat_of_lt' (show _ < 2^16 by omega),
      UInt16.toNat_ofNat_of_lt' (show _ < 2^16 by omega)] at hid
    omega

/-- The UUIDs of the boards differ. -/
theorem boardUuid_ne {board other : ℕ} (hlt : board < 256) (hlt' : other < 256)
    (hne : board ≠ other) :
    boardUuid (UInt8.ofNat board) ≠ boardUuid (UInt8.ofNat other) := by
  intro heq
  have hbytes := congrArg (fun uuid => byteAt uuid.bytes 0) heq
  have hboard : UInt8.ofNat board = UInt8.ofNat other := hbytes
  have hid := congrArg UInt8.toNat hboard
  rw [UInt8.toNat_ofNat_of_lt' (show _ < 2^8 by omega),
    UInt8.toNat_ofNat_of_lt' (show _ < 2^8 by omega)] at hid
  exact hne hid

/-- The answers of 127 boards are handled. -/
theorem Crowded.receive {daemon : Daemon} {boards : ℕ} (h : daemon.Crowded boards)
    (hlt : boards < 127) {message : CanMessage} (hmessage : boardMessages boards = [message])
    (now : ℤ) : (daemon.receive message now).2.Crowded (boards + 1) := by
  obtain ⟨message', hmessage', hintroduces, hmtu, hfresh⟩ := h.delivered (by omega) now
  obtain rfl : message = message' := List.cons.inj (hmessage.symm.trans hmessage') |>.1
  have hover : daemon.overfills (.receive message now) = false := by
    refine decide_eq_false fun hfull => ?_
    rw [h.size_eq] at hfull
    omega
  have hcounted := (leavesIntact_step h.counted (.receive message now)).2 hover
  have hhandled := handled_receive h.counted.pos message now
  rw [hintroduces] at hhandled
  cases hhandled with
  | refused gains none_left failed =>
    rw [h.counted.left_iff, h.size_eq] at none_left
    omega
  | added gains left nodeId next ne =>
    refine ⟨hcounted, by rw [gains.size_eq, h.size_eq], fun board hle hboard => ?_, hmtu, hfresh⟩
    rw [gains.find, if_neg (boardUuid_ne hboard (by omega) (by omega))]
    exact h.unknown board (by omega) hboard

/-- The daemon behind the answers of up to 127 boards. -/
theorem crowded_run (sessionId : UInt32) (hsession : sessionId ≠ 0) {boards : ℕ}
    (hle : boards ≤ 127) :
    (toolbus.run (create .flexibleDataRate sessionId hsession) (crowdedRun boards)).Crowded
      boards := by
  induction boards with
  | zero => exact crowded_create sessionId hsession
  | succ boards ih =>
    have h := ih (by omega)
    obtain ⟨message, hmessage, -⟩ := h.delivered (by omega) (1000000 * boards)
    have hrun : crowdedRun (boards + 1) =
        crowdedRun boards ++ [.receive message (1000000 * boards)] := by
      rw [crowdedRun, List.range_succ, List.flatMap_append, List.flatMap_singleton, hmessage]
      rfl
    rw [hrun, toolbus.run_append]
    exact h.receive (by omega) hmessage (1000000 * boards)

end Daemon

/-- With the 128th board the registry is not intact any more, and the nodes cannot be listed. -/
theorem exhausted_list_fails :
    ¬ toolbus.Along Daemon.LeavesIntact (.create .flexibleDataRate 1 (by decide))
        (crowdedRun 128) ∧
      (toolbus.run (.create .flexibleDataRate 1 (by decide)) (crowdedRun 128)).listNodes =
        .error (.ipc "节点数量超过本地 IPC 范围") := by
  have hcrowded := Daemon.crowded_run 1 (by decide) (Nat.le_refl 127)
  obtain ⟨message, hmessage, hintroduces, -⟩ := hcrowded.delivered (by decide) 127000000
  have hrun : crowdedRun 128 = crowdedRun 127 ++ [.receive message 127000000] := by
    rw [crowdedRun, List.range_succ, List.flatMap_append, List.flatMap_singleton, hmessage]
    rfl
  rw [hrun, toolbus.run_append, toolbus.along_append]
  generalize toolbus.run (.create .flexibleDataRate 1 (by decide)) (crowdedRun 127) = daemon
    at hcrowded hintroduces ⊢
  have hhandled := Daemon.handled_receive hcrowded.counted.pos message 127000000
  rw [hintroduces] at hhandled
  have hsize : (daemon.receive message 127000000).2.nodes.size = 128 := by
    cases hhandled with
    | added gains left nodeId next ne => rw [gains.size_eq, hcrowded.size_eq]
    | refused gains none_left failed => rw [gains.size_eq, hcrowded.size_eq]
  refine ⟨fun h => ?_, ?_⟩
  · have hle : (daemon.receive message 127000000).2.nodes.size ≤ 127 := h.2.1.size_le
    omega
  · have hlt : 127 < (daemon.receive message 127000000).2.nodes.size := by omega
    exact Daemon.listNodes_of_lt hlt

end RemoteBSP.Toolbusd
