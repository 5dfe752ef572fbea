import RemoteBSP.MockMcu.NodeCache
import RemoteBSP.Protocol.MotionCodec
import RemoteBSP.Protocol.PayloadCodecs

/-!
# What the mock node sends

Every response fits into a packet, and a handler that throws has left the core as it was
(`Settled`). A node whose frames carry at most 63 bytes of data each therefore never fails to send
(`Ready.sends`), and so a request that gets no reply has done nothing to the node, but for leases
that were due (`frame_all_or_nothing`). The transfers that a node starts are numbered from one on,
and zero is left out when the numbers wrap (`transfer_ids_cycle`).
-/

namespace RemoteBSP.MockMcu

/-- The response fits into a packet. -/
def FitsPacket (response : Packet) : Prop := response.payload.length ≤ kMaximumPayloadSize

variable {request : Packet} {board : Board} {core : RemoteCore}

/-- A response with a status alone fits into a packet. -/
theorem fits_makeResponse (status : StatusCode) : FitsPacket (makeResponse request status) := by
  show 1 ≤ kMaximumPayloadSize
  decide

/-- A response with a status and data fits into a packet if there is not too much of it. -/
theorem fits_respond {data : List UInt8} (h : data.length < kMaximumPayloadSize) :
    FitsPacket (respond request data) := by
  unfold FitsPacket respond
  rw [List.length_append, show (makeResponse request .ok).payload.length = 1 from rfl]
  omega

/-- `make_response` with `Ok`, and the object that has been created. -/
theorem fits_respondCreated (objectId : UInt32) : FitsPacket (respondCreated request objectId) := by
  show 1 ≤ kMaximumPayloadSize
  decide

/-- A response to a refusal of a port fits into a packet. -/
theorem fits_uartErrorResponse (error : UartException) :
    FitsPacket (uartErrorResponse request error) := by
  unfold uartErrorResponse
  split <;> exact fits_makeResponse _

/-- A handler that branches on a condition fits if both branches do. -/
theorem fits_ite {c : Prop} [Decidable c] {a b : Packet × RemoteCore} (ha : FitsPacket a.1)
    (hb : ¬c → FitsPacket b.1) : FitsPacket (if c then a else b).1 := by
  split
  · exact ha
  · next h => exact hb h

/-- The reply fits into a packet, and an exception leaves the core as it was. -/
structure Settled (core : RemoteCore) (outcome : Reply × RemoteCore) : Prop where
  /-- A reply fits into a packet. -/
  fits : ∀ response, outcome.1 = .ok response → FitsPacket response
  /-- An exception leaves the core as it was. -/
  thrown : ∀ e, outcome.1 = .error e → outcome.2 = core

/-- A reply that fits settles the request, whatever core it leaves. -/
theorem Settled.of_fits {response : Packet} {behind : RemoteCore} (h : FitsPacket response) :
    Settled core (.ok response, behind) := by
  refine ⟨fun reply hreply => ?_, fun e he => (nomatch he)⟩
  rw [← Except.ok.inj hreply]
  exact h

/-- A reply with a status alone settles the request, whatever core it leaves. -/
theorem Settled.status {status : StatusCode} {behind : RemoteCore} :
    Settled core (.ok (makeResponse request status), behind) :=
  .of_fits (fits_makeResponse status)

/-- An exception settles the request if the core is as before. -/
theorem Settled.error {e : HandleException} : Settled core (.error e, core) :=
  ⟨fun _ hreply => (nomatch hreply), fun _ _ => rfl⟩

/-- A handler that branches on a condition settles the request if both branches do. -/
theorem settled_ite {c : Prop} [Decidable c] {a b : Reply × RemoteCore} (ha : Settled core a)
    (hb : ¬c → Settled core b) : Settled core (if c then a else b) := by
  split
  · exact ha
  · next h => exact hb h

/-- A handler that does not throw. -/
theorem settled_returns {outcome : Packet × RemoteCore} (h : FitsPacket outcome.1) :
    Settled core (RemoteCore.returns outcome) := .of_fits h

namespace RemoteCore

variable (board core request)

/-! ## The node and its resources -/

/-- The data of these replies is short. -/
theorem fits_node : FitsPacket (handleGetInfo board request) ∧
    FitsPacket (handleGetCapability board request) ∧ FitsPacket (handlePing request) ∧
    FitsPacket (core.handleBootloaderEnter board request).1 := by
  refine ⟨?_, ?_, ?_, ?_⟩
  · unfold handleGetInfo
    split
    · exact fits_makeResponse _
    · refine fits_respond ?_
      have huuid := board.nodeInfo.uuid.length_bytes
      simp only [List.length_append, huuid, length_putU16, length_putU32, List.length_singleton]
      decide
  · unfold handleGetCapability
    split
    · exact fits_makeResponse _
    · exact fits_respond (by rw [length_putU64]; decide)
  · unfold handlePing
    split
    · exact fits_makeResponse _
    · next h => exact fits_respond (not_le.1 h)
  · unfold handleBootloaderEnter
    exact fits_ite (fits_makeResponse _) fun _ =>
      fits_ite (fits_makeResponse _) fun _ => fits_makeResponse _

/-- The length of a lease, as it is sent. -/
theorem length_encodeResourceLeaseInfo (info : ResourceLeaseInfo) :
    (encodeResourceLeaseInfo info).length = 27 := by
  simp only [encodeResourceLeaseInfo, List.length_append, length_putU16, length_putU32,
    length_putU64, List.length_singleton]

/-- The length of a status, as it is sent. -/
theorem length_encodeResourceStatus (status : ResourceStatusPayload) :
    (encodeResourceStatus status).length = 25 := by
  simp only [encodeResourceStatus, List.length_append, length_putU32, List.length_singleton]

/-- The replies about resources. The list of resources is the only one that is checked. -/
theorem settled_resource : Settled core (handleResourceEnum board request, core) ∧
    FitsPacket (handleResourceDescribe board request) ∧
    FitsPacket (core.handleResourceStatus board request) ∧
    FitsPacket (core.handleResourceReset board request).1 ∧
    Settled core (handleResourceContract board request, core) := by
  refine ⟨?_, ?_, ?_, ?_, ?_⟩
  · unfold handleResourceEnum
    split
    -- The list of resources may be too long for a packet, which the handler checks.
    · exact .status
    · split
      · exact .error
      · split
        · exact .status
        · next h => exact .of_fits (fits_respond (by omega))
  -- The other replies have a fixed length.
  · unfold handleResourceDescribe
    split
    · exact fits_makeResponse _
    · split
      · exact fits_makeResponse _
      · exact fits_respond (by rw [length_encodeResourceDescriptor]; decide)
  · unfold handleResourceStatus
    split
    · exact fits_makeResponse _
    · split
      · exact fits_makeResponse _
      · exact fits_respond (by rw [length_encodeResourceStatus]; decide)
  · unfold handleResourceReset
    refine fits_ite (fits_makeResponse _) fun _ => ?_
    dsimp only
    split
    · exact fits_makeResponse _
    · refine fits_ite (fits_makeResponse _) fun _ => ?_
      unfold resetResource
      split
      · exact fits_makeResponse _
      · refine fits_ite (fits_makeResponse _) fun _ => ?_
        split
        · exact fits_uartErrorResponse _
        · exact fits_makeResponse _
      · exact fits_makeResponse _
  · unfold handleResourceContract
    split
    · exact .status
    · dsimp only
      split
      · exact .status
      · split
        · exact .status
        · split
          · exact .error
          · next contract _ encoded hencode =>
            refine .of_fits (fits_respond ?_)
            unfold encodeResourceContract at hencode
            split at hencode
            · exact nomatch hencode
            · rw [← Except.ok.inj hencode]
              simp only [List.length_append, length_putU16, length_putU32]
              decide

/-- The replies about leases fit into packets. -/
theorem fits_lease (now : ℤ) : FitsPacket (core.handleResourceAcquire board request now).1 ∧
    FitsPacket (core.handleResourceRenew board request now).1 ∧
    FitsPacket (core.handleResourceRelease board request).1 ∧
    FitsPacket (core.handleResourceLeaseStatus board request now) := by
  -- A reply about a lease is a status or has the length of the information about it.
  have hinfo : ∀ info, FitsPacket (respond request (encodeResourceLeaseInfo info)) := fun info =>
    fits_respond (by rw [length_encodeResourceLeaseInfo]; decide)
  refine ⟨?_, ?_, ?_, ?_⟩
  · unfold handleResourceAcquire
    refine fits_ite (fits_makeResponse _) fun _ => ?_
    split
    · exact fits_makeResponse _
    · refine fits_ite (fits_makeResponse _) fun _ => fits_ite (fits_makeResponse _) fun _ =>
        fits_ite (fits_makeResponse _) fun _ => fits_ite (fits_makeResponse _) fun _ => ?_
      unfold acquireLease
      exact fits_ite (fits_makeResponse _) fun _ => hinfo _
  · unfold handleResourceRenew
    refine fits_ite (fits_makeResponse _) fun _ => ?_
    split
    · exact fits_makeResponse _
    · refine fits_ite (fits_makeResponse _) fun _ => fits_ite (fits_makeResponse _) fun _ => ?_
      unfold renewLease
      dsimp only
      split
      · exact fits_makeResponse _
      · exact fits_ite (fits_makeResponse _) fun _ => hinfo _
  · unfold handleResourceRelease
    refine fits_ite (fits_makeResponse _) fun _ => ?_
    split
    · exact fits_makeResponse _
    · refine fits_ite (fits_makeResponse _) fun _ => fits_ite (fits_makeResponse _) fun _ => ?_
      unfold releaseLease
      dsimp only
      split
      · exact fits_makeResponse _
      · exact fits_ite (fits_makeResponse _) fun _ => fits_makeResponse _
  · unfold handleResourceLeaseStatus
    split
    · exact fits_makeResponse _
    · dsimp only
      split
      · exact fits_makeResponse _
      · split
        · exact fits_makeResponse _
        · exact hinfo _

/-! ## Pins and ports -/

/-- The replies about pins fit into packets, or nothing has happened. -/
theorem settled_gpio : FitsPacket (core.handleGpioCreate board request).1 ∧
    Settled core (core.handleGpioRead board request) ∧
    Settled core (core.handleGpioWrite board request) := by
  refine ⟨?_, ?_, ?_⟩
  · unfold handleGpioCreate
    split
    · exact fits_makeResponse _
    · refine fits_ite (fits_makeResponse _) fun _ => fits_ite (fits_makeResponse _) fun _ =>
        fits_ite (fits_makeResponse _) fun _ => ?_
      unfold createGpio
      split
      · exact fits_makeResponse _
      · exact fits_ite (fits_makeResponse _) fun _ => fits_respondCreated _
  · unfold handleGpioRead
    split
    · exact .status
    · refine settled_ite .status fun _ => settled_ite .status fun _ => ?_
      split
      · exact .status
      · refine settled_ite .status fun _ => ?_
        split
        · exact .error
        · refine .of_fits (fits_respond ?_)
          show 1 < kMaximumPayloadSize
          decide
  · unfold handleGpioWrite
    split
    · exact .status
    · refine settled_ite .status fun _ => settled_ite .status fun _ => ?_
      split
      · exact .status
      · refine settled_ite .status fun _ => settled_ite .status fun _ => ?_
        split
        · exact .error
        · exact .status

/-- The replies about ports fit into packets. -/
theorem fits_uart : FitsPacket (core.handleUartCreate board request).1 ∧
    FitsPacket (core.handleUartRead board request).1 ∧
    FitsPacket (core.handleUartWrite board request).1 := by
  refine ⟨?_, ?_, ?_⟩
  -- A new port is answered with the ID of its object.
  · unfold handleUartCreate
    split
    · exact fits_makeResponse _
    · refine fits_ite (fits_makeResponse _) fun _ => fits_ite (fits_makeResponse _) fun _ => ?_
      split
      · exact fits_makeResponse _
      · refine fits_ite (fits_makeResponse _) fun _ => fits_ite (fits_makeResponse _) fun _ => ?_
        unfold createUart
        split
        · exact fits_makeResponse _
        · refine fits_ite (fits_makeResponse _) fun _ => ?_
          split
          · exact fits_uartErrorResponse _
          · exact fits_respondCreated _
  · unfold handleUartRead
    split
    · exact fits_makeResponse _
    · refine fits_ite (fits_makeResponse _) fun _ => fits_ite (fits_makeResponse _) fun _ =>
        fits_ite (fits_makeResponse _) fun _ => ?_
      split
      · exact fits_makeResponse _
      · refine fits_ite (fits_makeResponse _) fun _ => fits_ite (fits_makeResponse _) fun _ => ?_
        split
        · exact fits_uartErrorResponse _
        -- What has been read was bounded by the room in a packet.
        · refine fits_ite (fits_makeResponse _) fun hshort => fits_respond ?_
          have hdata := not_lt.1 (not_or.1 hshort).2
          have hroom : kMaximumPayloadSize = 2024 := rfl
          omega
  · unfold handleUartWrite
    split
    · exact fits_makeResponse _
    · refine fits_ite (fits_makeResponse _) fun _ => fits_ite (fits_makeResponse _) fun _ => ?_
      split
      · exact fits_makeResponse _
      · refine fits_ite (fits_makeResponse _) fun _ => ?_
        split
        · exact fits_uartErrorResponse _
        · exact fits_makeResponse _

/-! ## Motion -/

variable {board core request} in
/-- The reply of a command on motion, if what is done behind the checks settles. -/
theorem settled_withMotion {act : MotionExecutor → Reply × RemoteCore}
    (h : ∀ motion, Settled core (act motion)) :
    Settled core (core.withMotion board request act) := by
  unfold withMotion
  split
  · exact .status
  · exact settled_ite .status fun _ => settled_ite .status fun _ => h _

/-- The replies about motion. A segment that is taken can be acknowledged, since the decoder has
checked its sequence and its duration. -/
theorem settled_motion : Settled core (core.handleMotionEnqueue board request) ∧
    Settled core (core.handleMotionStatus board request) ∧
    Settled core (core.handleMotionAbort board request) ∧
    Settled core (core.handleMotionClearFault board request) := by
  refine ⟨?_, settled_withMotion fun motion => ?_, settled_withMotion fun motion => ?_,
    settled_withMotion fun motion => ?_⟩
  -- A segment that has been decoded has the fields that an acknowledgement needs.
  · unfold handleMotionEnqueue
    split
    · exact .status
    · refine settled_ite .status fun _ => settled_ite .status fun _ => ?_
      split
      · exact .status
      · next decoded hdecoded =>
        split
        · exact .status
        · unfold enqueueMotion
          split
          · exact .status
          · next accepted motion _ =>
            obtain ⟨-, hencodable, -⟩ := MotionSegmentPayload.bytes_of_decode hdecoded
            have hencode := MotionAcceptancePayload.encode_eq_ok_iff.2
              ⟨(⟨hencodable.sequence, hencodable.duration⟩ :
                (⟨decoded.sequence, accepted.startTimeNs, decoded.durationNs,
                  decoded.finalSegment⟩ : MotionAcceptancePayload).Encodable), rfl⟩
            dsimp only
            rw [hencode]
            refine .of_fits (fits_respond ?_)
            show 24 < kMaximumPayloadSize
            decide
  -- The status is encoded with as many axes as fit.
  · split
    · exact .error
    · next encoded hencode =>
      obtain ⟨hencodable, rfl⟩ := MotionStatusPayload.encode_eq_ok_iff.1 hencode
      refine .of_fits (fits_respond ?_)
      have haxes := hencodable.axes_le
      have hroom : kMaximumPayloadSize = 2024 := rfl
      rw [MotionStatusPayload.length_bytes, hroom, show kStatusHeaderSize = 92 from rfl,
        show kAxisStatusSize = 24 from rfl]
      rw [show kMaximumMotionAxes = 64 from rfl] at haxes
      omega
  · split
    · exact .status
    · exact .status
  · split
    · exact .status
    · exact .status

/-! ## Every command -/

/-- The switch settles every request: with a reply that fits, or with an exception and no effect. -/
theorem dispatch_settled (now : ℤ) : Settled core (core.dispatch board request now) := by
  obtain ⟨hinfo, hcapability, hping, hboot⟩ := fits_node request board core
  obtain ⟨henum, hdescribe, hstatus, hreset, hcontract⟩ := settled_resource request board core
  obtain ⟨hacquire, hrenew, hrelease, hleases⟩ := fits_lease request board core now
  obtain ⟨hgpioCreate, hgpioRead, hgpioWrite⟩ := settled_gpio request board core
  obtain ⟨huartCreate, huartRead, huartWrite⟩ := fits_uart request board core
  obtain ⟨henqueue, hmotion, habort, hclear⟩ := settled_motion request board core
  -- Each case of the switch has its own lemma.
  unfold dispatch
  refine settled_ite (.of_fits hinfo) fun _ => ?_
  refine settled_ite (.of_fits hcapability) fun _ => ?_
  refine settled_ite (.of_fits hping) fun _ => ?_
  refine settled_ite (settled_returns hboot) fun _ => ?_
  refine settled_ite henum fun _ => ?_
  refine settled_ite (.of_fits hdescribe) fun _ => ?_
  refine settled_ite (.of_fits hstatus) fun _ => ?_
  refine settled_ite (settled_returns hreset) fun _ => ?_
  refine settled_ite hcontract fun _ => ?_
  refine settled_ite (settled_returns hacquire) fun _ => ?_
  refine settled_ite (settled_returns hrenew) fun _ => ?_
  refine settled_ite (settled_returns hrelease) fun _ => ?_
  refine settled_ite (.of_fits hleases) fun _ => ?_
  refine settled_ite (settled_returns hgpioCreate) fun _ => ?_
  refine settled_ite hgpioRead fun _ => ?_
  refine settled_ite hgpioWrite fun _ => ?_
  refine settled_ite (settled_returns huartCreate) fun _ => ?_
  refine settled_ite (settled_returns huartRead) fun _ => ?_
  refine settled_ite (settled_returns huartWrite) fun _ => ?_
  refine settled_ite henqueue fun _ => ?_
  refine settled_ite hmotion fun _ => ?_
  refine settled_ite habort fun _ => ?_
  exact settled_ite hclear fun _ => .status

/-- Every reply of `RemoteCore::handle` fits into a packet. -/
theorem fits_handle {now : ℤ} {response : Packet}
    (h : (core.handle board request now).1 = .ok response) : FitsPacket response := by
  unfold handle at h
  split at h
  · exact nomatch h
  · split at h
    · exact nomatch h
    · exact (dispatch_settled request board _ now).fits response h

/-- An exception of `RemoteCore::handle` leaves the core as it was, but for the leases that were
due. -/
theorem handle_thrown {now : ℤ} {e : HandleException}
    (h : (core.handle board request now).1 = .error e) :
    (core.handle board request now).2 = core ∨
      (core.handle board request now).2 = (core.expireLeases board now).2 := by
  unfold handle at h ⊢
  split at h
  · next hrequest =>
    rw [if_pos hrequest]
    exact .inl rfl
  · next hrequest =>
    rw [if_neg hrequest]
    split at h
    · next hversion =>
      rw [if_pos hversion]
      exact .inl rfl
    · next hversion =>
      rw [if_neg hversion]
      exact .inr ((dispatch_settled request board _ now).thrown e h)

/-- What a port returns is not longer than was asked for. -/
theorem length_read_le {bsp bsp' : MockUartBsp} {port : UInt8} {maximumLength : ℕ}
    {data : List UInt8} (h : bsp.read port maximumLength = .ok (data, bsp')) :
    data.length ≤ maximumLength := by
  unfold MockUartBsp.read at h
  split at h
  · simp at h
  · split at h
    · simp at h
    · rw [← (Prod.mk.inj (Except.ok.inj h)).1]
      exact List.length_take_le _ _

/-- An iteration of `poll_uart_events` makes events that can be sent. -/
theorem pollUartObject_encodable {maximumPayload : ℕ}
    (hmaximum : maximumPayload ≤ kMaximumPayloadSize) {events : List Packet}
    (hevents : ∀ event ∈ events, event.Encodable) (objectId : UInt32) (object : UartObject) :
    ∀ event ∈ (core.pollUartObject maximumPayload events objectId object).1, event.Encodable := by
  unfold pollUartObject
  split
  · exact hevents
  · split
    · exact hevents
    · split
      · exact hevents
      · exact hevents
      · next data bsp _ hread =>
        intro event hevent
        rcases List.mem_append.1 hevent with hold | hnew
        · exact hevents event hold
        · rw [List.mem_singleton.1 hnew]
          exact ⟨rfl, (length_read_le hread).trans hmaximum⟩

/-- The loop of `poll_uart_events` makes events that can be sent. -/
theorem pollLoop_encodable {maximumPayload : ℕ} (hmaximum : maximumPayload ≤ kMaximumPayloadSize)
    (entries : List (Sigma fun _ : UInt32 => UartObject)) {events : List Packet}
    (hevents : ∀ event ∈ events, event.Encodable) :
    ∀ event ∈ (entries.foldl (fun (events, core) entry =>
      core.pollUartObject maximumPayload events entry.1 entry.2) (events, core)).1,
      event.Encodable := by
  induction entries generalizing core events with
  | nil => exact hevents
  | cons entry rest ih =>
    rw [List.foldl_cons]
    exact ih _ (pollUartObject_encodable core hmaximum hevents entry.1 entry.2)

/-- The events of `poll_uart_events` can be sent. -/
theorem pollUartEvents_encodable {maximumPayload : ℕ} {events : List Packet}
    (h : (core.pollUartEvents maximumPayload).1 = some events) :
    ∀ event ∈ events, event.Encodable := by
  unfold pollUartEvents at h
  split at h
  · exact nomatch h
  · next hrange =>
    obtain rfl := Option.some.inj h
    exact pollLoop_encodable core (not_lt.1 (not_or.1 hrange).2) _ nofun

end RemoteCore

namespace MockNode

variable {config : NodeConfig} {node : MockNode} {encoded : List UInt8}

/-! ## Sending does not fail -/

/-- The length of a packet that has been encoded. -/
theorem length_encode {packet : Packet} (h : encode packet = .ok encoded) :
    0 < encoded.length ∧ encoded.length ≤ kMaximumPacketSize := by
  obtain ⟨⟨-, hpayload⟩, rfl⟩ := encode_eq_ok_iff.1 h
  rw [length_packetBytes]
  have hheader : kPacketHeaderSize = 24 := rfl
  have hroom : kMaximumPayloadSize = kMaximumPacketSize - kPacketHeaderSize := rfl
  have hmaximum : kMaximumPacketSize = 2048 := rfl
  omega

/-- A packet that has been encoded can be sent. -/
theorem reply_ok (node : MockNode) (hmtu : config.mtu ≤ 68) {packet : Packet}
    (h : encode packet = .ok encoded) :
    ∃ frames, split config.mtu encoded node.nextOutboundTransferId = .ok frames ∧
      (node.reply config encoded).1 = .ok ⟨node.nextOutboundTransferId, frames⟩ := by
  obtain ⟨hpos, hlength⟩ := length_encode h
  have hsplit := split_spec config.room hmtu hpos hlength node.nextOutboundTransferId
  refine ⟨_, hsplit, ?_⟩
  unfold reply allocateTransferId
  dsimp only
  rw [hsplit]

/-- A packet that can be encoded can be sent. -/
theorem sendPacket_ok (node : MockNode) (hmtu : config.mtu ≤ 68) {packet : Packet}
    (h : packet.Encodable) :
    ∃ frames, (node.sendPacket config packet).1 = .ok ⟨node.nextOutboundTransferId, frames⟩ := by
  have hencode := encode_eq_ok_iff.2 ⟨h, rfl⟩
  obtain ⟨frames, -, hreply⟩ := reply_ok node hmtu hencode
  refine ⟨frames, ?_⟩
  unfold sendPacket
  rw [hencode]
  exact hreply

/-- The length of an identity, as it is sent. -/
theorem length_encodeNodeIdentity (identity : NodeIdentity) :
    (encodeNodeIdentity identity).length = 27 := by
  have huuid := identity.uuid.length_bytes
  simp only [encodeNodeIdentity, List.length_append, huuid, length_putU16, length_putU32,
    List.length_singleton]

/-- What the node answers can be encoded. -/
theorem encodable_execute {request response : Packet} {now : ℤ}
    (h : (node.execute config request now).1 = .ok (some response)) : response.Encodable := by
  unfold execute at h
  -- A discovery is answered with the identity of the node, which has a fixed length.
  by_cases hdiscovery : request.header.command = Command.discoveryRequest
  · rw [if_pos hdiscovery] at h
    unfold discoveryResponse at h
    dsimp only at h
    split at h
    · exact nomatch h
    · split at h
      · exact nomatch Except.ok.inj h
      · obtain rfl := Option.some.inj (Except.ok.inj h)
        refine ⟨rfl, ?_⟩
        dsimp only
        rw [length_encodeNodeIdentity]
        decide
  · rw [if_neg hdiscovery] at h
    -- An assignment is answered with a status.
    by_cases hassign : request.header.command = Command.nodeAssign
    · rw [if_pos hassign] at h
      unfold assignmentResponse at h
      split at h
      · exact nomatch h
      · split at h
        · exact nomatch Except.ok.inj h
        · obtain rfl := Option.some.inj (Except.ok.inj h)
          exact ⟨rfl, show 1 ≤ kMaximumPayloadSize by decide⟩
    · rw [if_neg hassign] at h
      -- What the core answers fits into a packet, and has the header of a response.
      rcases hhandle : node.core.handle config.board request now with ⟨_ | reply, core⟩
      · rw [hhandle] at h
        exact nomatch h
      · rw [hhandle] at h
        obtain rfl := Option.some.inj (Except.ok.inj h)
        have hreply : (node.core.handle config.board request now).1 = .ok reply := by rw [hhandle]
        obtain ⟨status, objectId, hheader⟩ := header_handle hreply
        refine ⟨?_, RemoteCore.fits_handle _ _ _ hreply⟩
        rw [hheader]
        rfl

/-! ## A request without a reply -/

/-- A frame that is answered: the reply is the response that the node keeps for the request. -/
structure Answered (config : NodeConfig) (node : MockNode) (request : Packet)
    (reply : NodeReply) : Prop where
  /-- The response that is kept is that to the request, and what is sent. -/
  kept : ∃ found, node.cache.lookup (keyOf request) = some found ∧
    sameRequest found.request request = true ∧
    split config.mtu found.encodedResponse reply.transferId = .ok reply.frames

/-- A frame that is not answered changes the reassembler, and ends the leases that were due at
most. -/
def Unchanged (config : NodeConfig) (node node' : MockNode) (now : ℤ) : Prop :=
  ∃ reassembler core, node' = { node with reassembler := reassembler, core := core } ∧
    (core = node.core ∨ core = (node.core.expireLeases config.board now).2)

/-- An execution without a response has changed nothing but leases that were due. -/
theorem execute_unchanged (config : NodeConfig) (node : MockNode) (request : Packet) (now : ℤ)
    (h : ∀ response, (node.execute config request now).1 ≠ .ok (some response)) :
    ∃ core, (node.execute config request now).2 = { node with core := core } ∧
      (core = node.core ∨ core = (node.core.expireLeases config.board now).2) := by
  unfold execute at h ⊢
  by_cases hdiscovery : request.header.command = Command.discoveryRequest
  · rw [if_pos hdiscovery]
    exact ⟨node.core, rfl, .inl rfl⟩
  · rw [if_neg hdiscovery] at h ⊢
    by_cases hassign : request.header.command = Command.nodeAssign
    · rw [if_pos hassign] at h ⊢
      unfold assignmentResponse at h ⊢
      split at h
      · exact ⟨node.core, rfl, .inl rfl⟩
      · next hdecode =>
        split at h
        · next hother =>
          rw [if_pos hother]
          exact ⟨node.core, rfl, .inl rfl⟩
        · exact absurd rfl (h _)
    · rw [if_neg hassign] at h ⊢
      rcases hhandle : node.core.handle config.board request now with ⟨e | response, core⟩
      · have hthrown : (node.core.handle config.board request now).1 = .error e := by rw [hhandle]
        have hcore := RemoteCore.handle_thrown _ _ _ hthrown
        rw [hhandle] at hcore
        exact ⟨core, rfl, hcore⟩
      · rw [hhandle] at h
        exact absurd rfl (h response)

/-- A request is answered with the response that is kept for it, or nothing has changed. -/
theorem processRequest_all_or_nothing (hmtu : config.mtu ≤ 68)
    {log : List (UInt64 × CachedRequest)} (hlog : Logged config node log) (request : Packet)
    (now : ℤ) :
    (∃ reply, (node.processRequest config request now).1 = .ok (some reply) ∧
      Answered config (node.processRequest config request now).2 request reply ∧
      reply.transferId = node.nextOutboundTransferId ∧
      (node.processRequest config request now).2.nextOutboundTransferId =
        node.allocateTransferId.2.nextOutboundTransferId) ∨
    (∀ reply, (node.processRequest config request now).1 ≠ .ok (some reply)) ∧
      ∃ core, (node.processRequest config request now).2 = { node with core := core } ∧
        (core = node.core ∨ core = (node.core.expireLeases config.board now).2) := by
  unfold processRequest
  rcases hlookup : node.cache.lookup (keyOf request) with _ | found
  · -- The request is executed.
    dsimp only
    unfold answer
    obtain ⟨behind, nodeId, hnode⟩ := execute_node config node request now
    rcases hexecute : node.execute config request now with ⟨_ | _ | response, after⟩
    · have hquiet := execute_unchanged config node request now (by rw [hexecute]; exact nofun)
      rw [hexecute] at hquiet
      exact .inr ⟨nofun, hquiet⟩
    · have hquiet := execute_unchanged config node request now (by rw [hexecute]; exact nofun)
      rw [hexecute] at hquiet
      exact .inr ⟨nofun, hquiet⟩
    · have hresponse : (node.execute config request now).1 = .ok (some response) := by rw [hexecute]
      have hencode := encode_eq_ok_iff.2 ⟨encodable_execute hresponse, rfl⟩
      rw [hexecute] at hnode
      obtain rfl := hnode
      left
      dsimp only
      rw [hencode]
      dsimp only
      obtain ⟨frames, hsplit, hreply⟩ := reply_ok
        (insertCache config { node with
          core := behind
          nodeId := nodeId
          executedRequestCount := node.executedRequestCount + 1 } (keyOf request) ⟨request, _⟩)
        hmtu hencode
      rw [reply_node, hreply]
      refine ⟨_, rfl, ⟨⟨request, _⟩, ?_, sameRequest_self request, hsplit⟩, rfl, rfl⟩
      exact ((hlog.represents.insert hlookup).lookup _ _).2
        (List.mem_append_right _ List.mem_cons_self)
  · -- The request is found in the cache.
    dsimp only
    unfold replay
    by_cases hsame : sameRequest found.request request = true
    · left
      rw [if_neg (not_not.2 hsame)]
      dsimp only
      obtain ⟨-, response, hencode, -⟩ := hlog.sound _ ((hlog.represents.lookup _ _).1 hlookup)
      obtain ⟨frames, hsplit, hreply⟩ := reply_ok
        { node with cachedResponseCount := node.cachedResponseCount + 1 } hmtu hencode
      rw [reply_node, hreply]
      exact ⟨_, rfl, ⟨found, hlookup, hsame, hsplit⟩, rfl, rfl⟩
    · right
      rw [if_pos hsame]
      exact ⟨nofun, node.core, rfl, .inl rfl⟩

/-- In every run, a frame is answered with the response that the node keeps for the request that
the frame completes, or it has changed nothing but the reassembler and leases that were due: there
is no effect without a response that is kept. -/
theorem frame_all_or_nothing (config : NodeConfig) (hmtu : config.mtu ≤ 68) (core : RemoteCore)
    (nodeId : UInt32) (ops : List NodeOp) (streamId : UInt32) (frame : List UInt8) (now : ℤ) :
    let node := (nodeMachine config).run (create config core nodeId) ops
    let result := node.handleFrame config streamId frame now
    (∃ request reply, (node.receive config streamId frame now).1 = .ok (some request) ∧
      result.1 = .ok (some reply) ∧ Answered config result.2 request reply) ∨
    (∀ reply, result.1 ≠ .ok (some reply)) ∧ Unchanged config node result.2 now := by
  intro node result
  obtain ⟨log, hlog⟩ : ∃ log, Logged config node log :=
    response_cache_sound config core nodeId ops
  have hreceive := receive_node config node streamId frame now
  have hresult : result = node.handleFrame config streamId frame now := rfl
  unfold handleFrame at hresult
  rcases heq : node.receive config streamId frame now with ⟨e | _ | request, received⟩
  · rw [heq] at hresult hreceive
    rw [hresult]
    exact .inr ⟨nofun, _, _, hreceive, .inl rfl⟩
  · rw [heq] at hresult hreceive
    rw [hresult]
    exact .inr ⟨nofun, _, _, hreceive, .inl rfl⟩
  · rw [heq] at hresult hreceive
    dsimp only at hresult hreceive
    have hreceived : Logged config received log := hlog.same (by rw [hreceive])
    rw [hresult]
    rcases processRequest_all_or_nothing hmtu hreceived request now with
      ⟨reply, hreply, hanswered, -, -⟩ | ⟨hnone, core', hnode, hcore⟩
    · exact .inl ⟨request, reply, rfl, hreply, hanswered⟩
    · refine .inr ⟨hnone, received.reassembler, core', hnode.trans ?_, ?_⟩
      · rw [hreceive]
      · rw [hreceive] at hcore
        exact hcore

/-- The encoded response to the ping. -/
def encodedPingResponse : List UInt8 :=
  packetBytes (pingResponse.header.withLength [0, 42]) [0, 42]

/-- The fragment with the response to the ping. -/
def pingReply : NodeReply :=
  ⟨1, [(Fragment.mk 1 0 (kFragmentFirst ||| kFragmentLast) encodedPingResponse).frame]⟩

/-- A ping to a node that has just been made is answered, and its response is the one that the node
keeps. The ping's frame without its last byte is not answered, and leaves nothing behind. -/
theorem frame_all_or_nothing_ping :
    let node := create bareConfig {} 0
    let pinged := node.handleFrame bareConfig 5 (pingFrame 1) 0
    let cut := node.handleFrame bareConfig 5 (pingFrame 1).dropLast 0
    (pinged.1 = .ok (some pingReply) ∧ Answered bareConfig pinged.2 pingRequest.sealed pingReply ∧
      (pinged.2.cache.lookup (keyOf pingRequest.sealed)).map CachedRequest.encodedResponse =
        some encodedPingResponse) ∧
    (∀ reply, cut.1 ≠ .ok (some reply)) ∧ Unchanged bareConfig node cut.2 0 := by
  intro node pinged cut
  have hreply : pinged.1 = .ok (some pingReply) := by decide +kernel
  have hcut : cut.1 =
      .error (.fragment ⟨.frameTooShort, "frame is shorter than encoded payload"⟩) := by
    decide +kernel
  constructor
  · have hpinged := frame_all_or_nothing bareConfig (by decide) {} 0 [] 5 (pingFrame 1) 0
    rcases hpinged with ⟨request, reply, hrequest, hanswer, hanswered⟩ | ⟨hnone, -⟩
    · have hcomplete : (node.receive bareConfig 5 (pingFrame 1) 0).1 =
          .ok (some pingRequest.sealed) := by decide +kernel
      obtain rfl : request = pingRequest.sealed :=
        Option.some.inj (Except.ok.inj (hrequest.symm.trans hcomplete))
      obtain rfl : reply = pingReply :=
        Option.some.inj (Except.ok.inj (hanswer.symm.trans hreply))
      exact ⟨hreply, hanswered, by decide +kernel⟩
    · exact absurd hreply (hnone pingReply)
  · have hcutOff := frame_all_or_nothing bareConfig (by decide) {} 0 [] 5 (pingFrame 1).dropLast 0
    rcases hcutOff with ⟨request, reply, -, hanswer, -⟩ | hunchanged
    · cases hcut.symm.trans hanswer
    · exact hunchanged

/-! ## The numbers of the transfers -/

/-- The ID of a transfer by its number. -/
def transferIdAt (k : ℕ) : UInt16 := UInt16.ofNat (1 + k % 65535)

/-- The transfer ID behind one of them is the next one of the cycle. -/
theorem transferIdAt_succ (k : ℕ) :
    (if transferIdAt k + 1 = 0 then 1 else transferIdAt k + 1) = transferIdAt (k + 1) := by
  have hk := Nat.mod_lt k (show 0 < 65535 by decide)
  have hid : (transferIdAt k).toNat = 1 + k % 65535 := UInt16.toNat_ofNat_of_lt' (by
    show 1 + k % 65535 < 2^16
    omega)
  have hnext : (transferIdAt k + 1).toNat = (1 + k % 65535 + 1) % 2^16 := by
    rw [UInt16.toNat_add, hid]
    rfl
  by_cases hlast : k % 65535 = 65534
  · -- The IDs wrap, and zero is left out.
    rw [if_pos (UInt16.toNat_inj.1 (by rw [hnext, hlast]; rfl))]
    have hzero : (k + 1) % 65535 = 0 := by omega
    unfold transferIdAt
    rw [hzero]
    rfl
  · have hsucc : (k + 1) % 65535 = k % 65535 + 1 := by omega
    have hnonzero : transferIdAt k + 1 ≠ 0 := by
      intro hzero
      rw [hzero, UInt16.toNat_zero] at hnext
      omega
    rw [if_neg hnonzero, ← UInt16.toNat_inj, hnext]
    have hnew : (transferIdAt (k + 1)).toNat = 1 + (k + 1) % 65535 :=
      UInt16.toNat_ofNat_of_lt' (by
        show 1 + (k + 1) % 65535 < 2^16
        omega)
    rw [hnew, hsucc]
    omega

/-- The transfers that an answer starts. -/
def transferIds : NodeOutcome → List UInt16
  | .reply (.ok (some reply)) => [reply.transferId]
  | .replies (.ok replies) => replies.map NodeReply.transferId
  | .transferId transferId => [transferId]
  | _ => []

/-- The IDs are those of the transfers from number `k` on, and the next one follows them. -/
def Numbered (k : ℕ) (ids : List UInt16) (next : UInt16) : Prop :=
  ids = (List.range ids.length).map (fun i => transferIdAt (k + i)) ∧
    next = transferIdAt (k + ids.length)

/-- Where nothing is sent, no ID is used. -/
theorem numbered_nil {k : ℕ} {next : UInt16} (h : next = transferIdAt k) : Numbered k [] next :=
  ⟨rfl, h⟩

/-- A packet that is sent uses the next ID of the cycle. -/
theorem numbered_single {k : ℕ} (h : node.nextOutboundTransferId = transferIdAt k) :
    Numbered k [node.nextOutboundTransferId] node.allocateTransferId.2.nextOutboundTransferId := by
  refine ⟨?_, ?_⟩
  · rw [h]
    rfl
  · show (if node.nextOutboundTransferId + 1 = 0 then 1 else node.nextOutboundTransferId + 1) = _
    rw [h]
    exact transferIdAt_succ k

/-- What is sent in one call and then in another uses the IDs of both in turn. -/
theorem Numbered.append {k : ℕ} {ids ids' : List UInt16} {next next' : UInt16}
    (h : Numbered k ids next) (h' : Numbered (k + ids.length) ids' next') :
    Numbered k (ids ++ ids') next' := by
  refine ⟨?_, ?_⟩
  · rw [List.length_append, List.range_add, List.map_append, List.map_map, ← h.1]
    congr 1
    rw [h'.1, List.length_map, List.length_range]
    refine List.map_congr_left fun i _ => ?_
    simp only [Function.comp_apply, Nat.add_assoc]
  · rw [h'.2, List.length_append, Nat.add_assoc]

/-- The events of the ports are numbered in their order. -/
theorem numbered_sendAll (node : MockNode) (hmtu : config.mtu ≤ 68) {events : List Packet}
    (hevents : ∀ event ∈ events, event.Encodable) {k : ℕ}
    (hnext : node.nextOutboundTransferId = transferIdAt k) :
    ∃ replies, (sendAll config node events).1 = .ok replies ∧
      Numbered k (replies.map NodeReply.transferId)
        (sendAll config node events).2.nextOutboundTransferId := by
  induction events generalizing node k with
  | nil => exact ⟨[], rfl, numbered_nil hnext⟩
  | cons event rest ih =>
    obtain ⟨frames, hfirst⟩ :=
      sendPacket_ok node hmtu (hevents event List.mem_cons_self)
    have hsingle := numbered_single hnext
    -- The rest is sent behind the first one.
    obtain ⟨replies, hrest, hnumbered⟩ := ih node.allocateTransferId.2
      (fun event hevent => hevents event (List.mem_cons_of_mem _ hevent)) hsingle.2
    have hsend : node.sendPacket config event =
        (.ok ⟨node.nextOutboundTransferId, frames⟩, node.allocateTransferId.2) :=
      Prod.ext hfirst (sendPacket_node config node event)
    have hall : sendAll config node.allocateTransferId.2 rest =
        (.ok replies, (sendAll config node.allocateTransferId.2 rest).2) := Prod.ext hrest rfl
    have heq : sendAll config node (event :: rest) =
        (.ok (⟨node.nextOutboundTransferId, frames⟩ :: replies),
          (sendAll config node.allocateTransferId.2 rest).2) := by
      rw [sendAll, hsend]
      dsimp only
      rw [hall]
    rw [heq]
    exact ⟨_, rfl, hsingle.append hnumbered⟩

/-- An operation numbers the transfers that it starts. -/
theorem numbered_step (hmtu : config.mtu ≤ 68) {log : List (UInt64 × CachedRequest)}
    (hlog : Logged config node log) {k : ℕ} (hnext : node.nextOutboundTransferId = transferIdAt k)
    (op : NodeOp) :
    Numbered k (transferIds ((nodeMachine config).step node op).2)
      ((nodeMachine config).step node op).1.nextOutboundTransferId := by
  cases op with
  -- A frame starts a transfer if it completes a request that is answered.
  | handleFrame streamId frame now =>
    simp only [nodeMachine, handleFrame]
    have hreceive := receive_node config node streamId frame now
    rcases heq : node.receive config streamId frame now with ⟨e | _ | request, received⟩
    · rw [heq] at hreceive
      obtain rfl := hreceive
      exact numbered_nil hnext
    · rw [heq] at hreceive
      obtain rfl := hreceive
      exact numbered_nil hnext
    · rw [heq] at hreceive
      obtain rfl := hreceive
      dsimp only
      have hreceived : Logged config { node with
          reassembler := (node.reassembler.accept streamId frame now).2 } log := hlog.same rfl
      rcases processRequest_all_or_nothing hmtu hreceived request now with
        ⟨reply, hreply, -, hid, hbehind⟩ | ⟨hnone, core, hnode, -⟩
      · rw [hreply, hbehind]
        show Numbered k [reply.transferId] _
        rw [hid]
        exact numbered_single hnext
      · rw [hnode]
        refine (show transferIds _ = [] from ?_) ▸ numbered_nil hnext
        rcases hresult : (processRequest config _ request now).1 with e | _ | reply
        · rfl
        · rfl
        · exact absurd hresult (hnone reply)
  -- A heartbeat is short enough to be sent.
  | makeHeartbeat =>
    have hencodable : (node.heartbeat config).Encodable := by
      refine ⟨rfl, ?_⟩
      have huuid := config.board.nodeInfo.uuid.length_bytes
      simp only [heartbeat, encodeHeartbeat, List.length_append, huuid, List.length_singleton]
      decide
    obtain ⟨frames, hsent⟩ := sendPacket_ok node hmtu hencodable
    simp only [nodeMachine, makeHeartbeat]
    rw [hsent, sendPacket_node]
    exact numbered_single hnext
  -- Each event that is polled starts a transfer of its own.
  | pollUartEvents maximumPayload =>
    simp only [nodeMachine, pollUartEvents]
    rcases hpoll : node.core.pollUartEvents maximumPayload with ⟨_ | events, core⟩
    · exact numbered_nil hnext
    · have hevents : ∀ event ∈ events, event.Encodable :=
        RemoteCore.pollUartEvents_encodable node.core (congrArg Prod.fst hpoll)
      obtain ⟨replies, hsent, hnumbered⟩ := numbered_sendAll { node with core := core } hmtu
        hevents hnext
      dsimp only
      rw [hsent]
      exact hnumbered
  | allocateTransferId => exact numbered_single hnext
  | expire now => exact numbered_nil hnext
  | clearSession sessionId => exact numbered_nil hnext
  | outside gpioBsp uartBsp motion => exact numbered_nil hnext

/-- A run numbers the transfers that it starts. -/
theorem numbered_run (hmtu : config.mtu ≤ 68) {log : List (UInt64 × CachedRequest)}
    (hlog : Logged config node log) {k : ℕ} (hnext : node.nextOutboundTransferId = transferIdAt k)
    (ops : List NodeOp) :
    ∃ next, Numbered k (((nodeMachine config).outcomes node ops).flatMap transferIds) next := by
  induction ops generalizing node log k with
  | nil => exact ⟨_, numbered_nil hnext⟩
  | cons op ops ih =>
    have hstep := numbered_step hmtu hlog hnext op
    obtain ⟨log', hlog'⟩ := hlog.step op
    obtain ⟨next, hrest⟩ := ih hlog' hstep.2
    exact ⟨next, hstep.append hrest⟩

/-- In every run, the transfers that a node starts with its replies, its heartbeats and its events
have the IDs from one on in their order, and after 65535 the next one is one again: no transfer has
the ID zero, and two have the same one only if a multiple of 65535 lies between them. -/
theorem transfer_ids_cycle (config : NodeConfig) (hmtu : config.mtu ≤ 68) (core : RemoteCore)
    (nodeId : UInt32) (ops : List NodeOp) :
    let ids := ((nodeMachine config).outcomes (create config core nodeId) ops).flatMap transferIds
    ids = (List.range ids.length).map transferIdAt := by
  intro ids
  obtain ⟨log, hlog⟩ := response_cache_sound config core nodeId []
  have hfirst : (create config core nodeId).nextOutboundTransferId = transferIdAt 0 := rfl
  obtain ⟨next, hnumbered⟩ := numbered_run hmtu hlog hfirst ops
  have hids := hnumbered.1
  simp only [Nat.zero_add] at hids
  exact hids

/-- A heartbeat, the reply to a ping and another heartbeat. -/
def threeSent : List UInt16 :=
  ((nodeMachine bareConfig).outcomes (create bareConfig {} 0)
    [.makeHeartbeat, .handleFrame 5 (pingFrame 1) 0, .makeHeartbeat]).flatMap transferIds

/-- Three packets that are sent after the start carry the first three IDs of the cycle. -/
theorem transfer_ids_cycle_three : threeSent.length = 3 ∧
    threeSent = (List.range threeSent.length).map transferIdAt :=
  ⟨by decide +kernel, transfer_ids_cycle bareConfig (by decide) {} 0 _⟩

end MockNode

end RemoteBSP.MockMcu
