import RemoteBSP.Firmware.Codec
import RemoteBSP.Firmware.Replies
import RemoteBSP.MockMcu.Leases
import RemoteBSP.MockMcu.Replies
import RemoteBSP.Toolbusd.RequestLifecycle

/-!
# Responses and their requests

The daemon matches a response by its session, its ID, its command and its object. The firmware and
the mock core each choose the object of a response themselves. The mock core always says the object
of the request, or the one it has created. The firmware answers some commands with the object zero,
so a request for such a command with another object is answered in vain
(`responses_matched`).
-/

namespace RemoteBSP.System

open Firmware Toolbusd

/-- A response with the command and the key of a pending request matches if its object does. -/
theorem acceptResponse_matched_iff {manager : RequestManager} {response : Packet}
    (pending : Pending) (now : ℤ)
    (hpending : manager.pending.lookup (RequestManager.key response.header.sessionId
      response.header.requestId) = some pending)
    (htype : response.header.messageType = .response)
    (hcommand : pending.packet.header.command = response.header.command) :
    (manager.acceptResponse response now).1.status = .matched ↔
      RequestManager.objectMatches pending.packet response = true := by
  unfold RequestManager.acceptResponse
  dsimp only
  rw [if_neg (not_not.2 htype), RequestManager.pending_expireCompleted, hpending]
  dsimp only
  split
  · next hno =>
    rw [hcommand] at hno
    have hobject := hno.resolve_left (not_not.2 rfl)
    exact ⟨fun h => absurd h (by simp), fun h => absurd h hobject⟩
  · next hmatch => exact ⟨fun _ => not_not.1 (not_or.1 hmatch).2, fun _ => rfl⟩

/-- The object of a response, as the daemon compares it. -/
theorem objectMatches_iff {request response : Packet} {error : Bool}
    (hflags : response.header.flags = if error then kErrorResponseFlag else 0) :
    RequestManager.objectMatches request response = true ↔
      if Command.createsObject request.header.command = true ∧ error = false then
        request.header.objectId = 0 ∧ response.header.objectId ≠ 0
      else request.header.objectId = response.header.objectId := by
  unfold RequestManager.objectMatches
  change (if Command.createsObject request.header.command = true then _ else _) = true ↔ _
  rw [hflags]
  cases hcreates : Command.createsObject request.header.command with
  | false => simp
  | true =>
    cases error with
    | false => simp
    | true => simp [kErrorResponseFlag, eq_comm]

/-! ## The mock core -/

/-- A reply of the mock core matches its request. -/
theorem objectMatches_of_replies {request response : Packet}
    (h : MockMcu.RemoteCore.Replies request (.ok response)) :
    response.header.messageType = .response ∧
      response.header.command = request.header.command ∧
      response.header.sessionId = request.header.sessionId ∧
      response.header.requestId = request.header.requestId ∧
      RequestManager.objectMatches request response = true := by
  have hflags : ∀ status : MockMcu.StatusCode, (if status = .ok then (0 : UInt16)
      else kErrorResponseFlag) = if !decide (status = .ok) then kErrorResponseFlag else 0 := by
    intro status
    cases status <;> rfl
  cases hcreates : Command.createsObject request.header.command with
  | false =>
    obtain ⟨status, hheader⟩ := h.echoes hcreates response rfl
    refine ⟨by rw [hheader]; rfl, by rw [hheader]; rfl, by rw [hheader]; rfl, by rw [hheader]; rfl,
      (objectMatches_iff (by rw [hheader]; exact hflags status)).2 ?_⟩
    rw [hcreates, if_neg (fun h => Bool.false_ne_true h.1), hheader]
    rfl
  | true =>
    rcases h.creates hcreates response rfl with ⟨status, herror, hheader⟩ | ⟨objectId, hne, hzero,
      hheader⟩
    · refine ⟨by rw [hheader]; rfl, by rw [hheader]; rfl, by rw [hheader]; rfl,
        by rw [hheader]; rfl, (objectMatches_iff (by rw [hheader]; exact hflags status)).2 ?_⟩
      rw [decide_eq_false herror, if_neg (fun h => Bool.false_ne_true h.2.symm), hheader]
      rfl
    · refine ⟨by rw [hheader]; rfl, by rw [hheader]; rfl, by rw [hheader]; rfl,
        by rw [hheader]; rfl, (objectMatches_iff (by rw [hheader]; exact hflags .ok)).2 ?_⟩
      rw [if_pos ⟨hcreates, rfl⟩, hheader]
      exact ⟨hzero, hne⟩

/-! ## The firmware -/

/-- The firmware says the object of the request, as far as the daemon is concerned. -/
def namesObject (config : CoreConfig) (request : Packet) : Bool :=
  request.header.objectId = 0 ∨ forgetsObject config request.header.command = false

/-- What the daemon reads in a response of the firmware. -/
theorem answer_of_says {config : CoreConfig} {packet : Packet} {request : Request}
    {response : List UInt8} (h : Says config request response)
    (hcommand : request.command = packet.header.command)
    (hobject : request.objectId = packet.header.objectId) :
    ∃ answer, decode response = .ok answer ∧ answer.header.messageType = .response ∧
      answer.header.command = request.command ∧ answer.header.sessionId = request.sessionId ∧
      answer.header.requestId = request.requestId ∧
      (RequestManager.objectMatches packet answer = true ↔ namesObject config packet = true) := by
  obtain ⟨status, objectId, data, hresponse, hroom, hreply⟩ := h
  let sent : Packet := ⟨{
    version := kProtocolVersion
    messageType := .response
    command := request.command
    sessionId := request.sessionId
    requestId := request.requestId
    objectId := objectId
    flags := if status = .ok then 0 else RBSP_RESPONSE_ERROR_FLAG }, status.value :: data⟩
  have hmaximum : replyRoom config request.command ≤ kMaximumPacketSize := by
    have hpacket := config.maxPacketSize_range
    have hcache := config.cacheResponseSize_range
    unfold replyRoom kMaximumPacketSize
    split <;> omega
  -- The response is the packet that the host would have encoded.
  have hencode : encode sent = .ok response := by
    rw [hresponse]
    refine encode_eq_encodePacket rfl ?_
    rw [List.length_cons]
    omega
  obtain ⟨hencodable, hbytes⟩ := encode_eq_ok_iff.1 hencode
  refine ⟨sent.sealed, decode_eq_ok_iff.2 ⟨hencodable, rfl, hbytes⟩, rfl, rfl, rfl, rfl, ?_⟩
  have hflags : sent.sealed.header.flags =
      if !decide (status = .ok) then kErrorResponseFlag else 0 := by
    show (if status = .ok then (0 : UInt16) else RBSP_RESPONSE_ERROR_FLAG) = _
    cases status <;> rfl
  rw [objectMatches_iff hflags, namesObject, decide_eq_true_iff, ← hcommand, ← hobject]
  show (if _ then request.objectId = 0 ∧ objectId ≠ 0 else request.objectId = objectId) ↔ _
  -- A command that makes no object compares the object of the reply with the one it names.
  have hno : (Command.createsObject request.command = true → status ≠ .ok) →
      ¬(Command.createsObject request.command = true ∧ (!decide (status = .ok)) = false) := by
    rintro hcreates ⟨htrue, hok⟩
    exact hcreates htrue (by simpa using hok)
  cases hreply with
  | same hforgets hcreates =>
    rw [if_neg (hno hcreates)]
    exact ⟨fun _ => .inr hforgets, fun _ => rfl⟩
  | zero hforgets hcreates =>
    rw [if_neg (hno hcreates)]
    exact ⟨.inl, fun h => h.resolve_right (by rw [hforgets]; exact Bool.true_eq_false_eq_False)⟩
  | created hforgets hcreates hzero hne =>
    rw [if_pos ⟨hcreates, rfl⟩]
    exact ⟨fun _ => .inl hzero, fun _ => ⟨hzero, hne⟩⟩

/-- In every run, the firmware's responses to a request, freshly made or out of the cache, say what
they say. -/
theorem says_reply {W : Type} {config : CoreConfig} {board : Board W} {world : W}
    {start : Core config W} (hinit : Core.init config board world = some start)
    (ops : List (CoreOp W)) {request : Request} {response : List UInt8}
    (hdiscovery : request.command ≠ Command.discoveryRequest)
    (hassign : request.command ≠ Command.nodeAssign)
    (hreply : ((firmware config board fun _ _ => ()).run start ops).reply board request =
      some response) : Says config request response := by
  rcases Core.reply_cases hreply with ⟨place, cached, hplace, hsession, hrequest, hsame, rfl⟩ |
    ⟨executed, hexecute, rfl⟩
  · obtain ⟨hcommand, hobject, -, -⟩ := of_decide_eq_true hsame
    let entryRequest (entry : CacheEntry) : Request := ⟨entry.command, entry.sessionId,
      entry.requestId, entry.objectId, entry.flags, entry.requestCrc, []⟩
    have hcached := Core.cached_run
      (P := fun entry => entry.command ≠ Command.discoveryRequest →
        entry.command ≠ Command.nodeAssign → Says config (entryRequest entry) entry.response)
      (fun ready request executed hexecute _ hdiscovery hassign =>
        Says.of_alike (Core.says_execute hexecute hdiscovery hassign) rfl rfl rfl rfl)
      (Core.cache_init hinit) ops place cached hplace
    exact (hcached (hcommand ▸ hdiscovery) (hcommand ▸ hassign)).of_alike hcommand hsession hrequest
      hobject
  · exact Core.says_execute hexecute hdiscovery hassign

/-- A request on its way through `encode` and `decode`. -/
theorem header_of_transport {packet request : Packet} {bytes : List UInt8}
    (hencode : encode packet = .ok bytes) (hdecode : decode bytes = .ok request) :
    request = packet.sealed := by
  obtain ⟨hencodable, hbytes⟩ := encode_eq_ok_iff.1 hencode
  have hsealed : decode bytes = .ok packet.sealed :=
    decode_eq_ok_iff.2 ⟨hencodable, rfl, hbytes⟩
  exact Except.ok.inj (hdecode.symm.trans hsealed)

/-- For every request that has been submitted, except those by which nodes are found and numbered,
and every state of a node: the response of the firmware is one that the daemon can read, and while
the request is pending it matches if and only if the firmware says the object of the request; and
the reply of the mock core always matches. -/
theorem responses_matched (first : RequestManager) (packet : Packet) (submitted : ℤ)
    (submission : Submission) (hsubmit : (first.submit packet submitted).1 = .ok submission)
    (hdiscovery : packet.header.command ≠ Command.discoveryRequest)
    (hassign : packet.header.command ≠ Command.nodeAssign) (bytes : List UInt8)
    (hencode : encode submission.packet = .ok bytes) :
    (∀ (W : Type) (config : CoreConfig) (board : Board W) (world : W) (start : Core config W)
        (ops : List (CoreOp W)) (request : Request) (response : List UInt8),
      Core.init config board world = some start → bytes.length ≤ config.maxPacketSize →
      decodeRequest bytes = some request →
      ((firmware config board fun _ _ => ()).run start ops).reply board request = some response →
      ∃ answer, decode response = .ok answer ∧
        ∀ (manager : RequestManager) (pending : Pending) (now : ℤ),
          manager.pending.lookup (RequestManager.key submission.packet.header.sessionId
            submission.packet.header.requestId) = some pending →
          pending.packet = submission.packet →
          ((manager.acceptResponse answer now).1.status = .matched ↔
            namesObject config packet = true)) ∧
    ∀ (board : MockMcu.Board) (gpioBsp : Option MockMcu.MockGpioBsp)
        (uartBsp : Option MockMcu.MockUartBsp) (motion : Option MockMcu.MotionExecutor)
        (events : List MockMcu.CoreEvent) (request response : Packet) (received : ℤ),
      decode bytes = .ok request →
      (((MockMcu.coreMachine board).run ⟨MockMcu.RemoteCore.fresh gpioBsp uartBsp motion, 0⟩
        events).core.handle board request received).1 = .ok response →
      ∀ (manager : RequestManager) (pending : Pending) (now : ℤ),
        manager.pending.lookup (RequestManager.key submission.packet.header.sessionId
          submission.packet.header.requestId) = some pending →
        pending.packet = submission.packet →
        (manager.acceptResponse response now).1.status = .matched := by
  -- The manager has put nothing but the ID into the packet.
  have hpacket : submission.packet =
      { packet with header := { packet.header with requestId := submission.requestId } } := by
    have hspec := first.submit_spec packet submitted
    rw [hsubmit] at hspec
    exact hspec.1
  constructor
  -- The firmware reads the request that the host has encoded, and says it in its response.
  · intro W config board world start ops request response hinit hfits hdecode hreply
    have hmaximum : bytes.length ≤ kMaximumPacketSize := hfits.trans config.maxPacketSize_range.2
    obtain ⟨received, hreceived, -, rfl⟩ := (decodeRequest_eq_some_iff hmaximum).1 hdecode
    obtain rfl := header_of_transport hencode hreceived
    have hcommand : (Request.ofPacket submission.packet.sealed).command =
        submission.packet.header.command := rfl
    have hsays := says_reply hinit ops (by rw [hcommand, hpacket]; exact hdiscovery)
      (by rw [hcommand, hpacket]; exact hassign) hreply
    obtain ⟨answer, hanswer, htype, hanswerCommand, hsession, hrequest, hobject⟩ :=
      answer_of_says hsays (show _ = submission.packet.header.command from rfl) rfl
    refine ⟨answer, hanswer, fun manager pending now hpending hsame => ?_⟩
    rw [acceptResponse_matched_iff pending now ?_ htype ?_, hsame, hobject]
    · rw [hpacket]
      rfl
    · rw [hsession, hrequest]
      exact hpending
    · rw [hsame, hanswerCommand, hcommand]
  -- The mock core echoes the request, so that its reply matches.
  · intro board gpioBsp uartBsp motion events request response received hdecode hhandle manager
      pending now hpending hsame
    obtain rfl := header_of_transport hencode hdecode
    have hreplies : MockMcu.RemoteCore.Replies submission.packet.sealed (.ok response) := by
      rw [← hhandle]
      exact MockMcu.RemoteCore.handle_replies received
    obtain ⟨htype, hcommand, hsession, hrequest, hobject⟩ := objectMatches_of_replies hreplies
    refine (acceptResponse_matched_iff pending now ?_ htype ?_).2 ?_
    · rw [hsession, hrequest]
      exact hpending
    · rw [hsame, hcommand]
      rfl
    · rw [hsame]
      exact hobject

/-! ## A board that has just started -/

/-- A request manager that has seen no request. -/
def newManager : RequestManager := .create {} (by decide) (by decide)

/-- A board on a desk. -/
def deskBoard : Board Bench := benchBoard ⟨List.replicate 16 0, NodeUuid.length_zeros⟩

/-- What the daemon makes of the response of that board to its first request. -/
def verdict (packet : Packet) : Option ResponseStatus :=
  match newManager.submit packet 0 with
  | (.error _, _) => none
  | (.ok submission, manager) =>
    match encode submission.packet with
    | .error _ => none
    | .ok bytes =>
      match (decodeRequest bytes).bind (benchCore.reply deskBoard) with
      | none => none
      | some response =>
        match decode response with
        | .error _ => none
        | .ok answer => some (manager.acceptResponse answer 1).1.status

/-- A request for a pin, with an object. -/
def misdirected : Packet :=
  ⟨{ command := Command.gpioCreate, sessionId := 1, objectId := 5 }, [3, 0, 1, 0]⟩

/-- The board refuses this request in the name of the object zero, so the daemon does not learn of
it. -/
theorem misdirected_unmatched : ¬ ∀ packet : Packet,
    packet.header.command ≠ Command.discoveryRequest →
    packet.header.command ≠ Command.nodeAssign →
    ∀ status, verdict packet = some status → status = .matched := by
  intro h
  have hverdict : verdict misdirected = some .unexpected := by decide +kernel
  exact absurd (h misdirected (by decide) (by decide) _ hverdict) (by decide)

/-- A ping. -/
def ping (requestId : UInt32) : Packet :=
  ⟨{ command := Command.ping, sessionId := 1, requestId := requestId }, []⟩

/-- The ping as it is sent. -/
def pingBytes : List UInt8 :=
  [1, 1, 18, 0, 1, 0, 0, 0, 1, 0, 0, 0, 0, 0, 0, 0, 0, 0, 0, 0, 246, 202, 234, 163]

/-- The response to it. -/
def pongBytes : List UInt8 :=
  [1, 2, 18, 0, 1, 0, 0, 0, 1, 0, 0, 0, 0, 0, 0, 0, 1, 0, 0, 0, 20, 54, 182, 20, 0]

/-- A ping is answered, and its response matches. -/
theorem responses_matched_ping : ∃ answer, decode pongBytes = .ok answer ∧
    ((newManager.submit (ping 0) 0).2.acceptResponse answer 1).1.status = .matched := by
  have h := responses_matched newManager (ping 0) 0 ⟨1, ping 1⟩ (by decide +kernel) (by decide)
    (by decide) pingBytes (by decide +kernel)
  obtain ⟨answer, hanswer, hmatched⟩ := h.1 Bench benchConfig deskBoard ⟨0, [], []⟩ benchCore []
    ⟨Command.ping, 1, 1, 0, 0, 0xA3EACAF6, []⟩ pongBytes rfl (by decide)
    (by decide +kernel) (by decide +kernel)
  refine ⟨answer, hanswer, (hmatched _ ⟨ping 1, 750000000, 2⟩ 1 (by decide +kernel) rfl).2 ?_⟩
  decide

end RemoteBSP.System
