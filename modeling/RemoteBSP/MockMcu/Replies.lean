import RemoteBSP.MockMcu.Handlers

/-!
# The replies of the core

Every handler takes the header of its reply from `make_response`, so a reply has the command, the
session, the ID and the object of its request (`Echoes`). The two commands that create an object say
which one, if they have created it (`Creates`). `dispatch_replies` and `handle_replies` say this of
the whole core.
-/

namespace RemoteBSP.MockMcu

/-- The header of a reply is the one that `make_response` makes. -/
def Echoes (request response : Packet) : Prop :=
  ∃ status, response.header = (makeResponse request status).header

/-- A reply that creates an object, or the refusal to do so. -/
def Creates (request response : Packet) : Prop :=
  (∃ status, status ≠ StatusCode.ok ∧ response.header = (makeResponse request status).header) ∨
    ∃ objectId, objectId ≠ 0 ∧ request.header.objectId = 0 ∧
      response.header = (respondCreated request objectId).header

/-- The reply, if there is one, has such a header. -/
def EchoesOk (request : Packet) (reply : Reply) : Prop :=
  ∀ response, reply = .ok response → Echoes request response

variable {request : Packet} {board : Board} {core : RemoteCore}

/-- A response made of a status echoes the request. -/
theorem echoes_makeResponse (status : StatusCode) : Echoes request (makeResponse request status) :=
  ⟨status, rfl⟩

/-- `make_response` with `Ok`, and data behind the status. -/
theorem echoes_respond (data : List UInt8) : Echoes request (respond request data) := ⟨.ok, rfl⟩

/-- A response to a refusal of a port echoes the request. -/
theorem echoes_uartErrorResponse (error : UartException) :
    Echoes request (uartErrorResponse request error) := by
  unfold uartErrorResponse
  split <;> exact echoes_makeResponse _

/-- A handler that branches on a condition echoes the request if both branches do. -/
theorem echoes_ite {c : Prop} [Decidable c] {a b : Packet × RemoteCore} (ha : Echoes request a.1)
    (hb : Echoes request b.1) : Echoes request (if c then a else b).1 := by
  split
  · exact ha
  · exact hb

/-- A handler that always replies echoes the request where it replies. -/
theorem EchoesOk.of_echoes {response : Packet} (h : Echoes request response) :
    EchoesOk request (.ok response) := by
  intro reply hreply
  rw [← Except.ok.inj hreply]
  exact h

/-- `make_response`, from a handler that may throw. -/
theorem EchoesOk.status (status : StatusCode) :
    EchoesOk request (.ok (makeResponse request status)) :=
  .of_echoes (echoes_makeResponse status)

/-- A handler that throws has no reply to echo the request. -/
theorem EchoesOk.error (exception : HandleException) : EchoesOk request (.error exception) :=
  fun _ h => nomatch h

/-- A reply that depends on a condition echoes the request if both replies do. -/
theorem echoesOk_ite {c : Prop} [Decidable c] {a b : Reply} (ha : EchoesOk request a)
    (hb : EchoesOk request b) : EchoesOk request (if c then a else b) := by
  split
  · exact ha
  · exact hb

/-- A handler that may throw and branches on a condition echoes the request if both branches do. -/
theorem echoesOk_fst_ite {c : Prop} [Decidable c] {a b : Reply × RemoteCore}
    (ha : EchoesOk request a.1) (hb : EchoesOk request b.1) :
    EchoesOk request (if c then a else b).1 := by
  split
  · exact ha
  · exact hb

namespace RemoteCore

/-! ## The node and its resources -/

variable (board core request) in
/-- The replies of the node itself. -/
theorem echoes_node : Echoes request (handleGetInfo board request) ∧
    Echoes request (handleGetCapability board request) ∧ Echoes request (handlePing request) ∧
    Echoes request (core.handleBootloaderEnter board request).1 := by
  refine ⟨?_, ?_, ?_, ?_⟩
  · unfold handleGetInfo
    split
    · exact echoes_makeResponse _
    · exact echoes_respond _
  · unfold handleGetCapability
    split
    · exact echoes_makeResponse _
    · exact echoes_respond _
  · unfold handlePing
    split
    · exact echoes_makeResponse _
    · exact echoes_respond _
  · unfold handleBootloaderEnter
    exact echoes_ite (echoes_makeResponse _)
      (echoes_ite (echoes_makeResponse _) (echoes_makeResponse _))

variable (board core request) in
/-- The replies about resources echo their requests. -/
theorem echoes_resource : EchoesOk request (handleResourceEnum board request) ∧
    Echoes request (handleResourceDescribe board request) ∧
    Echoes request (core.handleResourceStatus board request) ∧
    Echoes request (core.handleResourceReset board request).1 ∧
    EchoesOk request (handleResourceContract board request) := by
  refine ⟨?_, ?_, ?_, ?_, ?_⟩
  -- Each branch answers by a status, an error or a payload, and each of these echoes the request.
  · unfold handleResourceEnum
    refine echoesOk_ite (.status _) ?_
    split
    · exact .error _
    · exact echoesOk_ite (.status _) (.of_echoes (echoes_respond _))
  · unfold handleResourceDescribe
    split
    · exact echoes_makeResponse _
    · split
      · exact echoes_makeResponse _
      · exact echoes_respond _
  · unfold handleResourceStatus
    split
    · exact echoes_makeResponse _
    · split
      · exact echoes_makeResponse _
      · exact echoes_respond _
  · unfold handleResourceReset
    refine echoes_ite (echoes_makeResponse _) ?_
    dsimp only
    split
    · exact echoes_makeResponse _
    · refine echoes_ite (echoes_makeResponse _) ?_
      unfold resetResource
      split
      · exact echoes_makeResponse _
      · refine echoes_ite (echoes_makeResponse _) ?_
        split
        · exact echoes_uartErrorResponse _
        · exact echoes_makeResponse _
      · exact echoes_makeResponse _
  · unfold handleResourceContract
    refine echoesOk_ite (.status _) ?_
    dsimp only
    split
    · exact .status _
    · split
      · exact .status _
      · split
        · exact .error _
        · exact .of_echoes (echoes_respond _)

variable (board core request) in
/-- The replies about leases echo their requests. -/
theorem echoes_lease (now : ℤ) : Echoes request (core.handleResourceAcquire board request now).1 ∧
    Echoes request (core.handleResourceRenew board request now).1 ∧
    Echoes request (core.handleResourceRelease board request).1 ∧
    Echoes request (core.handleResourceLeaseStatus board request now) := by
  refine ⟨?_, ?_, ?_, ?_⟩
  · unfold handleResourceAcquire
    refine echoes_ite (echoes_makeResponse _) ?_
    split
    · exact echoes_makeResponse _
    · refine echoes_ite (echoes_makeResponse _) (echoes_ite (echoes_makeResponse _)
        (echoes_ite (echoes_makeResponse _) (echoes_ite (echoes_makeResponse _) ?_)))
      unfold acquireLease
      exact echoes_ite (echoes_makeResponse _) (echoes_respond _)
  · unfold handleResourceRenew
    refine echoes_ite (echoes_makeResponse _) ?_
    split
    · exact echoes_makeResponse _
    · refine echoes_ite (echoes_makeResponse _) (echoes_ite (echoes_makeResponse _) ?_)
      unfold renewLease
      dsimp only
      split
      · exact echoes_makeResponse _
      · exact echoes_ite (echoes_makeResponse _) (echoes_respond _)
  · unfold handleResourceRelease
    refine echoes_ite (echoes_makeResponse _) ?_
    split
    · exact echoes_makeResponse _
    · refine echoes_ite (echoes_makeResponse _) (echoes_ite (echoes_makeResponse _) ?_)
      unfold releaseLease
      dsimp only
      split
      · exact echoes_makeResponse _
      · exact echoes_ite (echoes_makeResponse _) (echoes_makeResponse _)
  · unfold handleResourceLeaseStatus
    split
    · exact echoes_makeResponse _
    · dsimp only
      split
      · exact echoes_makeResponse _
      · split
        · exact echoes_makeResponse _
        · exact echoes_respond _

/-! ## Pins and ports -/

variable (board core request) in
/-- The replies of the commands that read and write pins. -/
theorem echoes_gpio : EchoesOk request (core.handleGpioRead board request).1 ∧
    EchoesOk request (core.handleGpioWrite board request).1 := by
  constructor
  · unfold handleGpioRead
    split
    · exact .status _
    · refine echoesOk_fst_ite (.status _) (echoesOk_fst_ite (.status _) ?_)
      split
      · exact .status _
      · refine echoesOk_fst_ite (.status _) ?_
        split
        · exact .error _
        · exact .of_echoes (echoes_respond _)
  · unfold handleGpioWrite
    split
    · exact .status _
    · refine echoesOk_fst_ite (.status _) (echoesOk_fst_ite (.status _) ?_)
      split
      · exact .status _
      · refine echoesOk_fst_ite (.status _) (echoesOk_fst_ite (.status _) ?_)
        split
        · exact .error _
        · exact .status _

variable (board core request) in
/-- The replies of the commands that read and write ports. -/
theorem echoes_uart : Echoes request (core.handleUartRead board request).1 ∧
    Echoes request (core.handleUartWrite board request).1 := by
  constructor
  · unfold handleUartRead
    split
    · exact echoes_makeResponse _
    · refine echoes_ite (echoes_makeResponse _) (echoes_ite (echoes_makeResponse _) ?_)
      refine echoes_ite (echoes_makeResponse _) ?_
      split
      · exact echoes_makeResponse _
      · refine echoes_ite (echoes_makeResponse _) (echoes_ite (echoes_makeResponse _) ?_)
        split
        · exact echoes_uartErrorResponse _
        · exact echoes_ite (echoes_makeResponse _) (echoes_respond _)
  · unfold handleUartWrite
    split
    · exact echoes_makeResponse _
    · refine echoes_ite (echoes_makeResponse _) (echoes_ite (echoes_makeResponse _) ?_)
      split
      · exact echoes_makeResponse _
      · refine echoes_ite (echoes_makeResponse _) ?_
        split
        · exact echoes_uartErrorResponse _
        · exact echoes_makeResponse _

/-- A refusal to create an object. -/
theorem creates_makeResponse {status : StatusCode} (h : status ≠ .ok) :
    Creates request (makeResponse request status) := .inl ⟨status, h, rfl⟩

/-- A handler that branches on a condition names a new object or refuses if both branches do. -/
theorem creates_ite {c : Prop} [Decidable c] {a b : Packet × RemoteCore} (ha : Creates request a.1)
    (hb : ¬c → Creates request b.1) : Creates request (if c then a else b).1 := by
  split
  · exact ha
  · next h => exact hb h

/-- An object is refused with an error. -/
theorem objectOwner_error {type : ResourceType} {instance' : UInt16} {sessionId : UInt32}
    {status : StatusCode} (h : core.objectOwner board type instance' sessionId = .error status) :
    status ≠ .ok := by
  unfold objectOwner at h
  split at h
  · split_ifs at h
    obtain rfl := Except.error.inj h
    nofun
  · dsimp only at h
    split_ifs at h
    obtain rfl := Except.error.inj h
    nofun

/-- `handle_gpio_create` names the new object, or refuses and echoes the request. -/
theorem creates_gpio : Creates request (core.handleGpioCreate board request).1 := by
  unfold handleGpioCreate
  split
  · exact creates_makeResponse nofun
  · refine creates_ite (creates_makeResponse nofun) fun _ => ?_
    refine creates_ite (creates_makeResponse nofun) fun hvalid => ?_
    refine creates_ite (creates_makeResponse nofun) fun hroom => ?_
    unfold createGpio
    split
    · next howner => exact creates_makeResponse (objectOwner_error howner)
    · refine creates_ite (creates_makeResponse nofun) fun _ => .inr ⟨core.nextObjectId, ?_, ?_, rfl⟩
      · exact (not_or.1 hroom).1
      · exact not_not.1 (not_or.1 hvalid).1

/-- `handle_uart_create` names the new object, or refuses and echoes the request. -/
theorem creates_uart : Creates request (core.handleUartCreate board request).1 := by
  unfold handleUartCreate
  split
  · exact creates_makeResponse nofun
  · refine creates_ite (creates_makeResponse nofun) fun _ => ?_
    refine creates_ite (creates_makeResponse nofun) fun hvalid => ?_
    split
    · exact creates_makeResponse nofun
    · refine creates_ite (creates_makeResponse nofun) fun _ => ?_
      refine creates_ite (creates_makeResponse nofun) fun hnext => ?_
      unfold createUart
      split
      · next howner => exact creates_makeResponse (objectOwner_error howner)
      · refine creates_ite (creates_makeResponse nofun) fun _ => ?_
        split
        · unfold uartErrorResponse
          split <;> exact creates_makeResponse nofun
        · exact .inr ⟨core.nextObjectId, hnext, not_not.1 (not_or.1 hvalid).1, rfl⟩

/-! ## Motion -/

/-- The reply of a command on motion, if what is done behind the checks replies. -/
theorem echoes_withMotion {act : MotionExecutor → Reply × RemoteCore}
    (h : ∀ motion, EchoesOk request (act motion).1) :
    EchoesOk request (core.withMotion board request act).1 := by
  unfold withMotion
  split
  · exact .status _
  · exact echoesOk_fst_ite (.status _) (echoesOk_fst_ite (.status _) (h _))

variable (board core request) in
/-- The replies of the commands on motion. -/
theorem echoes_motion : EchoesOk request (core.handleMotionEnqueue board request).1 ∧
    EchoesOk request (core.handleMotionStatus board request).1 ∧
    EchoesOk request (core.handleMotionAbort board request).1 ∧
    EchoesOk request (core.handleMotionClearFault board request).1 := by
  refine ⟨?_, echoes_withMotion fun motion => ?_, echoes_withMotion fun motion => ?_,
    echoes_withMotion fun motion => ?_⟩
  · unfold handleMotionEnqueue
    split
    · exact .status _
    · refine echoesOk_fst_ite (.status _) (echoesOk_fst_ite (.status _) ?_)
      split
      · exact .status _
      · split
        · exact .status _
        · unfold enqueueMotion
          split
          · exact .status _
          · dsimp only
            split
            · exact .error _
            · exact .of_echoes (echoes_respond _)
  · split
    · exact .error _
    · exact .of_echoes (echoes_respond _)
  · split
    · exact .status _
    · exact .status _
  · split
    · exact .status _
    · exact .status _

/-! ## Every command -/

/-- The replies of the core: those to a command that creates an object, and all others. -/
structure Replies (request : Packet) (reply : Reply) : Prop where
  /-- A command that creates no object is answered under the object that the request names. -/
  echoes : Command.createsObject request.header.command = false → EchoesOk request reply
  /-- A command that creates an object is answered under the new object, or refused. -/
  creates : Command.createsObject request.header.command = true →
    ∀ response, reply = .ok response → Creates request response

/-- A conditional on the command replies if both of its branches do. -/
theorem replies_ite {c : Prop} [Decidable c] {first rest : Reply × RemoteCore}
    (hfirst : c → Replies request first.1) (hrest : Replies request rest.1) :
    Replies request (if c then first else rest).1 := by
  split
  · next h => exact hfirst h
  · exact hrest

/-- A command that creates no object. -/
theorem Replies.of_echoes {command : UInt16} {reply : Reply}
    (hcommand : request.header.command = command)
    (hcreates : Command.createsObject command = false) (h : EchoesOk request reply) :
    Replies request reply :=
  ⟨fun _ => h, fun htrue => absurd htrue (by rw [hcommand, hcreates]; exact Bool.false_ne_true)⟩

/-- A command that creates an object. -/
theorem Replies.of_creates {command : UInt16} {response : Packet}
    (hcommand : request.header.command = command)
    (hcreates : Command.createsObject command = true) (h : Creates request response) :
    Replies request (.ok response) := by
  refine ⟨fun hfalse => absurd hfalse ?_, fun _ reply hreply => ?_⟩
  · rw [hcommand, hcreates]
    exact Bool.true_eq_false_eq_False
  · rw [← Except.ok.inj hreply]
    exact h

/-- The switch replies to every request under its session, its ID and its command. -/
theorem dispatch_replies (now : ℤ) : Replies request (core.dispatch board request now).1 := by
  obtain ⟨hinfo, hcapability, hping, hboot⟩ := echoes_node request board core
  obtain ⟨henum, hdescribe, hstatus, hreset, hcontract⟩ := echoes_resource request board core
  obtain ⟨hacquire, hrenew, hrelease, hleases⟩ := echoes_lease request board core now
  obtain ⟨hgpioRead, hgpioWrite⟩ := echoes_gpio request board core
  obtain ⟨huartRead, huartWrite⟩ := echoes_uart request board core
  obtain ⟨henqueue, hmotion, habort, hclear⟩ := echoes_motion request board core
  -- Each case of the switch has its own lemma.
  unfold dispatch
  refine replies_ite (fun h => .of_echoes h rfl (.of_echoes hinfo)) ?_
  refine replies_ite (fun h => .of_echoes h rfl (.of_echoes hcapability)) ?_
  refine replies_ite (fun h => .of_echoes h rfl (.of_echoes hping)) ?_
  refine replies_ite (fun h => h.elim (fun h => .of_echoes h rfl (.of_echoes hboot))
    fun h => .of_echoes h rfl (.of_echoes hboot)) ?_
  refine replies_ite (fun h => .of_echoes h rfl henum) ?_
  refine replies_ite (fun h => .of_echoes h rfl (.of_echoes hdescribe)) ?_
  refine replies_ite (fun h => .of_echoes h rfl (.of_echoes hstatus)) ?_
  refine replies_ite (fun h => .of_echoes h rfl (.of_echoes hreset)) ?_
  refine replies_ite (fun h => .of_echoes h rfl hcontract) ?_
  refine replies_ite (fun h => .of_echoes h rfl (.of_echoes hacquire)) ?_
  refine replies_ite (fun h => .of_echoes h rfl (.of_echoes hrenew)) ?_
  refine replies_ite (fun h => .of_echoes h rfl (.of_echoes hrelease)) ?_
  refine replies_ite (fun h => .of_echoes h rfl (.of_echoes hleases)) ?_
  refine replies_ite (fun h => .of_creates h rfl creates_gpio) ?_
  refine replies_ite (fun h => .of_echoes h rfl hgpioRead) ?_
  refine replies_ite (fun h => .of_echoes h rfl hgpioWrite) ?_
  refine replies_ite (fun h => .of_creates h rfl creates_uart) ?_
  refine replies_ite (fun h => .of_echoes h rfl (.of_echoes huartRead)) ?_
  refine replies_ite (fun h => .of_echoes h rfl (.of_echoes huartWrite)) ?_
  refine replies_ite (fun h => .of_echoes h rfl henqueue) ?_
  refine replies_ite (fun h => .of_echoes h rfl hmotion) ?_
  refine replies_ite (fun h => .of_echoes h rfl habort) ?_
  refine replies_ite (fun h => .of_echoes h rfl hclear) ?_
  refine ⟨fun _ => .status _, fun _ response hresponse => ?_⟩
  rw [← Except.ok.inj hresponse]
  exact creates_makeResponse nofun

/-- `RemoteCore::handle` replies to every request under its session, its ID and its command. -/
theorem handle_replies (now : ℤ) : Replies request (core.handle board request now).1 := by
  unfold handle
  split
  · exact ⟨fun _ => .error _, fun _ _ h => nomatch h⟩
  · split
    · exact ⟨fun _ => .error _, fun _ _ h => nomatch h⟩
    · exact dispatch_replies now

end RemoteCore

end RemoteBSP.MockMcu
