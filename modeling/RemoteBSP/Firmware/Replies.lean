import RemoteBSP.Firmware.Runs

/-!
# The responses of the firmware

Every command of `process_request` answers with a status, an object and data. `says_execute` is what
they have in common. The object is that of the request, or the one just created; but there are
commands that always answer with the object zero when they have not created one
(`forgetsObject`). And a response fits into a packet, but for the response to
`RBSP_COMMAND_UART_READ`, which is only made to fit into the cache.
-/

namespace RemoteBSP.Firmware

variable {config : CoreConfig} {W : Type}

/-- The commands that the motion handlers answer. -/
def motionCommand (command : UInt16) : Bool :=
  command ∈ [Command.motionEnqueue, Command.motionStatus, Command.motionAbort,
    Command.motionClearFault]

/-- The firmware answers the command with the object zero when it has not created one, whatever the
object of the request. -/
def forgetsObject (config : CoreConfig) (command : UInt16) : Bool :=
  command ∈ [Command.gpioCreate, Command.bootloaderEnter, Command.bootloaderEnterUsb] ∨
    (0 < config.uartResourceCount ∧ command = Command.uartCreate) ∨
    (config.motion.isSome = true ∧ motionCommand command = true)

/-- The object that a response with a status is about. -/
inductive ReplyObject (config : CoreConfig) (request : Request) : Status → UInt32 → Prop
  /-- The reply names the object that the request names. -/
  | same {status : Status} : forgetsObject config request.command = false →
    (Command.createsObject request.command = true → status ≠ .ok) →
    ReplyObject config request status request.objectId
  /-- The reply of a handler that leaves the object out names object zero. -/
  | zero {status : Status} : forgetsObject config request.command = true →
    (Command.createsObject request.command = true → status ≠ .ok) →
    ReplyObject config request status 0
  /-- The object that has been created. -/
  | created {objectId : UInt32} : forgetsObject config request.command = true →
    Command.createsObject request.command = true → request.objectId = 0 → objectId ≠ 0 →
    ReplyObject config request .ok objectId

/-- The room for a response to a command: in a packet, or in the cache. -/
def replyRoom (config : CoreConfig) (command : UInt16) : ℕ :=
  if command = Command.uartRead then config.cacheResponseSize else config.maxPacketSize

/-- The response is a status, an object and data that there is room for. -/
def Says (config : CoreConfig) (request : Request) (response : List UInt8) : Prop :=
  ∃ status objectId data, response = makeStatusResponse request status objectId data ∧
    RBSP_HEADER_SIZE + 1 + data.length ≤ replyRoom config request.command ∧
    ReplyObject config request status objectId

/-- The response does not depend on the flags, the checksum and the payload of the request
otherwise. -/
theorem Says.of_alike {request request' : Request} {response : List UInt8}
    (h : Says config request' response) (hcommand : request'.command = request.command)
    (hsession : request'.sessionId = request.sessionId)
    (hrequest : request'.requestId = request.requestId)
    (hobject : request'.objectId = request.objectId) : Says config request response := by
  obtain ⟨status, objectId, data, hresponse, hroom, hreply⟩ := h
  refine ⟨status, objectId, data, ?_, hcommand ▸ hroom, ?_⟩
  · rw [hresponse, makeStatusResponse, makeStatusResponse, hcommand, hsession, hrequest]
  · cases hreply with
    | same hforgets hcreates =>
      rw [hobject]
      exact .same (hcommand ▸ hforgets) (hcommand ▸ hcreates)
    | zero hforgets hcreates => exact .zero (hcommand ▸ hforgets) (hcommand ▸ hcreates)
    | created hforgets hcreates hzero hne =>
      exact .created (hcommand ▸ hforgets) (hcommand ▸ hcreates) (hobject ▸ hzero) hne

/-- There is room for a few bytes. -/
theorem room_of_le {command : UInt16} {length : ℕ} (h : length ≤ 39) :
    RBSP_HEADER_SIZE + 1 + length ≤ replyRoom config command := by
  have hpacket := config.maxPacketSize_range
  have hcache := config.cacheResponseSize_range
  unfold replyRoom RBSP_HEADER_SIZE
  split <;> omega

/-- The description of a node is 26 bytes long. -/
theorem length_infoBytes (info : NodeInfo) : info.bytes.length = 26 := by
  simp only [NodeInfo.bytes, List.length_append, info.uuid.length_bytes, length_putU16,
    length_putU32]

/-- The status of a motion queue has a length that depends on the axes only. -/
theorem length_motionStatusData (motion : MotionConfig) (queue : MotionQueue) (nowNs : UInt64) :
    (Core.motionStatusData motion queue nowNs).length = 92 + queue.axisCount.toNat * 24 := by
  have haxis : ∀ axis, (Core.axisStatus queue axis).length = 24 := fun _ => rfl
  have haxes : ((List.range queue.axisCount.toNat).flatMap (Core.axisStatus queue)).length =
      queue.axisCount.toNat * 24 := by
    rw [List.length_flatMap, List.map_congr_left fun axis _ => haxis axis, List.map_const',
      List.sum_replicate, List.length_range, smul_eq_mul]
  simp only [Core.motionStatusData, List.length_append, haxes, length_putU64, length_putU32,
    length_putU16, List.length_cons, List.length_nil]

/-- If both branches of a handler answer a request properly, so does the handler. -/
theorem says_ite {request : Request} {c : Prop} [Decidable c] {a b : List UInt8 × Core config W}
    (ha : Says config request a.1) (hb : Says config request b.1) :
    Says config request (if c then a else b).1 := by
  split
  · exact ha
  · exact hb

namespace Core

variable {board : Board W} {core : Core config W} {request : Request}

section Same

variable (hforgets : forgetsObject config request.command = false)
  (hcreates : Command.createsObject request.command = false)

include hforgets hcreates

/-- An answer with the object of the request. -/
theorem says_same {c : Core config W} {status : Status} {data : List UInt8}
    (hroom : RBSP_HEADER_SIZE + 1 + data.length ≤ replyRoom config request.command) :
    Says config request (answer c request status request.objectId data).1 :=
  ⟨status, request.objectId, data, rfl, hroom,
    .same hforgets fun h => absurd h (by rw [hcreates]; exact Bool.false_ne_true)⟩

/-- An answer with the object of the request, and no data. -/
theorem says_same_status {c : Core config W} {status : Status} :
    Says config request (answer c request status request.objectId []).1 :=
  says_same hforgets hcreates (room_of_le (Nat.zero_le _))

/-- GET_INFO is answered with the command, the request and the object of the request. -/
theorem says_handleGetInfo : Says config request (core.handleGetInfo board request).1 := by
  unfold handleGetInfo
  refine says_ite (says_same_status hforgets hcreates) (says_same hforgets hcreates (room_of_le ?_))
  rw [List.length_append, length_infoBytes, List.length_singleton]
  decide

/-- GET_CAPABILITY is answered with the command, the request and the object of the request. -/
theorem says_handleGetCapability :
    Says config request (core.handleGetCapability board request).1 := by
  unfold handleGetCapability
  refine says_ite (says_same_status hforgets hcreates) (says_same hforgets hcreates (room_of_le ?_))
  rw [length_putU64]
  decide

/-- The answer to PING is as long as the request, if that fits. -/
theorem says_handlePing (hcommand : request.command = Command.ping) :
    Says config request (core.handlePing request).1 := by
  unfold handlePing
  split
  · exact says_same_status hforgets hcreates
  · next hfits =>
    refine says_same hforgets hcreates ?_
    have hsize := config.maxPacketSize_range
    rw [replyRoom, hcommand, if_neg (by decide)]
    rw [RBSP_HEADER_SIZE] at hfits ⊢
    omega

/-- The answers to GPIO_READ and GPIO_WRITE. -/
theorem says_gpio : Says config request (core.handleGpioRead board request).1 ∧
    Says config request (core.handleGpioWrite board request).1 := by
  constructor
  · unfold handleGpioRead
    refine says_ite (says_same_status hforgets hcreates) ?_
    split
    · exact says_ite (says_same_status hforgets hcreates)
        (says_same hforgets hcreates (room_of_le (by rw [List.length_singleton]; decide)))
    · exact says_same_status hforgets hcreates
  · unfold handleGpioWrite
    refine says_ite (says_same_status hforgets hcreates) ?_
    split
    · exact says_ite (says_same_status hforgets hcreates) (says_same_status hforgets hcreates)
    · exact says_same_status hforgets hcreates

/-- The answer to UART_READ fits into the cache. -/
theorem says_handleUartRead (hcommand : request.command = Command.uartRead) :
    Says config request (core.handleUartRead board request).1 := by
  unfold handleUartRead
  dsimp only
  generalize (if request.payload.length = 2 then (getU16 request.payload 0).toNat else 0) =
    requested
  split
  · exact says_same_status hforgets hcreates
  · next hvalid =>
    have hrequested := (not_or.1 (not_or.1 (not_or.1 hvalid).2).2).2
    split
    · refine says_ite (says_same_status hforgets hcreates) ?_
      split
      · exact says_same_status hforgets hcreates
      · next hlength =>
        refine says_same hforgets hcreates ?_
        have hsize := config.cacheResponseSize_range
        rw [replyRoom, if_pos hcommand]
        rw [RBSP_HEADER_SIZE] at hrequested ⊢
        omega
    · exact says_same_status hforgets hcreates

/-- UART_WRITE is answered with the command, the request and the object of the request. -/
theorem says_handleUartWrite : Says config request (core.handleUartWrite board request).1 := by
  unfold handleUartWrite
  refine says_ite (says_same_status hforgets hcreates) ?_
  split
  · exact says_same_status hforgets hcreates
  · exact says_same_status hforgets hcreates

end Same

/-! ## Commands that forget the object -/

section Zero

variable (hforgets : forgetsObject config request.command = true)

include hforgets

/-- An answer with the object zero that creates nothing. -/
theorem says_zero {c : Core config W} {status : Status} {data : List UInt8}
    (hcreates : Command.createsObject request.command = true → status ≠ .ok)
    (hroom : RBSP_HEADER_SIZE + 1 + data.length ≤ replyRoom config request.command) :
    Says config request (answer c request status 0 data).1 :=
  ⟨status, 0, data, rfl, hroom, .zero hforgets hcreates⟩

/-- An error with the object zero. -/
theorem says_error {c : Core config W} {status : Status} (hstatus : status ≠ .ok) :
    Says config request (answer c request status 0 []).1 :=
  says_zero hforgets (fun _ => hstatus) (room_of_le (Nat.zero_le _))

/-- The answers to BOOTLOADER_ENTER and BOOTLOADER_ENTER_USB. -/
theorem says_handleBootloaderEnter (hcreates : Command.createsObject request.command = false) :
    Says config request (core.handleBootloaderEnter board request).response := by
  have hstatus : ∀ status, Says config request (makeStatusResponse request status 0 []) :=
    fun status => says_zero (c := core) hforgets
      (fun h => absurd h (by rw [hcreates]; exact Bool.false_ne_true)) (room_of_le (Nat.zero_le _))
  unfold handleBootloaderEnter
  split_ifs <;> exact hstatus _

/-- The answer to a command that has created an object. -/
theorem says_created {c : Core config W} {objectId : UInt32}
    (hcreates : Command.createsObject request.command = true) (hzero : request.objectId = 0)
    (hobject : objectId ≠ 0) : Says config request (answer c request .ok objectId []).1 :=
  ⟨.ok, objectId, [], rfl, room_of_le (Nat.zero_le _), .created hforgets hcreates hzero hobject⟩

/-- GPIO_CREATE is answered under the object that it makes. -/
theorem says_handleGpioCreate (hcreates : Command.createsObject request.command = true) :
    Says config request (core.handleGpioCreate board request).1 := by
  unfold handleGpioCreate
  split
  · split
    · exact says_error hforgets nofun
    · next hvalid =>
      have hzero : request.objectId = 0 := not_not.1 (not_or.1 hvalid).1
      unfold createGpio
      refine says_ite (says_error hforgets nofun) ?_
      split
      · exact says_error hforgets nofun
      · split
        · exact says_error hforgets nofun
        · next hnext =>
          exact says_ite (says_error hforgets nofun) (says_created hforgets hcreates hzero hnext)
  · exact says_error hforgets nofun

/-- UART_CREATE is answered under the object that it makes. -/
theorem says_handleUartCreate (hcreates : Command.createsObject request.command = true) :
    Says config request (core.handleUartCreate board request).1 := by
  unfold handleUartCreate
  split
  · split
    · exact says_error hforgets nofun
    · next hvalid =>
      have hzero : request.objectId = 0 := not_not.1 (not_or.1 hvalid).1
      unfold createUart
      refine says_ite (says_error hforgets nofun) (says_ite (says_error hforgets nofun) ?_)
      split
      · exact says_error hforgets nofun
      · split
        · exact says_error hforgets nofun
        · next hnext =>
          exact says_ite (says_error hforgets nofun) (says_created hforgets hcreates hzero hnext)
  · exact says_error hforgets nofun

variable (board core) in
/-- The answers to the commands about motion. -/
theorem says_motion (hcommand : motionCommand request.command = true) (motion : MotionConfig) :
    Says config request (core.handleMotionEnqueue board request motion).1 ∧
      Says config request (core.handleMotionStatus board request motion).1 ∧
      Says config request (core.handleMotionAbort board request motion).1 ∧
      Says config request (core.handleMotionClearFault board request).1 := by
  have hcreates : ∀ status, Command.createsObject request.command = true → status ≠ Status.ok := by
    intro status hcreates
    have hneither : ∀ command, motionCommand command = true →
        Command.createsObject command = false := by
      intro command hmotion
      simp only [motionCommand, List.mem_cons, List.not_mem_nil, or_false,
        decide_eq_true_eq] at hmotion
      rcases hmotion with rfl | rfl | rfl | rfl <;> rfl
    rw [hneither _ hcommand] at hcreates
    exact absurd hcreates Bool.false_ne_true
  -- All four handlers answer with object zero, and with a payload that has room.
  have hstatus : ∀ (c : Core config W) status,
      Says config request (answer c request status 0 []).1 :=
    fun c status => says_zero hforgets (hcreates status) (room_of_le (Nat.zero_le _))
  refine ⟨?_, ?_, ?_, ?_⟩
  · unfold handleMotionEnqueue
    split
    · exact hstatus _ _
    · refine says_ite (hstatus _ _) ?_
      split
      · exact hstatus _ _
      · dsimp only
        split
        · exact hstatus _ _
        -- The acceptance is a payload of fixed length.
        · refine says_zero hforgets (hcreates _) (room_of_le ?_)
          simp only [List.length_append, length_putU32, length_putU64, length_putU16,
            List.length_cons, List.length_nil]
          decide
  · unfold handleMotionStatus
    split
    · exact hstatus _ _
    · dsimp only
      split
      · exact hstatus _ _
      -- The status has been checked against the size of a packet.
      · next hvalid =>
        have hfits := (not_or.1 (not_or.1 hvalid).2).2
        refine says_zero hforgets (hcreates _) ?_
        have hsize := config.maxPacketSize_range
        have huart : request.command ≠ Command.uartRead := fun h => by
          rw [h] at hcommand
          exact absurd hcommand (by decide)
        rw [length_motionStatusData, replyRoom, if_neg huart]
        rw [RBSP_HEADER_SIZE] at hfits ⊢
        omega
  · unfold handleMotionAbort
    exact says_ite (hstatus _ _) (hstatus _ _)
  · unfold handleMotionClearFault
    exact says_ite (hstatus _ _) (hstatus _ _)

end Zero

/-! ## Every command -/

/-- A command that neither creates an object nor forgets it. -/
theorem remembersObject {command : UInt16} (hmotion : motionCommand command = false)
    (hnot : command ∉ [Command.gpioCreate, Command.bootloaderEnter, Command.bootloaderEnterUsb,
      Command.uartCreate]) (h : request.command = command) :
    forgetsObject config request.command = false ∧
      Command.createsObject request.command = false := by
  subst h
  simp only [List.mem_cons, List.not_mem_nil, or_false, not_or] at hnot
  obtain ⟨hgpio, hcan, husb, huart⟩ := hnot
  refine ⟨decide_eq_false ?_, decide_eq_false (not_or.2 ⟨hgpio, huart⟩)⟩
  rintro (hmem | huart' | hmotion')
  · simp only [List.mem_cons, List.not_mem_nil, or_false] at hmem
    exact absurd hmem (not_or.2 ⟨hgpio, not_or.2 ⟨hcan, husb⟩⟩)
  · exact huart huart'.2
  · rw [hmotion] at hmotion'
    exact Bool.false_ne_true hmotion'.2

/-- The answer to a command that the build may leave out. -/
theorem says_executeOptional (hcommand : request.command ∉ [Command.gpioCreate,
    Command.bootloaderEnter, Command.bootloaderEnterUsb]) :
    Says config request (core.executeOptional board request).1 := by
  have hunknown : forgetsObject config request.command = false →
      Says config request (answer core request .unknownCommand request.objectId []).1 :=
    fun hforgets => ⟨_, _, [], rfl, room_of_le (Nat.zero_le _), .same hforgets fun _ => nofun⟩
  -- The commands are tried in the order of the source, those of the motion last.
  unfold executeOptional
  split
  · next huart =>
    refine says_handleUartCreate ?_ (by rw [huart.2]; rfl)
    exact decide_eq_true (.inr (.inl huart))
  next huartCreate =>
  split
  · next huart =>
    obtain ⟨hforgets, hcreates⟩ := remembersObject (by decide) (by decide) huart.2
    exact says_handleUartRead hforgets hcreates huart.2
  split
  · next huart =>
    obtain ⟨hforgets, hcreates⟩ := remembersObject (by decide) (by decide) huart.2
    exact says_handleUartWrite hforgets hcreates
  split
  -- A build without motion does not know its commands.
  · next hmotion =>
    refine hunknown (decide_eq_false ?_)
    rintro (hmem | huart | hmotion')
    · exact hcommand hmem
    · exact huartCreate huart
    · rw [hmotion] at hmotion'
      exact Bool.false_ne_true hmotion'.1
  next motion hmotion =>
  -- A build with motion answers them by their handlers.
  by_cases hcommand' : motionCommand request.command = true
  · have hforgets : forgetsObject config request.command = true :=
      decide_eq_true (.inr (.inr ⟨by rw [hmotion]; rfl, hcommand'⟩))
    obtain ⟨henqueue, hstatus, habort, hclear⟩ :=
      says_motion board core hforgets hcommand' motion
    split_ifs with h1 h2 h3 h4
    · exact henqueue
    · exact hstatus
    · exact habort
    · exact hclear
    · simp only [motionCommand, List.mem_cons, List.not_mem_nil, or_false,
        decide_eq_true_eq] at hcommand'
      exact absurd hcommand' (not_or.2 ⟨h1, not_or.2 ⟨h2, not_or.2 ⟨h3, h4⟩⟩⟩)
  -- Every other command is unknown.
  · have hnot : ∀ command, motionCommand command = true → request.command ≠ command :=
      fun command hmotion' heq => hcommand' (by rw [heq]; exact hmotion')
    rw [if_neg (hnot _ (by decide)), if_neg (hnot _ (by decide)), if_neg (hnot _ (by decide)),
      if_neg (hnot _ (by decide))]
    refine hunknown (decide_eq_false ?_)
    rintro (hmem | huart | hmotion')
    · exact hcommand hmem
    · exact huartCreate huart
    · exact hcommand' hmotion'.2

/-- Every command but the two that look for nodes answers with a status, and there is room for the
response. -/
theorem says_execute {executed : Executed config W} (h : core.execute board request = some executed)
    (hdiscovery : request.command ≠ Command.discoveryRequest)
    (hassign : request.command ≠ Command.nodeAssign) : Says config request executed.response := by
  unfold execute at h
  rw [if_neg hdiscovery, if_neg hassign] at h
  obtain rfl := Option.some.inj h
  have hforgets : ∀ command ∈ [Command.gpioCreate, Command.bootloaderEnter,
      Command.bootloaderEnterUsb], request.command = command →
        forgetsObject config request.command = true :=
    fun command hmem heq => decide_eq_true (.inl (by rw [heq]; exact hmem))
  unfold executeStatus
  dsimp only
  split_ifs with hinfo hcapability hping hboot hcreate hread hwrite
  · obtain ⟨hforgets, hcreates⟩ := remembersObject (by decide) (by decide) hinfo
    exact says_handleGetInfo hforgets hcreates
  · obtain ⟨hforgets, hcreates⟩ := remembersObject (by decide) (by decide) hcapability
    exact says_handleGetCapability hforgets hcreates
  · obtain ⟨hforgets, hcreates⟩ := remembersObject (by decide) (by decide) hping
    exact says_handlePing hforgets hcreates hping
  · rcases hboot with hboot | hboot
    · exact says_handleBootloaderEnter (hforgets _ (by decide) hboot) (by rw [hboot]; rfl)
    · exact says_handleBootloaderEnter (hforgets _ (by decide) hboot) (by rw [hboot]; rfl)
  · exact says_handleGpioCreate (hforgets _ (by decide) hcreate) (by rw [hcreate]; rfl)
  · obtain ⟨hforgets, hcreates⟩ := remembersObject (by decide) (by decide) hread
    exact (says_gpio hforgets hcreates).1
  · obtain ⟨hforgets, hcreates⟩ := remembersObject (by decide) (by decide) hwrite
    exact (says_gpio hforgets hcreates).2
  · refine says_executeOptional ?_
    simp only [List.mem_cons, List.not_mem_nil, or_false, not_or]
    exact ⟨hcreate, fun h => hboot (.inl h), fun h => hboot (.inr h)⟩

end Core

end RemoteBSP.Firmware
