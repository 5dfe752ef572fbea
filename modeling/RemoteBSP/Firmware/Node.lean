import RemoteBSP.Firmware.Commands
import RemoteBSP.Lib.Machine

/-!
# The main loop of the firmware

`rbsp_core_init`, `rbsp_core_poll` and `rbsp_core_accept_can` of `firmware/src/core.c`. A packet is
received in order, in one of a few slots, and the request in it is processed with its last fragment.
`acceptCan_cases` says what a frame does in terms of the packet that it completes, and `poll_cases`
with `polled_pollCore` what the main loop does. `processing` is the request that a frame completes
and the state in which `process_request` gets it.
-/

namespace RemoteBSP.Firmware

namespace Core

variable {config : CoreConfig} {W : Type} (board : Board W) (core : Core config W)

/-- The motion queue that `rbsp_core_init` makes, which stays zero in a build without motion. -/
def initMotion (config : CoreConfig) (hal : Hal W) : Option MotionQueue :=
  match config.motion with
  | none => some .zero
  | some motion => MotionQueue.init motion hal.motionAxisCount

/-- `rbsp_core_init`, behind the checks of its pointers. -/
def init (config : CoreConfig) (board : Board W) (world : W) : Option (Core config W) :=
  (initMotion config board.hal).map fun motion =>
    let (now, world) := board.hal.milliseconds world
    { nodeId := 0
      nextObjectId := 1
      nextTransferId := 1
      cache := .empty
      lastHeartbeatMs := now
      bootloaderRequest := none
      reassembly := fun _ => none
      gpioObjects := fun _ => none
      uartObjects := fun _ => none
      motion := motion
      world := world }

/-- The cache is empty at the start. -/
theorem cache_init {config : CoreConfig} {board : Board W} {world : W} {core : Core config W}
    (h : init config board world = some core) : core.cache = .empty := by
  obtain ⟨motion, -, rfl⟩ := Option.map_eq_some_iff.1 h
  rfl

/-! ## Receiving -/

/-- Whether the node receives the frames of an identifier. -/
def listens (identifier : UInt32) : Bool :=
  identifier = RBSP_CAN_ID_DISCOVERY ∨
    (core.nodeId ≠ 0 ∧ identifier = RBSP_CAN_ID_REQUEST_BASE + core.nodeId)

/-- The fragment in a frame, if `rbsp_core_accept_can` does not ignore it. -/
def parseFrame (mode : CanMode) (data : List UInt8) : Option Fragment :=
  let capacity := fragmentCapacity mode
  let sequence := getU16 data 2
  let flags := byteAt data 4 &&& RBSP_FRAGMENT_FLAG_MASK
  let payloadLength := (byteAt data 4 >>> RBSP_FRAGMENT_LENGTH_SHIFT).toNat
  if data.length ≤ RBSP_FRAGMENT_HEADER_SIZE ∨ data.length > mode.mtu then none
  else if payloadLength = 0 ∨ payloadLength > capacity ∨
      RBSP_FRAGMENT_HEADER_SIZE + payloadLength > data.length ∨
      (flags &&& RBSP_FRAGMENT_FIRST != 0) != (sequence == 0) then none
  else if (data.drop (RBSP_FRAGMENT_HEADER_SIZE + payloadLength)).any (· != 0) then none
  else if flags &&& RBSP_FRAGMENT_LAST = 0 ∧ payloadLength ≠ capacity then none
  else some ⟨getU16 data 0, sequence, flags,
    (data.drop RBSP_FRAGMENT_HEADER_SIZE).take payloadLength⟩

/-- `find_slot`, by the sender and the transfer ID. -/
def findSlot (streamId : UInt32) (transferId : UInt16) : Option (Fin config.reassemblySlots) :=
  (List.finRange config.reassemblySlots).find? fun i =>
    (core.reassembly i).any fun slot =>
      slot.streamId = streamId ∧ slot.transferId = transferId

/-- The free slot that `allocate_slot` finds first. -/
def freeSlot : Option (Fin config.reassemblySlots) :=
  (List.finRange config.reassemblySlots).find? fun i => (core.reassembly i).isNone

/-- Puts a slot in its place, or frees the place. -/
def storeSlot (place : Fin config.reassemblySlots) (slot : Option ReassemblySlot) : Core config W :=
  { core with reassembly := Function.update core.reassembly place slot }

/-- The place and the slot of a fragment's transfer, which a first fragment may open. -/
def slotFor (streamId : UInt32) (fragment : Fragment) :
    Option (Fin config.reassemblySlots × ReassemblySlot) :=
  match core.findSlot streamId fragment.transferId with
  | some place => (core.reassembly place).map fun slot => (place, slot)
  | none =>
    if fragment.flags &&& RBSP_FRAGMENT_FIRST = 0 then none
    else core.freeSlot.map fun place => (place, ⟨streamId, fragment.transferId, 0, 0, []⟩)

/-- Whether a fragment repeats what the slot has. -/
def repeated (mode : CanMode) (slot : ReassemblySlot) (fragment : Fragment) : Bool :=
  let offset := fragment.sequence.toNat * fragmentCapacity mode
  offset + fragment.payload.length ≤ slot.packet.length ∧
    (slot.packet.drop offset).take fragment.payload.length = fragment.payload

/-- Whether a fragment is not the next one of its transfer, or has no room. -/
def misfits (config : CoreConfig) (slot : ReassemblySlot) (fragment : Fragment) : Bool :=
  fragment.sequence ≠ slot.nextSequence ∨
    slot.packet.length + fragment.payload.length > config.maxPacketSize

/-- The slot with one more fragment. -/
def extend (slot : ReassemblySlot) (fragment : Fragment) (now : UInt32) : ReassemblySlot :=
  { slot with
    packet := slot.packet ++ fragment.payload
    nextSequence := slot.nextSequence + 1
    lastUpdateMs := now }

/-- What the node does with a complete packet. -/
def completePacket (packet : List UInt8) : Core config W :=
  match decodeRequest packet with
  | some request => (core.processRequest board request).2
  | none => core

/-- The part of `rbsp_core_accept_can` behind the search for the slot. -/
def acceptFragment (place : Fin config.reassemblySlots) (slot : ReassemblySlot)
    (fragment : Fragment) : Core config W :=
  if fragment.sequence < slot.nextSequence then
    if repeated board.canMode slot fragment then
      let (now, world) := board.hal.milliseconds core.world
      { core with world := world }.storeSlot place (some { slot with lastUpdateMs := now })
    else core
  else if misfits config slot fragment then core.storeSlot place none
  else
    let (now, world) := board.hal.milliseconds core.world
    let slot := extend slot fragment now
    let core := { core with world := world }.storeSlot place (some slot)
    if fragment.flags &&& RBSP_FRAGMENT_LAST ≠ 0 then
      (core.completePacket board slot.packet).storeSlot place none
    else core

/-- `rbsp_core_accept_can`: the last fragment of a request has the request processed. -/
def acceptCan (frame : CanFrame) : Core config W :=
  if !core.listens frame.identifier then core
  else
    match parseFrame board.canMode frame.data with
    | none => core
    | some fragment =>
      match core.slotFor frame.identifier fragment with
      | none => core
      | some (place, slot) => core.acceptFragment board place slot fragment

/-! ## Polling -/

/-- The bytes of a port that `rbsp_core_poll` sends as events. -/
def collectBytes (config : CoreConfig) (uartRead : W → UInt8 → ℕ → List UInt8 × W)
    (now : UInt32) (object : UartObject) (world : W) : UartObject × W :=
  if object.pending.length < config.uartEventChunkSize then
    let capacity := config.uartEventChunkSize - object.pending.length
    let (data, world) := uartRead world object.port capacity
    if data.length ≠ 0 ∧ data.length ≤ capacity then
      ({ object with
          firstByteMs := if object.pending.length = 0 then now else object.firstByteMs
          pending := object.pending ++ data }, world)
    else (object, world)
  else (object, world)

/-- The event of a port, if there is one to send. -/
def sendUartEvent (now : UInt32) (place : Fin config.uartResourceCount) (object : UartObject) :
    Core config W :=
  let core := { core with uartObjects := Function.update core.uartObjects place (some object) }
  let full := object.pending.length = config.uartEventChunkSize
  let expired := object.pending.length ≠ 0 ∧ now - object.firstByteMs ≥ config.uartEventFlushMs
  if ¬ full ∧ ¬ expired then core
  else
    let sequence := object.eventSequence + 1
    let packet :=
      encodePacket .event Command.uartRxEvent 0 sequence object.objectId 0 object.pending
    let (sent, core) := core.sendPacket board packet (RBSP_CAN_ID_EVENT_BASE + core.nodeId)
    if sent then
      let object := { object with eventSequence := sequence, pending := [] }
      { core with uartObjects := Function.update core.uartObjects place (some object) }
    else core

/-- What `rbsp_core_poll` does for a port. -/
def pollUart (uartRead : W → UInt8 → ℕ → List UInt8 × W) (now : UInt32) (core : Core config W)
    (place : Fin config.uartResourceCount) : Core config W :=
  match core.uartObjects place with
  | none => core
  | some object =>
    if !object.streaming then core
    else
      let (object, world) := collectBytes config uartRead now object core.world
      { core with world := world }.sendUartEvent board now place object

/-- The slots whose transfer has not timed out. -/
def expireSlots (now : UInt32) : Core config W :=
  { core with
    reassembly := fun place => (core.reassembly place).filter fun slot =>
      now - slot.lastUpdateMs < config.reassemblyTimeoutMs }

/-- The heartbeat of `rbsp_core_poll`, when its time has come. -/
def sendHeartbeat (now : UInt32) : Core config W :=
  if core.nodeId ≠ 0 ∧ now - core.lastHeartbeatMs ≥ config.heartbeatIntervalMs then
    let packet := encodePacket .event Command.heartbeat 0 0 core.nodeId 0
      (board.info.uuid.bytes ++ [RBSP_PROTOCOL_VERSION])
    { (core.sendPacket board packet (RBSP_CAN_ID_EVENT_BASE + core.nodeId)).2 with
      lastHeartbeatMs := now }
  else core

/-- The part of `rbsp_core_poll` behind the bootloader. -/
def pollCore (now : UInt32) : Core config W :=
  let core := core.expireSlots now
  let core := match board.hal.uartRead with
    | some uartRead =>
      if core.nodeId ≠ 0 then
        (List.finRange config.uartResourceCount).foldl (pollUart board uartRead now) core
      else core
    | none => core
  core.sendHeartbeat board now

/-- `rbsp_core_poll`. A bootloader is requested only if there is the callback. -/
def poll : Core config W :=
  let (now, world) := board.hal.milliseconds core.world
  let core := { core with world := world }
  match core.bootloaderRequest, board.hal.enterBootloader with
  | some (requested, mode), some enterBootloader =>
    if now - requested ≥ RBSP_BOOTLOADER_RESET_DELAY_MS then
      { core with bootloaderRequest := none, world := enterBootloader core.world mode }
    else core.pollCore board now
  | _, _ => core.pollCore board now

/-- The bootloader that `rbsp_core_poll` enters, if the delay behind the response is over. -/
def entering : Option BootloaderMode :=
  let (now, _) := board.hal.milliseconds core.world
  match core.bootloaderRequest, board.hal.enterBootloader with
  | some (requested, mode), some _ =>
    if now - requested ≥ RBSP_BOOTLOADER_RESET_DELAY_MS then some mode else none
  | _, _ => none

/-- The main loop enters the bootloader that is pending, or goes on. -/
theorem poll_cases :
    (∃ since mode world, core.bootloaderRequest = some (since, mode) ∧
      core.entering board = some mode ∧
      core.poll board = { core with bootloaderRequest := none, world := world }) ∨
    core.entering board = none ∧ core.poll board =
      Core.pollCore board { core with world := (board.hal.milliseconds core.world).2 }
        (board.hal.milliseconds core.world).1 := by
  unfold entering poll
  dsimp only
  cases hrequest : core.bootloaderRequest with
  | none => exact .inr ⟨rfl, rfl⟩
  | some pending =>
  obtain ⟨requested, mode⟩ := pending
  cases henter : board.hal.enterBootloader with
  | none => exact .inr ⟨rfl, rfl⟩
  | some enterBootloader =>
    dsimp only
    split
    · exact .inl ⟨requested, mode, _, rfl, rfl, rfl⟩
    · exact .inr ⟨rfl, rfl⟩

/-- Nothing changes but what `rbsp_core_poll` works on once it has freed the slots of the transfers
that have timed out: the ports, the heartbeat and the sending. -/
def Polled (core core' : Core config W) : Prop :=
  core' = { core with
    nextTransferId := core'.nextTransferId
    lastHeartbeatMs := core'.lastHeartbeatMs
    uartObjects := core'.uartObjects
    world := core'.world }

/-- One part of the main loop works on what another one has left. -/
theorem Polled.trans {c d e : Core config W} (h : Polled c d) (h' : Polled d e) : Polled c e := by
  unfold Polled at *
  rw [h'] at ⊢
  rw [h]

/-- Polling a port changes its object, and sends its bytes as events. -/
theorem polled_pollUart (uartRead : W → UInt8 → ℕ → List UInt8 × W) (now : UInt32)
    (place : Fin config.uartResourceCount) :
    Polled core (pollUart board uartRead now core place) := by
  unfold pollUart
  split
  · rfl
  · split
    · rfl
    · unfold sendUartEvent
      dsimp only
      split
      · rfl
      · split <;> rfl

/-- Behind the bootloader, the main loop frees slots, polls the ports one after the other, and sends
the heartbeat. -/
theorem polled_pollCore (now : UInt32) :
    Polled (core.expireSlots now) (core.pollCore board now) := by
  have hports : ∀ uartRead (places : List (Fin config.uartResourceCount)) (c : Core config W),
      Polled c (places.foldl (pollUart board uartRead now) c) := by
    intro uartRead places
    induction places with
    | nil => exact fun c => rfl
    | cons place places ih =>
      exact fun c => (polled_pollUart board c uartRead now place).trans (ih _)
  have hheartbeat : ∀ c : Core config W, Polled c (c.sendHeartbeat board now) := by
    intro c
    unfold sendHeartbeat
    split <;> rfl
  unfold pollCore
  dsimp only
  split
  · split
    · exact (hports _ _ _).trans (hheartbeat _)
    · exact hheartbeat _
  · exact hheartbeat _

/-- Polling leaves the remembered requests as they are. -/
theorem cache_poll : (core.poll board).cache = core.cache := by
  rcases poll_cases board core with ⟨_, _, _, -, -, hpoll⟩ | ⟨-, hpoll⟩
  · rw [hpoll]
  · rw [hpoll, polled_pollCore]
    rfl

/-- A poll frees the slots whose transfer has timed out, unless it enters the bootloader. -/
theorem reassembly_poll :
    (core.poll board).reassembly = core.reassembly ∨
      (core.poll board).reassembly = fun place => (core.reassembly place).filter fun slot =>
        (board.hal.milliseconds core.world).1 - slot.lastUpdateMs < config.reassemblyTimeoutMs := by
  rcases poll_cases board core with ⟨_, _, _, -, -, hpoll⟩ | ⟨-, hpoll⟩
  · rw [hpoll]
    exact .inl rfl
  · rw [hpoll, polled_pollCore]
    exact .inr rfl

/-! ## The packet that a frame completes -/

/-- The packet that a frame completes. -/
def completed (frame : CanFrame) : Option (List UInt8) :=
  if !core.listens frame.identifier then none
  else do
    let fragment ← parseFrame board.canMode frame.data
    let (_, slot) ← core.slotFor frame.identifier fragment
    if fragment.sequence < slot.nextSequence ∨ misfits config slot fragment ∨
        fragment.flags &&& RBSP_FRAGMENT_LAST = 0 then none
    else some (slot.packet ++ fragment.payload)

/-- The request that a frame completes, and the state in which `process_request` gets it. -/
def processing (frame : CanFrame) : Option (Request × Core config W) :=
  if !core.listens frame.identifier then none
  else
    match parseFrame board.canMode frame.data with
    | none => none
    | some fragment =>
      match core.slotFor frame.identifier fragment with
      | none => none
      | some (place, slot) =>
        if fragment.sequence < slot.nextSequence ∨ misfits config slot fragment ∨
            fragment.flags &&& RBSP_FRAGMENT_LAST = 0 then none
        else
          let (now, world) := board.hal.milliseconds core.world
          let slot := extend slot fragment now
          (decodeRequest slot.packet).map fun request =>
            (request, { core with world := world }.storeSlot place (some slot))

/-- The state is the same but for the slots and what reading the clock does to the world. -/
structure Idle (board : Board W) (core core' : Core config W) : Prop where
  /-- All but the slots and the world. -/
  eq : core' = { core with reassembly := core'.reassembly, world := core'.world }
  /-- The world is as it was, or the clock has been read. -/
  world : core'.world = core.world ∨ core'.world = (board.hal.milliseconds core.world).2

variable {board core}

/-- Where nothing changes, nothing but the slots does. -/
theorem Idle.refl (board : Board W) (core : Core config W) : Idle board core core :=
  ⟨rfl, .inl rfl⟩

/-- Freeing a slot changes nothing but the slots. -/
theorem Idle.storeSlot {core' : Core config W} (h : Idle board core core')
    (place : Fin config.reassemblySlots) : Idle board core (core'.storeSlot place none) := by
  refine ⟨?_, h.world⟩
  rw [Core.storeSlot, h.eq]

variable (board core) in
/-- A frame that completes no packet changes nothing but a slot. Otherwise the packet is processed
in a state in which nothing else has changed, and its slot is freed. -/
theorem acceptCan_cases (frame : CanFrame) :
    (core.completed board frame = none ∧ core.processing board frame = none ∧
      Idle board core (core.acceptCan board frame)) ∨
    ∃ packet ready place, core.completed board frame = some packet ∧
      core.processing board frame = (decodeRequest packet).map (fun request => (request, ready)) ∧
      Idle board core ready ∧
      core.acceptCan board frame = (ready.completePacket board packet).storeSlot place none := by
  unfold completed processing acceptCan
  -- The identifier, the frame and the slot are checked first.
  by_cases hlistens : (!core.listens frame.identifier) = true
  · rw [if_pos hlistens, if_pos hlistens, if_pos hlistens]
    exact .inl ⟨rfl, rfl, .refl board core⟩
  rw [if_neg hlistens, if_neg hlistens, if_neg hlistens]
  cases hparse : parseFrame board.canMode frame.data with
  | none => exact .inl ⟨rfl, rfl, .refl board core⟩
  | some fragment =>
  simp only [Option.bind_eq_bind, Option.bind_some]
  cases hslot : core.slotFor frame.identifier fragment with
  | none => exact .inl ⟨rfl, rfl, .refl board core⟩
  | some found =>
  obtain ⟨place, slot⟩ := found
  simp only [Option.bind_some]
  unfold acceptFragment
  by_cases hbefore : fragment.sequence < slot.nextSequence
  · -- The fragment is behind its turn, and at most renews the time of its slot.
    rw [if_pos hbefore, if_pos (.inl hbefore), if_pos (.inl hbefore)]
    refine .inl ⟨rfl, rfl, ?_⟩
    dsimp only
    split
    · exact ⟨rfl, .inr rfl⟩
    · exact .refl board core
  rw [if_neg hbefore]
  by_cases hmisfits : misfits config slot fragment = true
  · -- The fragment is before its turn, or has no room: its slot is given up.
    rw [if_pos hmisfits, if_pos (.inr (.inl hmisfits)), if_pos (.inr (.inl hmisfits))]
    exact .inl ⟨rfl, rfl, rfl, .inl rfl⟩
  rw [if_neg hmisfits]
  dsimp only
  -- The fragment is in turn: with the last one the packet is complete.
  by_cases hlast : fragment.flags &&& RBSP_FRAGMENT_LAST = 0
  · rw [if_pos (.inr (.inr hlast)), if_pos (.inr (.inr hlast)), if_neg (not_not.2 hlast)]
    exact .inl ⟨rfl, rfl, rfl, .inr rfl⟩
  · have hcompletes := not_or.2 ⟨hbefore, not_or.2 ⟨hmisfits, hlast⟩⟩
    rw [if_neg hcompletes, if_neg hcompletes, if_pos hlast]
    exact .inr ⟨_, _, place, rfl, rfl, ⟨rfl, .inr rfl⟩, rfl⟩

variable (board core) in
/-- What a frame does, in terms of the packet that it completes. -/
theorem acceptCan_spec (frame : CanFrame) :
    match core.completed board frame with
    | none => Idle board core (core.acceptCan board frame)
    | some packet => ∃ received place, Idle board core received ∧
        core.acceptCan board frame =
          (received.completePacket board packet).storeSlot place none := by
  rcases core.acceptCan_cases board frame with ⟨hnone, -, hidle⟩ |
    ⟨packet, ready, place, hsome, -, hidle, haccept⟩
  · rw [hnone]
    exact hidle
  · rw [hsome]
    exact ⟨ready, place, hidle, haccept⟩

variable (board core) in
/-- What a frame does, in terms of the request that it completes. A packet that is no request leaves
its slot free, and nothing else. -/
theorem acceptCan_processing (frame : CanFrame) :
    match core.processing board frame with
    | none => Idle board core (core.acceptCan board frame)
    | some (request, ready) => Idle board core ready ∧ ∃ place, core.acceptCan board frame =
        (ready.processRequest board request).2.storeSlot place none := by
  rcases core.acceptCan_cases board frame with ⟨-, hnone, hidle⟩ |
    ⟨packet, ready, place, -, hprocessing, hidle, haccept⟩
  · rw [hnone]
    exact hidle
  · rw [hprocessing]
    unfold completePacket at haccept
    cases hdecode : decodeRequest packet with
    | none =>
      rw [hdecode] at haccept
      rw [haccept]
      exact hidle.storeSlot place
    | some request =>
      rw [hdecode] at haccept
      exact ⟨hidle, place, haccept⟩

end Core

/-! ## The bus -/

/-- Every frame gets onto the bus, and reading the clock sends none. `bus` is what has been sent. -/
structure Sends {W : Type} (hal : Hal W) (bus : W → List CanFrame) : Prop where
  /-- The driver takes every frame. -/
  canSend : ∀ world frame, (hal.canSend world frame).1 = true
  /-- A frame that the driver takes is on the bus behind the others. -/
  bus_canSend : ∀ world frame, bus (hal.canSend world frame).2 = bus world ++ [frame]
  /-- Reading the clock puts no frame on the bus. -/
  bus_milliseconds : ∀ world, bus (hal.milliseconds world).2 = bus world

variable {config : CoreConfig} {W : Type} {hal : Hal W} {bus : W → List CanFrame}

/-- All frames of a list are sent, in order. -/
theorem Sends.sendFrames (h : Sends hal bus) (world : W) (frames : List CanFrame) :
    (sendFrames hal world frames).1 = true ∧
      bus (sendFrames hal world frames).2 = bus world ++ frames := by
  induction frames generalizing world with
  | nil => exact ⟨rfl, (List.append_nil _).symm⟩
  | cons frame frames ih =>
    unfold Firmware.sendFrames
    dsimp only
    rw [if_pos (h.canSend world frame)]
    obtain ⟨hsent, hbus⟩ := ih (hal.canSend world frame).2
    refine ⟨hsent, ?_⟩
    rw [hbus, h.bus_canSend, List.append_assoc, List.singleton_append]

/-- A packet is sent in its fragments. -/
theorem Sends.sendPacket {board : Board W} (h : Sends board.hal bus) (core : Core config W)
    (packet : List UInt8) (canId : UInt32) :
    bus (core.sendPacket board packet canId).2.world =
      bus core.world ++ packetFrames board.canMode packet core.nextTransferId canId :=
  (h.sendFrames core.world _).2

/-- Nothing has been sent while the node was idle. -/
theorem Sends.idle {board : Board W} (h : Sends board.hal bus) {core core' : Core config W}
    (hidle : Core.Idle board core core') : bus core'.world = bus core.world := by
  rcases hidle.world with hworld | hworld
  · rw [hworld]
  · rw [hworld, h.bus_milliseconds]

/-! ## A board for concrete runs -/

/-- The world of a board on a desk. -/
structure Bench where
  /-- The milliseconds that the clock shows. -/
  now : UInt32
  /-- The frames that the driver has taken. -/
  sent : List CanFrame
  /-- The levels written to the pins. -/
  writes : List (UInt16 × Bool)
deriving DecidableEq

/-- The driver of that board, which takes every frame and remembers what is written to pins. -/
def benchHal : Hal Bench where
  canSend world frame := (true, { world with sent := world.sent ++ [frame] })
  milliseconds world := (world.now, world)
  gpioConfigure := some fun world _ _ _ => (true, world)
  gpioWrite := some fun world pin value =>
    (true, { world with writes := world.writes ++ [(pin, value)] })
  gpioRead := some fun world _ => ((true, false), world)
  uartConfigure := none
  uartRead := none
  uartWrite := none
  nanoseconds := none
  motionAxisCount := 0
  motionSetEnable := none
  motionSetDirection := none
  motionSetStep := none
  motionLimitActive := none
  enterBootloader := none

/-- A build configuration with little of everything. -/
def benchConfig : CoreConfig where
  maxPacketSize := 256
  cacheEntries := 2
  cacheResponseSize := 64
  reassemblySlots := 2
  reassemblyTimeoutMs := 500
  heartbeatIntervalMs := 500
  provisionalId := 1
  gpioResourceCount := 4
  uartResourceCount := 0
  uartEventChunkSize := 16
  uartEventFlushMs := 5
  motion := none
  maxPacketSize_range := by decide
  cacheEntries_range := by decide
  cacheResponseSize_range := by decide
  reassemblySlots_range := by decide
  reassemblyTimeoutMs_range := by decide
  heartbeatIntervalMs_range := by decide
  provisionalId_range := by decide
  gpioResourceCount_range := by decide
  uartResourceCount_le := by decide
  uartEventChunkSize_range := by decide

/-- A board on a CAN-FD bus. -/
def benchBoard (uuid : NodeUuid) : Board Bench where
  hal := benchHal
  canMode := .flexibleDataRate
  info := ⟨uuid, 1, 0, 0, 7⟩

/-- The frames of this driver are all sent. -/
theorem bench_sends (uuid : NodeUuid) : Sends (benchBoard uuid).hal Bench.sent :=
  ⟨fun _ _ => rfl, fun _ _ => rfl, fun _ => rfl⟩

/-- The core of that board behind `rbsp_core_init`, without a node ID. -/
def benchCore : Core benchConfig Bench where
  nodeId := 0
  nextObjectId := 1
  nextTransferId := 1
  cache := .empty
  lastHeartbeatMs := 0
  bootloaderRequest := none
  reassembly _ := none
  gpioObjects _ := none
  uartObjects _ := none
  motion := .zero
  world := ⟨0, [], []⟩

/-- The board starts in this state. -/
theorem init_bench (uuid : NodeUuid) :
    Core.init benchConfig (benchBoard uuid) ⟨0, [], []⟩ = some benchCore := rfl

end RemoteBSP.Firmware
