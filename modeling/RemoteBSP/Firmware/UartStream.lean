import RemoteBSP.Firmware.Runs

/-!
# Streams of received bytes

The main loop reads the ports of the streaming UART objects and sends what it has read as numbered
events, when there is enough of it or when it has waited long enough. An event that cannot be sent
to its last fragment is sent again later, with the bytes that have come in meanwhile, under the same
number. Over any run, what has been sent and what is pending is what has been read, and the events
are numbered from one on (`uart_stream_intact`).
-/

namespace RemoteBSP.Firmware

variable {config : CoreConfig} {W : Type}

/-- What is seen of the stream of a port. -/
inductive PortEvent (config : CoreConfig)
  /-- The driver has been asked for bytes and has returned these. -/
  | read (place : Fin config.uartResourceCount) (bytes : List UInt8)
  /-- An event has been sent, to its last fragment. -/
  | sent (place : Fin config.uartResourceCount) (packet : List UInt8)
deriving DecidableEq

/-- The bytes that have been read for the object in a place. -/
def bytesRead (place : Fin config.uartResourceCount) (log : List (PortEvent config)) :
    List UInt8 :=
  log.flatMap fun
    | .read place' bytes => if place' = place then bytes else []
    | .sent _ _ => []

/-- The events that have been sent of the object in a place. -/
def eventsSent (place : Fin config.uartResourceCount) (log : List (PortEvent config)) :
    List (List UInt8) :=
  log.flatMap fun
    | .read _ _ => []
    | .sent place' packet => if place' = place then [packet] else []

/-- The event with a number and bytes. -/
def uartEvent (objectId sequence : UInt32) (bytes : List UInt8) : List UInt8 :=
  encodePacket .event Command.uartRxEvent 0 sequence objectId 0 bytes

/-- The events with these bytes, numbered from one on. -/
def numberedEvents (objectId : UInt32) (payloads : List (List UInt8)) : List (List UInt8) :=
  payloads.mapIdx fun index bytes => uartEvent objectId (UInt32.ofNat (index + 1)) bytes

namespace Core

variable (board : Board W) (core : Core config W)

/-- Whether the bytes of an object are to be sent. -/
def due (config : CoreConfig) (now : UInt32) (object : UartObject) : Bool :=
  object.pending.length = config.uartEventChunkSize ∨
    object.pending.length ≠ 0 ∧ now - object.firstByteMs ≥ config.uartEventFlushMs

/-- The core with another object in a place. -/
def withUart (place : Fin config.uartResourceCount) (object : UartObject) : Core config W :=
  { core with uartObjects := Function.update core.uartObjects place (some object) }

/-- The outcome of sending the bytes of an object. -/
def sendEvent (place : Fin config.uartResourceCount) (object : UartObject) :
    Bool × Core config W :=
  (core.withUart place object).sendPacket board
    (uartEvent object.objectId (object.eventSequence + 1) object.pending)
    (RBSP_CAN_ID_EVENT_BASE + core.nodeId)

/-- What is seen when a port is polled. -/
def portTraffic (uartRead : W → UInt8 → ℕ → List UInt8 × W) (now : UInt32)
    (place : Fin config.uartResourceCount) : List (PortEvent config) :=
  match core.uartObjects place with
  | none => []
  | some object =>
    if !object.streaming then []
    else
      let read :=
        if object.pending.length < config.uartEventChunkSize then
          [.read place
            (uartRead core.world object.port
              (config.uartEventChunkSize - object.pending.length)).1]
        else []
      let (object, world) := collectBytes config uartRead now object core.world
      let sent :=
        if due config now object ∧
            (sendEvent board { core with world := world } place object).1 then
          [.sent place (uartEvent object.objectId (object.eventSequence + 1) object.pending)]
        else []
      read ++ sent

/-- What is seen when the ports of a list are polled. -/
def portsTraffic (uartRead : W → UInt8 → ℕ → List UInt8 × W) (now : UInt32) :
    List (Fin config.uartResourceCount) → Core config W → List (PortEvent config)
  | [], _ => []
  | place :: places, core =>
    core.portTraffic board uartRead now place ++
      portsTraffic uartRead now places (pollUart board uartRead now core place)

/-- What is seen of an operation. `UART_READ` refuses an object that streams before it reads its
port, so only polls are seen. -/
def traffic : CoreOp W → List (PortEvent config)
  | .poll =>
    match core.entering board, board.hal.uartRead with
    | none, some uartRead =>
      let (now, world) := board.hal.milliseconds core.world
      let core := expireSlots { core with world := world } now
      if core.nodeId ≠ 0 then
        portsTraffic board uartRead now (List.finRange config.uartResourceCount) core
      else []
    | _, _ => []
  | _ => []

variable {board : Board W} {core : Core config W}

/-! ## One port -/

variable (config) in
/-- The bytes that a port is read for are added to those that are pending. -/
theorem collectBytes_spec {uartRead : W → UInt8 → ℕ → List UInt8 × W}
    (hread : ∀ world port capacity, (uartRead world port capacity).1.length ≤ capacity)
    (now : UInt32) (object : UartObject) (world : W) :
    let data := if object.pending.length < config.uartEventChunkSize then
      (uartRead world object.port (config.uartEventChunkSize - object.pending.length)).1 else []
    let collected := (collectBytes config uartRead now object world).1
    collected.pending = object.pending ++ data ∧ collected.objectId = object.objectId ∧
      collected.streaming = object.streaming ∧ collected.eventSequence = object.eventSequence := by
  unfold collectBytes
  dsimp only
  split
  · split
    · exact ⟨rfl, rfl, rfl, rfl⟩
    · next hnone =>
      have hempty := not_and'.1 hnone (hread _ _ _)
      rw [List.length_eq_zero_iff.1 (not_not.1 hempty), List.append_nil]
      exact ⟨rfl, rfl, rfl, rfl⟩
  · rw [List.append_nil]
    exact ⟨rfl, rfl, rfl, rfl⟩

/-- The object whose bytes are sent if they are due. -/
theorem uartObjects_sendUartEvent (board : Board W) (core : Core config W) (now : UInt32)
    (place : Fin config.uartResourceCount) (object : UartObject) :
    (core.sendUartEvent board now place object).uartObjects = Function.update core.uartObjects place
      (some (if due config now object ∧ (sendEvent board core place object).1 then
        { object with eventSequence := object.eventSequence + 1, pending := [] } else object)) := by
  unfold sendUartEvent
  dsimp only
  split
  · next hnot =>
    rw [if_neg fun h => ?_]
    exact absurd (of_decide_eq_true h.1) (not_or.2 hnot)
  · next hdue =>
    have hdue : due config now object = true := by
      refine decide_eq_true ?_
      by_contra hnone
      exact hdue (not_or.1 hnone)
    change (if (sendEvent board core place object).1 = true then _
      else _ : Core config W).uartObjects =
      _
    split
    · next hsent =>
      rw [if_pos ⟨hdue, hsent⟩]
      show Function.update (Function.update _ _ _) _ _ = _
      rw [Function.update_idem]
    · next hsent =>
      rw [if_neg fun h => hsent h.2]
      rfl

/-- What has been read in two parts. -/
theorem bytesRead_append (place : Fin config.uartResourceCount)
    (log log' : List (PortEvent config)) :
    bytesRead place (log ++ log') = bytesRead place log ++ bytesRead place log' :=
  List.flatMap_append

/-- What has been sent in two parts. -/
theorem eventsSent_append (place : Fin config.uartResourceCount)
    (log log' : List (PortEvent config)) :
    eventsSent place (log ++ log') = eventsSent place log ++ eventsSent place log' :=
  List.flatMap_append

/-- What is seen of a polled port, in each place. -/
theorem portEvents_spec (place polled : Fin config.uartResourceCount) (read sent : Prop)
    [Decidable read] [Decidable sent] (data packet : List UInt8) :
    let seen := (if read then [PortEvent.read polled data] else []) ++
      if sent then [PortEvent.sent polled packet] else []
    bytesRead place seen = (if polled = place then if read then data else [] else []) ∧
      eventsSent place seen = if polled = place then if sent then [packet] else [] else [] := by
  dsimp only
  rw [bytesRead_append, eventsSent_append]
  constructor
  · by_cases hread : read <;> by_cases hsent : sent <;> simp [bytesRead, hread, hsent]
  · by_cases hread : read <;> by_cases hsent : sent <;> simp [eventsSent, hread, hsent]

/-- What has been sent of the object in a place, and what is pending, is what has been read. -/
def Flows (place : Fin config.uartResourceCount) (log : List (PortEvent config)) :
    Option UartObject → Prop
  | none => bytesRead place log = [] ∧ eventsSent place log = []
  | some object => object.streaming = true → ∃ payloads : List (List UInt8),
      eventsSent place log = numberedEvents object.objectId payloads ∧
      payloads.flatten ++ object.pending = bytesRead place log ∧
      object.eventSequence = UInt32.ofNat payloads.length

/-- A further payload is a further event, under the next number. -/
theorem numberedEvents_concat (objectId : UInt32) (payloads : List (List UInt8))
    (bytes : List UInt8) : numberedEvents objectId (payloads ++ [bytes]) =
      numberedEvents objectId payloads ++
        [uartEvent objectId (UInt32.ofNat (payloads.length + 1)) bytes] := by
  unfold numberedEvents
  rw [List.mapIdx_concat]

variable {place : Fin config.uartResourceCount} {log : List (PortEvent config)}

variable (board) in
/-- A poll of one port keeps the streams of all ports: it numbers what it sends on. -/
theorem Flows.pollUart {uartRead : W → UInt8 → ℕ → List UInt8 × W}
    (hread : ∀ world port capacity, (uartRead world port capacity).1.length ≤ capacity)
    (now : UInt32) (polled : Fin config.uartResourceCount)
    (h : ∀ place, Flows place log (core.uartObjects place)) (place : Fin config.uartResourceCount) :
    Flows place (log ++ core.portTraffic board uartRead now polled)
      ((Core.pollUart board uartRead now core polled).uartObjects place) := by
  unfold Core.pollUart portTraffic
  -- A port without an object, or without a stream, is not read.
  cases hobject : core.uartObjects polled with
  | none =>
    rw [List.append_nil]
    exact h place
  | some object =>
  dsimp only
  cases hstreaming : object.streaming with
  | false =>
    rw [Bool.not_false, if_pos rfl, if_pos rfl, List.append_nil]
    exact h place
  | true =>
  rw [Bool.not_true, if_neg Bool.false_ne_true, if_neg Bool.false_ne_true]
  -- The bytes are collected behind those that are pending.
  have hcollected := collectBytes_spec config hread now object core.world
  generalize collectBytes config uartRead now object core.world = collected at hcollected ⊢
  obtain ⟨object', world⟩ := collected
  obtain ⟨hpending, hid, hstreaming', hsequence⟩ := hcollected
  dsimp only at hpending hid hstreaming' hsequence ⊢
  rw [uartObjects_sendUartEvent]
  obtain ⟨hbytes, hevents⟩ := portEvents_spec place polled
    (object.pending.length < config.uartEventChunkSize)
    (due config now object' ∧
      (sendEvent board { core with world := world } polled object').1 = true)
    (uartRead core.world object.port (config.uartEventChunkSize - object.pending.length)).1
    (uartEvent object'.objectId (object'.eventSequence + 1) object'.pending)
  -- The log grows for the port that is polled only.
  by_cases hplace : polled = place
  · subst hplace
    rw [Function.update_self]
    rw [if_pos rfl] at hbytes hevents
    have hold := h polled
    rw [hobject] at hold
    obtain ⟨payloads, hsent, hread', hnumber⟩ := hold hstreaming
    intro _
    rw [bytesRead_append, eventsSent_append, hbytes, hevents, ← hread', List.append_assoc,
      ← hpending, hsent]
    split
    · -- The bytes are sent as one more event.
      refine ⟨payloads ++ [object'.pending], ?_, ?_, ?_⟩
      · rw [numberedEvents_concat, hid, hsequence, hnumber, UInt32.ofNat_add]
        rfl
      · rw [List.flatten_append, List.flatten_singleton, List.append_nil]
      · rw [List.length_append, List.length_singleton, UInt32.ofNat_add, ← hnumber, ← hsequence]
        rfl
    · refine ⟨payloads, ?_, rfl, ?_⟩
      · rw [List.append_nil, hid]
      · rw [hsequence, hnumber]
  · rw [Function.update_of_ne (Ne.symm hplace)]
    rw [if_neg hplace] at hbytes hevents
    have hother := h place
    unfold Flows at hother ⊢
    rw [bytesRead_append, eventsSent_append, hbytes, hevents, List.append_nil, List.append_nil]
    exact hother

/-! ## Every operation -/

/-- The ports of a list are polled. -/
theorem Flows.portsTraffic {uartRead : W → UInt8 → ℕ → List UInt8 × W}
    (hread : ∀ world port capacity, (uartRead world port capacity).1.length ≤ capacity)
    (now : UInt32) (places : List (Fin config.uartResourceCount)) {core : Core config W}
    {log : List (PortEvent config)} (h : ∀ place, Flows place log (core.uartObjects place)) :
    ∀ place, Flows place (log ++ Core.portsTraffic board uartRead now places core)
      ((places.foldl (Core.pollUart board uartRead now) core).uartObjects place) := by
  induction places generalizing core log with
  | nil =>
    intro place
    rw [Core.portsTraffic, List.append_nil]
    exact h place
  | cons polled places ih =>
    intro place
    have hnext := ih (Flows.pollUart board hread now polled h) place
    rw [List.append_assoc] at hnext
    exact hnext

/-- The main loop keeps the streams, since it polls the ports in turn. -/
theorem Flows.poll (hread : ∀ uartRead ∈ board.hal.uartRead, ∀ world port capacity,
      (uartRead world port capacity).1.length ≤ capacity)
    (h : ∀ place, Flows place log (core.uartObjects place)) (place : Fin config.uartResourceCount) :
    Flows place (log ++ core.traffic board .poll) ((core.poll board).uartObjects place) := by
  -- A heartbeat does not touch the objects.
  have hheartbeat : ∀ (now : UInt32) (c : Core config W),
      (c.sendHeartbeat board now).uartObjects = c.uartObjects := by
    intro now c
    unfold sendHeartbeat
    split <;> rfl
  unfold traffic
  rcases poll_cases board core with ⟨since, mode, world, -, hentering, hpoll⟩ |
    ⟨hentering, hpoll⟩
  -- The node enters a bootloader, and does not poll its ports.
  · rw [hentering, hpoll]
    dsimp only
    rw [List.append_nil]
    exact h place
  · rw [hentering, hpoll]
    dsimp only
    unfold pollCore
    dsimp only
    rw [hheartbeat]
    have hslots : ∀ place, Flows place log ((expireSlots { core with
        world := (board.hal.milliseconds core.world).2 }
        (board.hal.milliseconds core.world).1).uartObjects place) := h
    cases huart : board.hal.uartRead with
    | none =>
      dsimp only
      rw [List.append_nil]
      exact hslots place
    | some uartRead =>
      dsimp only
      split
      · exact Flows.portsTraffic (hread uartRead huart) _ _ hslots place
      · rw [List.append_nil]
        exact hslots place

/-- A new object has sent nothing. -/
theorem Flows.change {core' : Core config W} (hchange : Change board core core')
    (h : ∀ place, Flows place log (core.uartObjects place)) (place : Fin config.uartResourceCount) :
    Flows place log (core'.uartObjects place) := by
  cases hchange with
  | uartCreated world created port streaming hfree hnext =>
    dsimp only
    by_cases hplace : place = created
    · subst hplace
      rw [Function.update_self]
      have hnone := h place
      rw [hfree] at hnone
      exact fun _ => ⟨[], hnone.2, hnone.1.symm, rfl⟩
    · rw [Function.update_of_ne hplace]
      exact h place
  | aborted motion hmotion =>
    unfold motionTick
    split <;> exact h place
  | _ => exact h place

/-- No operation of the core breaks the stream of a port. -/
theorem Flows.step (hread : ∀ uartRead ∈ board.hal.uartRead, ∀ world port capacity,
      (uartRead world port capacity).1.length ≤ capacity)
    (h : ∀ place, Flows place log (core.uartObjects place)) (op : CoreOp W)
    (place : Fin config.uartResourceCount) :
    Flows place (log ++ core.traffic board op) ((core.step board op).uartObjects place) := by
  cases op with
  | acceptCan frame =>
    obtain ⟨ready, after, hidle, hchange, haccept⟩ := acceptCan_change board core frame
    have hready : ∀ place, Flows place log (ready.uartObjects place) := by
      rw [hidle.eq]
      exact h
    have hafter := Flows.change hchange hready place
    show Flows place (log ++ []) ((core.acceptCan board frame).uartObjects place)
    rw [List.append_nil, haccept]
    exact hafter
  | poll => exact Flows.poll hread h place
  | motionTick =>
    show Flows place (log ++ []) _
    rw [List.append_nil]
    unfold Core.step
    dsimp only
    split
    · exact h place
    · unfold motionTick
      split <;> exact h place
  | elapse world =>
    show Flows place (log ++ []) _
    rw [List.append_nil]
    exact h place

/-- The streams of all objects, over what has been seen so far. -/
def Flowing (history : List (List (PortEvent config))) (core : Core config W) : Prop :=
  ∀ place, Flows place history.flatten (core.uartObjects place)

/-- An operation adds its own events to the history that the streams follow. -/
theorem Flowing.step (hread : ∀ uartRead ∈ board.hal.uartRead, ∀ world port capacity,
      (uartRead world port capacity).1.length ≤ capacity)
    {history : List (List (PortEvent config))} (h : Flowing history core) (op : CoreOp W) :
    Flowing (history ++ [core.traffic board op]) (core.step board op) := by
  intro place
  rw [List.flatten_append, List.flatten_singleton]
  exact Flows.step hread h op place

end Core

/-- In every run of the firmware with a driver that reads no more than it is asked for, the bytes in
the events that have been sent of a streaming object, to their last fragment, and behind them those
that are pending, are the bytes that have been read for it, in order; and these events are numbered
from one on. -/
theorem uart_stream_intact (board : Board W)
    (hread : ∀ uartRead ∈ board.hal.uartRead, ∀ world port capacity,
      (uartRead world port capacity).1.length ≤ capacity)
    (world : W) (start : Core config W) (hinit : Core.init config board world = some start)
    (ops : List (CoreOp W)) :
    let log := ((firmware config board (Core.traffic board)).outcomes start ops).flatten
    let core := (firmware config board (Core.traffic board)).run start ops
    ∀ place, ∀ object ∈ core.uartObjects place, object.streaming = true →
      ∃ payloads : List (List UInt8),
        eventsSent place log = numberedEvents object.objectId payloads ∧
        payloads.flatten ++ object.pending = bytesRead place log := by
  have hstart : Core.Flowing [] start := by
    obtain ⟨motion, -, rfl⟩ := Option.map_eq_some_iff.1 hinit
    exact fun place => ⟨rfl, rfl⟩
  have hlog := (firmware config board (Core.traffic board)).history_induction_of
    (P := Core.Flowing) (fun history core op h _ => Core.Flowing.step hread h op) hstart
    (Machine.along_of_forall _ (C := fun _ _ => True) (fun _ _ => trivial) start ops)
  intro log core place object hobject hstreaming
  have hflows := hlog place
  rw [show ((firmware config board (Core.traffic board)).run start ops).uartObjects place =
    some object from hobject] at hflows
  obtain ⟨payloads, hsent, hbytes, -⟩ := hflows hstreaming
  exact ⟨payloads, hsent, hbytes⟩

/-! ## A port that receives ten bytes -/

/-- The driver of a board with one port. Its world is the bytes that the port has received. -/
def portHal : Hal (List UInt8) where
  canSend world _ := (true, world)
  milliseconds world := (0, world)
  gpioConfigure := none
  gpioWrite := none
  gpioRead := none
  uartConfigure := some fun world _ _ _ _ _ => (true, world)
  uartRead := some fun world _ capacity => (world.take capacity, world.drop capacity)
  uartWrite := some fun world _ _ => (true, world)
  nanoseconds := none
  motionAxisCount := 0
  motionSetEnable := none
  motionSetDirection := none
  motionSetStep := none
  motionLimitActive := none
  enterBootloader := none

/-- A board whose UART driver gives out the bytes of a list. -/
def portBoard : Board (List UInt8) where
  hal := portHal
  canMode := .flexibleDataRate
  info := ⟨⟨List.replicate 16 0, NodeUuid.length_zeros⟩, 1, 0, 0, 7⟩

/-- A build with one port, whose events carry eight bytes. -/
def portConfig : CoreConfig :=
  { benchConfig with
    uartResourceCount := 1
    uartEventChunkSize := 8
    uartResourceCount_le := by decide
    uartEventChunkSize_range := by decide }

/-- The core of such a board after `rbsp_core_init`, with bytes waiting at the driver. -/
def portCore (world : List UInt8) : Core portConfig (List UInt8) where
  nodeId := 0
  nextObjectId := 1
  nextTransferId := 1
  cache := .empty
  lastHeartbeatMs := 0
  bootloaderRequest := none
  reassembly _ := none
  gpioObjects _ := none
  uartObjects _ := none
  motion := .zero
  world := world

/-- The CAN frames in which a request reaches a core, as operations of it. -/
def requestFrames (canId requestId : UInt32) (command : UInt16) (payload : List UInt8) :
    List (CoreOp (List UInt8)) :=
  (packetFrames .flexibleDataRate (encodePacket .request command 1 requestId 0 0 payload) 1
    canId).map .acceptCan

/-- The board gets a node ID and a streaming object, and is polled twice. -/
def portRun : List (CoreOp (List UInt8)) :=
  requestFrames RBSP_CAN_ID_DISCOVERY 1 Command.nodeAssign (List.replicate 16 0 ++ [1, 0, 0, 0]) ++
    requestFrames (RBSP_CAN_ID_REQUEST_BASE + 1) 2 Command.uartCreate
      [0, 0x00, 0xC2, 0x01, 0x00, 8, 1, 0, 1] ++ [.poll, .poll]

/-- The first UART resource, whose object the request makes. -/
def firstPlace : Fin portConfig.uartResourceCount := ⟨0, by decide⟩

/-- Eight of the ten bytes are sent, and two are pending. -/
theorem uart_stream_intact_ten : ∃ payloads : List (List UInt8),
    eventsSent firstPlace ((firmware portConfig portBoard (Core.traffic portBoard)).outcomes
      (portCore [0, 1, 2, 3, 4, 5, 6, 7, 8, 9]) portRun).flatten = numberedEvents 1 payloads ∧
    payloads.flatten ++ [8, 9] = [0, 1, 2, 3, 4, 5, 6, 7, 8, 9] := by
  have hobject : ((firmware portConfig portBoard (Core.traffic portBoard)).run
      (portCore [0, 1, 2, 3, 4, 5, 6, 7, 8, 9]) portRun).uartObjects firstPlace =
        some ⟨1, 0, true, [8, 9], 0, 1⟩ := by decide +kernel
  have hbytes : bytesRead firstPlace
      ((firmware portConfig portBoard (Core.traffic portBoard)).outcomes
      (portCore [0, 1, 2, 3, 4, 5, 6, 7, 8, 9]) portRun).flatten =
        [0, 1, 2, 3, 4, 5, 6, 7, 8, 9] := by decide +kernel
  have hread : ∀ uartRead ∈ portBoard.hal.uartRead, ∀ world port capacity,
      (uartRead world port capacity).1.length ≤ capacity := by
    intro uartRead huart world port capacity
    obtain rfl := Option.some.inj huart
    exact List.length_take_le _ _
  have h := uart_stream_intact portBoard hread _ (portCore [0, 1, 2, 3, 4, 5, 6, 7, 8, 9]) rfl
    portRun firstPlace _ hobject rfl
  rw [hbytes] at h
  exact h

end RemoteBSP.Firmware
