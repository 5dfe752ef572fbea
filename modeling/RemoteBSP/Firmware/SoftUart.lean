import RemoteBSP.Firmware.ByteRing

/-!
# The single-wire UART of the firmware

`firmware/src/soft_half_duplex_uart.c`: a UART in software, for the drivers of stepper motors that
answer on the wire on which they are asked. A write transmits its bytes bit by bit, lets the line
go, and receives what comes back into the ring of the port. The callbacks of the board are the
fields of a `SoftUartHal`, and what they do to the world is up to them.

The caller takes a write that fails for one that has not happened, and tries it again. The write
fails before it has transmitted anything, but also behind the transmission: if the board cannot
make the line an input, or if more bytes come back than the ring has room for
(`failed_write_transmits`). Except for these two cases a write that fails has transmitted nothing
(`failed_write_silent_iff`). The polling of the line for a start bit has a bound here, so that
every definition is total; a write that needs more polls has no outcome.
-/

namespace RemoteBSP.Firmware

/-- `CONFIG_SOFT_HALF_DUPLEX_UART_BAUD`, the only rate that a port is configured with. -/
def CONFIG_SOFT_HALF_DUPLEX_UART_BAUD : UInt32 := 40000

/-- `RBSP_SOFT_UART_MAX_WRITE_BYTES`, above which a write is refused. -/
def RBSP_SOFT_UART_MAX_WRITE_BYTES : ℕ := 32

/-- `RBSP_SOFT_UART_FIRST_RESPONSE_TIMEOUT_US`, to wait for the first byte of the answer. -/
def RBSP_SOFT_UART_FIRST_RESPONSE_TIMEOUT_US : UInt16 := 3000

/-- `RBSP_SOFT_UART_NEXT_RESPONSE_TIMEOUT_US`, to wait for each further byte. -/
def RBSP_SOFT_UART_NEXT_RESPONSE_TIMEOUT_US : UInt16 := 250

/-- `RBSP_SOFT_UART_START_POLL_HZ`, how often the line is looked at for a start bit. -/
def RBSP_SOFT_UART_START_POLL_HZ : UInt32 := 2000000

/-- `rbsp_soft_half_duplex_uart_hal_t`: the callbacks of the board, with the world that they act
on. -/
structure SoftUartHal (W : Type) where
  /-- `port_prepare`, which makes a pin ready for use. -/
  portPrepare : UInt8 → W → Bool × W
  /-- `set_output`, which drives the line. -/
  setOutput : UInt8 → Bool → W → Bool × W
  /-- `set_input`, which lets go of the line. -/
  setInput : UInt8 → W → Bool × W
  /-- `read_input`: the level, or nothing if the line cannot be read. -/
  readInput : UInt8 → W → Option Bool × W
  /-- `timing_hz`, the rate of the ticks by which delays are given. -/
  timingHz : UInt32
  /-- `delay_ticks`, which lets time pass. -/
  delayTicks : UInt32 → W → W
  /-- `irq_save_disable`, which returns whether interrupts were on. -/
  irqSaveDisable : W → UInt32 × W
  /-- `irq_restore`, with what `irq_save_disable` has returned. -/
  irqRestore : UInt32 → W → W

/-- `rbsp_soft_half_duplex_uart_port_t`, what is remembered of a line. -/
structure SoftUartPort where
  /-- The bytes received and not read, with `receive_storage`. -/
  receiveRing : ByteRing
  /-- Whether the port has been configured. -/
  configured : Bool
deriving DecidableEq, Repr

/-- `rbsp_soft_half_duplex_uart_t`. There are `CONFIG_SOFT_HALF_DUPLEX_UART_PORT_COUNT` ports. -/
structure SoftUart (W : Type) where
  /-- The callbacks of the board. -/
  hal : SoftUartHal W
  /-- The lines, by the number of the port. -/
  ports : List SoftUartPort

/-- `rbsp_soft_uart_timing_t`, half a bit in ticks, with what the delays so far owe of a tick. -/
structure SoftUartTiming where
  /-- The whole ticks of half a bit. -/
  wholeTicks : UInt32
  /-- What is left of half a bit, in parts of a tick. -/
  remainder : UInt32
  /-- The parts that a tick is divided into. -/
  divisor : UInt32
  /-- The parts of a tick by which the delays have been too short so far. -/
  accumulator : UInt32
deriving DecidableEq, Repr

namespace SoftUart

variable {W : Type}

/-- `timing_init`, which fails if half a bit is shorter than a tick. -/
def timingInit (hal : SoftUartHal W) : Option SoftUartTiming :=
  let divisor := CONFIG_SOFT_HALF_DUPLEX_UART_BAUD * 2
  if divisor = 0 ∨ hal.timingHz < divisor then none
  else
    let timing : SoftUartTiming := {
      wholeTicks := hal.timingHz / divisor
      remainder := hal.timingHz % divisor
      divisor := divisor
      accumulator := 0 }
    if timing.wholeTicks ≠ 0 then some timing else none

/-- `delay_half_bit`: the remainders of the delays add up to a tick now and then. -/
def delayHalfBit (hal : SoftUartHal W) (state : SoftUartTiming × W) : SoftUartTiming × W :=
  let timing := state.1
  let accumulator := timing.accumulator + timing.remainder
  if accumulator ≥ timing.divisor then
    ({ timing with accumulator := accumulator - timing.divisor },
      hal.delayTicks (timing.wholeTicks + 1) state.2)
  else
    ({ timing with accumulator := accumulator }, hal.delayTicks timing.wholeTicks state.2)

/-- `delay_bit`, two halves. -/
def delayBit (hal : SoftUartHal W) (state : SoftUartTiming × W) : SoftUartTiming × W :=
  delayHalfBit hal (delayHalfBit hal state)

/-- One bit of `transmit_byte`: a level, for the time of a bit. -/
def transmitBit (hal : SoftUartHal W) (port : UInt8) (state : SoftUartTiming × W) (high : Bool) :
    SoftUartTiming × W :=
  delayBit hal (state.1, (hal.setOutput port high state.2).2)

/-- A bit of a byte, the least significant one first on the line. -/
def dataBit (value : UInt8) (bit : ℕ) : Bool := value &&& (1 <<< UInt8.ofNat bit) ≠ 0

/-- `transmit_byte`: the start bit, the bits of the byte and the stop bit. -/
def transmitByte (hal : SoftUartHal W) (port : UInt8) (state : SoftUartTiming × W)
    (value : UInt8) : SoftUartTiming × W :=
  let state := transmitBit hal port state false
  let state := (List.range 8).foldl
    (fun state bit => transmitBit hal port state (dataBit value bit)) state
  transmitBit hal port state true

/-- The levels of a byte on the line. -/
def frameBits (value : UInt8) : List Bool :=
  false :: (List.range 8).map (dataBit value) ++ [true]

/-- A byte takes ten bits on the line, start and stop included. -/
theorem length_frameBits (value : UInt8) : (frameBits value).length = 10 := by
  simp [frameBits]

/-- The bits of a byte are transmitted one after the other. -/
theorem transmitByte_eq (hal : SoftUartHal W) (port : UInt8) (state : SoftUartTiming × W)
    (value : UInt8) :
    transmitByte hal port state value = (frameBits value).foldl (transmitBit hal port) state := by
  unfold transmitByte frameBits
  dsimp only
  rw [List.foldl_append, List.foldl_cons, List.foldl_nil, List.foldl_cons, List.foldl_map]

/-- The bytes are transmitted one after the other. -/
theorem transmitBytes_eq (hal : SoftUartHal W) (port : UInt8) (state : SoftUartTiming × W)
    (data : List UInt8) :
    data.foldl (transmitByte hal port) state =
      (data.flatMap frameBits).foldl (transmitBit hal port) state := by
  induction data generalizing state with
  | nil => rfl
  | cons value data ih =>
    rw [List.foldl_cons, List.flatMap_cons, List.foldl_append, transmitByte_eq, ih]

/-- The loop of `wait_for_start`: whether the line has gone low in time. There is no answer if the
loop takes more than so many polls. -/
def pollStart (hal : SoftUartHal W) (port : UInt8) (pollTicks timeoutTicks : UInt32) :
    ℕ → UInt32 → W → Option (Bool × W)
  | 0, elapsed, world => if elapsed < timeoutTicks then none else some (false, world)
  | polls + 1, elapsed, world =>
    if elapsed < timeoutTicks then
      match hal.readInput port world with
      | (none, world) => some (false, world)
      | (some false, world) => some (true, world)
      | (some true, world) =>
        pollStart hal port pollTicks timeoutTicks polls (elapsed + pollTicks)
          (hal.delayTicks pollTicks world)
    else some (false, world)

/-- `wait_for_start`: the line is looked at until it is low or the time is over. -/
def waitForStart (polls : ℕ) (hal : SoftUartHal W) (port : UInt8) (timeoutUs : UInt16)
    (world : W) : Option (Bool × W) :=
  let pollTicks := (hal.timingHz + RBSP_SOFT_UART_START_POLL_HZ - 1) / RBSP_SOFT_UART_START_POLL_HZ
  let timeoutTicks := (hal.timingHz.toUInt64 * timeoutUs.toUInt64 / 1000000).toUInt32
  pollStart hal port pollTicks timeoutTicks polls 0 world

/-- The loop of `receive_byte` over the bits. -/
def receiveBits (hal : SoftUartHal W) (port : UInt8) :
    List ℕ → UInt8 → SoftUartTiming × W → Option UInt8 × (SoftUartTiming × W)
  | [], received, state => (some received, state)
  | bit :: bits, received, (timing, world) =>
    match hal.readInput port world with
    | (none, world) => (none, (timing, world))
    | (some high, world) =>
      receiveBits hal port bits (if high then received ||| (1 <<< UInt8.ofNat bit) else received)
        (delayBit hal (timing, world))

/-- `receive_byte`, behind the edge of a start bit. -/
def receiveByte (hal : SoftUartHal W) (port : UInt8) (state : SoftUartTiming × W) :
    Option UInt8 × W :=
  let state := delayHalfBit hal (delayHalfBit hal (delayHalfBit hal state))
  match receiveBits hal port (List.range 8) 0 state with
  | (none, state) => (none, state.2)
  | (some received, state) =>
    match hal.readInput port state.2 with
    | (some true, world) => (some received, world)
    | (_, world) => (none, world)

/-- What the condition of the loop of `write` and the first `if` in it do: the next byte from the
line, if there is one. -/
def nextByte (polls : ℕ) (hal : SoftUartHal W) (port : UInt8) (timeoutUs : UInt16) (world : W) :
    Option (Option UInt8 × W) :=
  match waitForStart polls hal port timeoutUs world with
  | none => none
  | some (false, world) => some (none, world)
  | some (true, world) =>
    match timingInit hal with
    | none => some (none, world)
    | some timing => some (receiveByte hal port (timing, world))

/-- The loop of `write` that receives. As each byte needs room in the ring, one round more than
there is room always suffices. -/
def receiveLoop (polls : ℕ) (hal : SoftUartHal W) (port : UInt8) :
    ℕ → UInt16 → ByteRing → W → Option (Bool × ByteRing × W)
  | 0, _, ring, world => some (true, ring, world)
  | rounds + 1, timeoutUs, ring, world =>
    match nextByte polls hal port timeoutUs world with
    | none => none
    | some (none, world) => some (true, ring, world)
    | some (some received, world) =>
      match ring.push received with
      | (ring, false) => some (false, ring, world)
      | (ring, true) =>
        receiveLoop polls hal port rounds RBSP_SOFT_UART_NEXT_RESPONSE_TIMEOUT_US ring world

/-- The part of `write` that transmits, behind the first `set_output`. -/
def transmit (hal : SoftUartHal W) (port : UInt8) (data : List UInt8) (timing : SoftUartTiming)
    (world : W) : W :=
  let state := delayBit hal (delayBit hal (timing, world))
  (data.foldl (transmitByte hal port) state).2

/-- `port_valid`, with the port that it checks. -/
def port? (uart : SoftUart W) (port : UInt8) : Option SoftUartPort := uart.ports[port.toNat]?

/-- Puts the ring of a port back. -/
def store (uart : SoftUart W) (port : UInt8) (entry : SoftUartPort) : SoftUart W :=
  { uart with ports := uart.ports.set port.toNat entry }

/-- `rbsp_soft_half_duplex_uart_write`: the bytes are sent, and the answer is awaited. -/
def write (polls : ℕ) (uart : SoftUart W) (port : UInt8) (data : List UInt8) (world : W) :
    Option (Bool × SoftUart W × W) :=
  match uart.port? port with
  | none => some (false, uart, world)
  | some entry =>
    if data.length = 0 ∨ data.length > RBSP_SOFT_UART_MAX_WRITE_BYTES ∨ !entry.configured then
      some (false, uart, world)
    else
      match timingInit uart.hal with
      | none => some (false, uart, world)
      | some timing =>
        let (interruptState, world) := uart.hal.irqSaveDisable world
        match uart.hal.setOutput port true world with
        | (false, world) => some (false, uart, uart.hal.irqRestore interruptState world)
        | (true, world) =>
          match uart.hal.setInput port (transmit uart.hal port data timing world) with
          | (false, world) => some (false, uart, uart.hal.irqRestore interruptState world)
          | (true, world) =>
            (receiveLoop polls uart.hal port (entry.receiveRing.free + 1)
              RBSP_SOFT_UART_FIRST_RESPONSE_TIMEOUT_US entry.receiveRing world).map
                fun (success, ring, world) =>
                  (success, uart.store port { entry with receiveRing := ring },
                    uart.hal.irqRestore interruptState world)

/-- `rbsp_soft_half_duplex_uart_configure`, which accepts one format only. -/
def configure (uart : SoftUart W) (port : UInt8) (baudRate : UInt32)
    (dataBits stopBits parity : UInt8) (world : W) : Bool × SoftUart W × W :=
  match uart.port? port with
  | none => (false, uart, world)
  | some entry =>
    if baudRate ≠ CONFIG_SOFT_HALF_DUPLEX_UART_BAUD ∨ dataBits ≠ 8 ∨ stopBits ≠ 1 ∨ parity ≠ 0 ∨
        (timingInit uart.hal).isNone then
      (false, uart, world)
    else
      match uart.hal.portPrepare port world with
      | (false, world) => (false, uart, world)
      | (true, world) =>
        match uart.hal.setInput port world with
        | (false, world) => (false, uart, world)
        | (true, world) =>
          (true, uart.store port ⟨entry.receiveRing.clear, true⟩, world)

/-- `rbsp_soft_half_duplex_uart_read`: the bytes received so far, up to the capacity. -/
def read (uart : SoftUart W) (port : UInt8) (capacity : ℕ) : SoftUart W × List UInt8 :=
  match uart.port? port with
  | none => (uart, [])
  | some entry =>
    if !entry.configured then (uart, [])
    else
      let (ring, data) := entry.receiveRing.read capacity
      (uart.store port { entry with receiveRing := ring }, data)

/-- `rbsp_soft_half_duplex_uart_init`, with the storage of each port. -/
def init (hal : SoftUartHal W) (storages : List (List UInt8)) : Option (SoftUart W) :=
  if hal.timingHz = 0 then none
  else (storages.mapM ByteRing.init).map fun rings =>
    ⟨hal, rings.map fun ring => ⟨ring, false⟩⟩

end SoftUart

/-! ## The outputs -/

/-- A call of `set_output`, with what came of it. -/
structure OutputCall where
  /-- The port whose line is driven. -/
  port : UInt8
  /-- The level that the line is driven to. -/
  high : Bool
  /-- What the board has returned. -/
  succeeded : Bool
deriving DecidableEq, Repr

/-- The same board, with a log of the calls of `set_output`. -/
def SoftUartHal.logged {W : Type} (hal : SoftUartHal W) : SoftUartHal (W × List OutputCall) where
  portPrepare port state :=
    ((hal.portPrepare port state.1).1, (hal.portPrepare port state.1).2, state.2)
  setOutput port high state :=
    ((hal.setOutput port high state.1).1, (hal.setOutput port high state.1).2,
      state.2 ++ [⟨port, high, (hal.setOutput port high state.1).1⟩])
  setInput port state := ((hal.setInput port state.1).1, (hal.setInput port state.1).2, state.2)
  readInput port state := ((hal.readInput port state.1).1, (hal.readInput port state.1).2, state.2)
  timingHz := hal.timingHz
  delayTicks ticks state := (hal.delayTicks ticks state.1, state.2)
  irqSaveDisable state := ((hal.irqSaveDisable state.1).1, (hal.irqSaveDisable state.1).2, state.2)
  irqRestore interruptState state := (hal.irqRestore interruptState state.1, state.2)

namespace SoftUart

variable {W : Type}

/-- The same UART, on the board with a log. -/
def logged (uart : SoftUart W) : SoftUart (W × List OutputCall) :=
  ⟨uart.hal.logged, uart.ports⟩

/-- The start bit of one of so many bytes has been driven. The first call makes the line high, and
each byte takes ten more. -/
def StartDriven (port : UInt8) (count : ℕ) (log : List OutputCall) : Prop :=
  ∃ i < count, log[1 + 10 * i]? = some ⟨port, false, true⟩

/-- A write that fails has driven no start bit. -/
def SilentIfFailed (uart : SoftUart W) (port : UInt8) (data : List UInt8) (world : W) :
    Prop :=
  ∀ polls uart' state, uart.logged.write polls port data (world, []) = some (false, uart', state) →
    ¬StartDriven port data.length state.2

/-- The port and the world behind the transmission, if the write gets so far. -/
def transmitted (uart : SoftUart W) (port : UInt8) (data : List UInt8) (world : W) :
    Option (SoftUartPort × W) :=
  match uart.port? port with
  | none => none
  | some entry =>
    if data.length = 0 ∨ data.length > RBSP_SOFT_UART_MAX_WRITE_BYTES ∨ !entry.configured then none
    else
      match timingInit uart.hal with
      | none => none
      | some timing =>
        match uart.hal.setOutput port true (uart.hal.irqSaveDisable world).2 with
        | (false, _) => none
        | (true, world) => some (entry, transmit uart.hal port data timing world)

/-- More bytes come back than there is room for. -/
def Overruns (polls : ℕ) (hal : SoftUartHal W) (port : UInt8) : ℕ → UInt16 → W → Prop
  | 0, timeoutUs, world =>
    ∃ received world', nextByte polls hal port timeoutUs world = some (some received, world')
  | room + 1, timeoutUs, world =>
    ∃ received world', nextByte polls hal port timeoutUs world = some (some received, world') ∧
      Overruns polls hal port room RBSP_SOFT_UART_NEXT_RESPONSE_TIMEOUT_US world'

/-- Whatever has been transmitted, the line can be made an input then, and no more bytes come back
than the ring of the port has room for. -/
def AnswerFits (uart : SoftUart W) (port : UInt8) (data : List UInt8) (world : W) : Prop :=
  ∀ entry world' log, uart.logged.transmitted port data (world, []) = some (entry, world', log) →
    StartDriven port data.length log →
      (uart.hal.setInput port world').1 = true ∧
      ∀ polls, ¬Overruns polls uart.hal port entry.receiveRing.free
        RBSP_SOFT_UART_FIRST_RESPONSE_TIMEOUT_US (uart.hal.setInput port world').2

/-- The rings of the ports are in order. -/
def Valid (uart : SoftUart W) : Prop :=
  ∀ entry ∈ uart.ports, ∃ queue, entry.receiveRing.Represents queue

/-! ## The ports stay in order -/

/-- A port is found among the ports. -/
theorem mem_of_port {uart : SoftUart W} {port : UInt8} {entry : SoftUartPort}
    (h : uart.port? port = some entry) : entry ∈ uart.ports := List.mem_of_getElem? h

/-- A ring in order may be put back. -/
theorem Valid.store {uart : SoftUart W} (h : uart.Valid) (port : UInt8) {entry : SoftUartPort}
    {queue : List UInt8} (hqueue : entry.receiveRing.Represents queue) :
    (uart.store port entry).Valid := by
  intro other hother
  rcases List.mem_or_eq_of_mem_set hother with hmem | rfl
  · exact h other hmem
  · exact ⟨queue, hqueue⟩

/-- The rings are in order in the beginning. -/
theorem valid_init {hal : SoftUartHal W} {storages : List (List UInt8)} {uart : SoftUart W}
    (h : init hal storages = some uart) : uart.Valid := by
  unfold init at h
  split_ifs at h
  obtain ⟨rings, hrings, rfl⟩ := Option.map_eq_some_iff.1 h
  have hempty : ∀ ring ∈ rings, ring.Represents [] := by
    clear h
    induction storages generalizing rings with
    | nil =>
      obtain rfl : [] = rings := Option.some.inj hrings
      exact nofun
    | cons storage storages ih =>
      rw [List.mapM_cons, Option.bind_eq_bind, Option.bind_eq_some_iff] at hrings
      obtain ⟨ring, hring, hrest⟩ := hrings
      rw [Option.bind_eq_bind, Option.bind_eq_some_iff] at hrest
      obtain ⟨others, hothers, hrings⟩ := hrest
      obtain rfl : ring :: others = rings := Option.some.inj hrings
      intro other hother
      rcases List.mem_cons.1 hother with rfl | hmem
      · exact (ByteRing.represents_init hring).1
      · exact ih others hothers other hmem
  intro entry hentry
  obtain ⟨ring, hring, rfl⟩ := List.mem_map.1 hentry
  exact ⟨[], hempty ring hring⟩

/-- Configuring a port keeps the rings in order. -/
theorem Valid.configure {uart : SoftUart W} (h : uart.Valid) (port : UInt8) (baudRate : UInt32)
    (dataBits stopBits parity : UInt8) (world : W) :
    (uart.configure port baudRate dataBits stopBits parity world).2.1.Valid := by
  unfold SoftUart.configure
  cases hport : uart.port? port with
  | none => exact h
  | some entry =>
    dsimp only
    obtain ⟨queue, hqueue⟩ := h entry (mem_of_port hport)
    split_ifs
    · exact h
    · split
      · exact h
      · split
        · exact h
        · exact h.store port hqueue.clear

/-- Reading keeps the rings in order. -/
theorem Valid.read {uart : SoftUart W} (h : uart.Valid) (port : UInt8) (capacity : ℕ) :
    (uart.read port capacity).1.Valid := by
  unfold SoftUart.read
  cases hport : uart.port? port with
  | none => exact h
  | some entry =>
    dsimp only
    obtain ⟨queue, hqueue⟩ := h entry (mem_of_port hport)
    split_ifs
    · exact h
    · exact h.store port (hqueue.read capacity).2.1

/-! ## What comes back is not logged -/

section Logged

variable (hal : SoftUartHal W) (port : UInt8) (log : List OutputCall)

/-- Reading the line is not logged. -/
theorem readInput_logged (world : W) :
    hal.logged.readInput port (world, log) =
      ((hal.readInput port world).1, (hal.readInput port world).2, log) := rfl

/-- A delay by half a bit calls no `set_output`. -/
theorem delayHalfBit_logged (state : SoftUartTiming × W) :
    delayHalfBit hal.logged (state.1, state.2, log) =
      ((delayHalfBit hal state).1, (delayHalfBit hal state).2, log) := by
  unfold delayHalfBit
  dsimp only
  split_ifs <;> rfl

/-- A delay by a whole bit calls no `set_output`. -/
theorem delayBit_logged (state : SoftUartTiming × W) :
    delayBit hal.logged (state.1, state.2, log) =
      ((delayBit hal state).1, (delayBit hal state).2, log) := by
  rw [delayBit, delayHalfBit_logged, delayHalfBit_logged, delayBit]

/-- Looking at the line calls no `set_output`. -/
theorem pollStart_logged (pollTicks timeoutTicks : UInt32) (polls : ℕ) (elapsed : UInt32)
    (world : W) :
    pollStart hal.logged port pollTicks timeoutTicks polls elapsed (world, log) =
      (pollStart hal port pollTicks timeoutTicks polls elapsed world).map
        fun outcome => (outcome.1, outcome.2, log) := by
  induction polls generalizing elapsed world with
  | zero =>
    unfold pollStart
    split_ifs <;> rfl
  | succ polls ih =>
    unfold pollStart
    split_ifs with hwait
    · rw [readInput_logged]
      rcases hal.readInput port world with ⟨_ | _ | _, world'⟩
      · rfl
      · rfl
      · exact ih _ _
    · rfl

/-- Receiving the bits of a byte calls no `set_output`. -/
theorem receiveBits_logged (bits : List ℕ) (received : UInt8) (state : SoftUartTiming × W) :
    receiveBits hal.logged port bits received (state.1, state.2, log) =
      ((receiveBits hal port bits received state).1,
        (receiveBits hal port bits received state).2.1,
        (receiveBits hal port bits received state).2.2, log) := by
  induction bits generalizing received state with
  | nil => rfl
  | cons bit bits ih =>
    obtain ⟨timing, world⟩ := state
    rw [receiveBits, receiveBits, readInput_logged]
    rcases hal.readInput port world with ⟨_ | high, world'⟩
    · rfl
    · have hdelay := delayBit_logged hal log (timing, world')
      dsimp only at hdelay ⊢
      rw [hdelay, ih]

/-- Receiving a byte calls no `set_output`. -/
theorem receiveByte_logged (state : SoftUartTiming × W) :
    receiveByte hal.logged port (state.1, state.2, log) =
      ((receiveByte hal port state).1, (receiveByte hal port state).2, log) := by
  unfold receiveByte
  rw [delayHalfBit_logged, delayHalfBit_logged, delayHalfBit_logged]
  dsimp only
  rw [receiveBits_logged]
  rcases receiveBits hal port (List.range 8) 0
    (delayHalfBit hal (delayHalfBit hal (delayHalfBit hal state))) with
    ⟨_ | received, timing', world'⟩
  · rfl
  · dsimp only
    rw [readInput_logged]
    rcases hal.readInput port world' with ⟨_ | _ | _, world''⟩ <;> rfl

/-- Waiting for the next byte and receiving it calls no `set_output`. -/
theorem nextByte_logged (polls : ℕ) (timeoutUs : UInt16) (world : W) :
    nextByte polls hal.logged port timeoutUs (world, log) =
      (nextByte polls hal port timeoutUs world).map
        fun outcome => (outcome.1, outcome.2, log) := by
  unfold nextByte waitForStart
  dsimp only
  rw [show hal.logged.timingHz = hal.timingHz from rfl, pollStart_logged]
  rcases pollStart hal port _ _ polls 0 world with _ | ⟨_ | _, world'⟩
  · rfl
  · rfl
  · dsimp only [Option.map_some]
    rw [show timingInit hal.logged = timingInit hal from rfl]
    cases timingInit hal with
    | none => rfl
    | some timing => exact congrArg some (receiveByte_logged hal port log (timing, world'))

/-- The loop that receives the answer calls no `set_output`. -/
theorem receiveLoop_logged (polls rounds : ℕ) (timeoutUs : UInt16) (ring : ByteRing)
    (world : W) :
    receiveLoop polls hal.logged port rounds timeoutUs ring (world, log) =
      (receiveLoop polls hal port rounds timeoutUs ring world).map
        fun outcome => (outcome.1, outcome.2.1, outcome.2.2, log) := by
  induction rounds generalizing timeoutUs ring world with
  | zero => rfl
  | succ rounds ih =>
    unfold receiveLoop
    rw [nextByte_logged]
    rcases nextByte polls hal port timeoutUs world with _ | ⟨_ | received, world'⟩
    · rfl
    · rfl
    · dsimp only [Option.map_some]
      rcases ring.push received with ⟨ring', _ | _⟩
      · rfl
      · exact ih _ _ _

end Logged

/-! ## Writes that fail -/

/-- A write behind its transmission, in terms of the loop that receives the answer. -/
theorem write_of_transmitted {uart : SoftUart W} {port : UInt8} {data : List UInt8}
    {world world' : W} {entry : SoftUartPort}
    (h : uart.transmitted port data world = some (entry, world')) (polls : ℕ) :
    uart.port? port = some entry ∧
    uart.write polls port data world =
      if (uart.hal.setInput port world').1 then
        (receiveLoop polls uart.hal port (entry.receiveRing.free + 1)
          RBSP_SOFT_UART_FIRST_RESPONSE_TIMEOUT_US entry.receiveRing
          (uart.hal.setInput port world').2).map fun outcome =>
            (outcome.1, uart.store port { entry with receiveRing := outcome.2.1 },
              uart.hal.irqRestore (uart.hal.irqSaveDisable world).1 outcome.2.2)
      else
        some (false, uart, uart.hal.irqRestore (uart.hal.irqSaveDisable world).1
          (uart.hal.setInput port world').2) := by
  unfold transmitted at h
  unfold write
  -- The checks of the write are those before its transmission.
  cases hport : uart.port? port with
  | none => rw [hport] at h; exact absurd h nofun
  | some found =>
    rw [hport] at h
    dsimp only at h ⊢
    by_cases hbad : data.length = 0 ∨ data.length > RBSP_SOFT_UART_MAX_WRITE_BYTES ∨
        (!found.configured) = true
    · rw [if_pos hbad] at h
      exact absurd h nofun
    rw [if_neg hbad] at h ⊢
    cases htiming : timingInit uart.hal with
    | none => rw [htiming] at h; exact absurd h nofun
    | some timing =>
      rw [htiming] at h
      dsimp only at h ⊢
      -- The pin has been opened, and the bytes have been transmitted.
      cases hopen : uart.hal.setOutput port true (uart.hal.irqSaveDisable world).2 with
      | mk success opened =>
        rw [hopen] at h
        cases success with
        | false => exact absurd h nofun
        | true =>
          obtain ⟨rfl, rfl⟩ := Prod.mk.inj (Option.some.inj h)
          dsimp only
          -- What remains is to release the pin and to receive the answer.
          rcases uart.hal.setInput port (transmit uart.hal port data timing opened) with
            ⟨_ | _, released⟩
          · exact ⟨rfl, rfl⟩
          · exact ⟨rfl, rfl⟩

/-- A write that does not get as far as the transmission fails, and has called `set_output` at most
once. -/
theorem write_of_not_transmitted {uart : SoftUart W} {port : UInt8} {data : List UInt8}
    {world : W} (h : uart.transmitted port data world = none) (polls : ℕ) :
    uart.write polls port data world = some (false, uart, world) ∨
      uart.write polls port data world =
        some (false, uart, uart.hal.irqRestore (uart.hal.irqSaveDisable world).1
          (uart.hal.setOutput port true (uart.hal.irqSaveDisable world).2).2) := by
  unfold transmitted at h
  unfold write
  cases hport : uart.port? port with
  | none => exact .inl rfl
  | some entry =>
    rw [hport] at h
    dsimp only at h ⊢
    split_ifs at h ⊢ with hbad
    · exact .inl rfl
    · cases htiming : timingInit uart.hal with
      | none => exact .inl rfl
      | some timing =>
        rw [htiming] at h
        dsimp only at h ⊢
        cases hopen : uart.hal.setOutput port true (uart.hal.irqSaveDisable world).2 with
        | mk success opened =>
          rw [hopen] at h
          cases success with
          | false => exact .inr rfl
          | true => exact absurd h nofun

/-- A ring takes a byte if there is room, and has less room then. -/
theorem push_free {ring : ByteRing} {queue : List UInt8} (h : ring.Represents queue)
    (value : UInt8) :
    (ring.free = 0 ∧ ring.push value = (ring, false)) ∨
      ∃ ring', ring.push value = (ring', true) ∧ ring'.Represents (queue ++ [value]) ∧
        ring.free = ring'.free + 1 := by
  have hfree := h.free_eq
  by_cases hroom : queue.length + 1 < ring.storageSize
  · obtain ⟨hsuccess, hnext, hsize⟩ := h.push value hroom
    refine .inr ⟨(ring.push value).1, Prod.ext rfl hsuccess, hnext, ?_⟩
    have hfree' := hnext.free_eq
    rw [hsize, List.length_append, List.length_singleton] at hfree'
    omega
  · exact .inl ⟨by omega, h.push_full value hroom⟩

/-- The loop fails if there is no room for a byte that comes back, and only then. -/
theorem receiveLoop_fails_iff {polls : ℕ} {hal : SoftUartHal W} {port : UInt8} {timeoutUs : UInt16}
    {ring : ByteRing} {queue : List UInt8} {world : W} (h : ring.Represents queue) :
    (∃ ring' world', receiveLoop polls hal port (ring.free + 1) timeoutUs ring world =
        some (false, ring', world')) ↔
      Overruns polls hal port ring.free timeoutUs world := by
  generalize hroom : ring.free = room
  induction room generalizing timeoutUs ring queue world with
  | zero =>
    rw [receiveLoop, Overruns]
    rcases nextByte polls hal port timeoutUs world with _ | ⟨_ | received, next⟩
    · exact ⟨nofun, nofun⟩
    · exact ⟨nofun, nofun⟩
    · rcases push_free h received with ⟨-, hfull⟩ | ⟨ring', hpush, -, hfree⟩
      · dsimp only
        rw [hfull]
        exact ⟨fun _ => ⟨_, _, rfl⟩, fun _ => ⟨_, _, rfl⟩⟩
      · omega
  | succ room ih =>
    rw [receiveLoop, Overruns]
    rcases nextByte polls hal port timeoutUs world with _ | ⟨_ | received, next⟩
    · exact ⟨nofun, nofun⟩
    · exact ⟨nofun, nofun⟩
    · rcases push_free h received with ⟨hfree, -⟩ | ⟨ring', hpush, hnext, hfree⟩
      · omega
      · dsimp only
        rw [hpush]
        dsimp only
        rw [ih hnext (by omega)]
        constructor
        · exact fun hrest => ⟨received, next, rfl, hrest⟩
        · rintro ⟨received', next', heq, hrest⟩
          cases heq
          exact hrest

/-- A write fails behind its transmission if the line cannot be made an input, or if more bytes come
back than there is room for, and only then. Nothing is driven any more. -/
theorem write_logged_fails_iff {uart : SoftUart W} (hvalid : uart.Valid) {port : UInt8}
    {data : List UInt8} {world world' : W} {entry : SoftUartPort} {log : List OutputCall}
    (h : uart.logged.transmitted port data (world, []) = some (entry, world', log)) (polls : ℕ) :
    ((∃ uart' state, uart.logged.write polls port data (world, []) = some (false, uart', state)) ↔
      ((uart.hal.setInput port world').1 = true →
        Overruns polls uart.hal port entry.receiveRing.free
          RBSP_SOFT_UART_FIRST_RESPONSE_TIMEOUT_US (uart.hal.setInput port world').2)) ∧
    ∀ outcome ∈ uart.logged.write polls port data (world, []), outcome.2.2.2 = log := by
  obtain ⟨hport, hwrite⟩ := write_of_transmitted h polls
  obtain ⟨queue, hqueue⟩ := hvalid entry (mem_of_port hport)
  have hinput : uart.logged.hal.setInput port (world', log) =
      ((uart.hal.setInput port world').1, (uart.hal.setInput port world').2, log) := rfl
  rw [hwrite, hinput, ← receiveLoop_fails_iff hqueue]
  dsimp only
  rw [show uart.logged.hal = uart.hal.logged from rfl, receiveLoop_logged, Option.map_map]
  by_cases hreleased : (uart.hal.setInput port world').1 = true
  · rw [if_pos hreleased]
    rcases receiveLoop polls uart.hal port (entry.receiveRing.free + 1)
      RBSP_SOFT_UART_FIRST_RESPONSE_TIMEOUT_US entry.receiveRing
      (uart.hal.setInput port world').2 with _ | ⟨_ | _, ring, last⟩
    · exact ⟨⟨nofun, fun h => absurd (h hreleased) nofun⟩, nofun⟩
    · refine ⟨⟨fun _ _ => ⟨_, _, rfl⟩, fun _ => ⟨_, _, rfl⟩⟩, fun outcome houtcome => ?_⟩
      cases houtcome
      rfl
    · refine ⟨⟨nofun, fun h => absurd (h hreleased) nofun⟩, fun outcome houtcome => ?_⟩
      cases houtcome
      rfl
  · rw [if_neg hreleased]
    refine ⟨⟨fun _ h => absurd h hreleased, fun _ => ⟨_, _, rfl⟩⟩, fun outcome houtcome => ?_⟩
    cases houtcome
    rfl

/-- The loop that receives keeps the ring in order. -/
theorem represents_receiveLoop {polls : ℕ} {hal : SoftUartHal W} {port : UInt8} {rounds : ℕ}
    {timeoutUs : UInt16} {ring ring' : ByteRing} {queue : List UInt8} {world world' : W}
    {success : Bool} (h : ring.Represents queue)
    (hloop : receiveLoop polls hal port rounds timeoutUs ring world =
      some (success, ring', world')) : ∃ queue', ring'.Represents queue' := by
  induction rounds generalizing timeoutUs ring queue world with
  | zero =>
    cases hloop
    exact ⟨queue, h⟩
  | succ rounds ih =>
    rw [receiveLoop] at hloop
    rcases hnext : nextByte polls hal port timeoutUs world with _ | ⟨_ | received, next⟩
    · rw [hnext] at hloop
      exact absurd hloop nofun
    · rw [hnext] at hloop
      cases hloop
      exact ⟨queue, h⟩
    · rw [hnext] at hloop
      dsimp only at hloop
      rcases push_free h received with ⟨-, hfull⟩ | ⟨ring'', hpush, hqueue, -⟩
      · rw [hfull] at hloop
        cases hloop
        exact ⟨queue, h⟩
      · rw [hpush] at hloop
        exact ih hqueue hloop

/-- Writing keeps the rings in order. -/
theorem Valid.write {uart uart' : SoftUart W} (h : uart.Valid) {polls : ℕ} {port : UInt8}
    {data : List UInt8} {world world' : W} {success : Bool}
    (hwrite : uart.write polls port data world = some (success, uart', world')) :
    uart'.Valid := by
  cases htransmitted : uart.transmitted port data world with
  | none =>
    rcases write_of_not_transmitted htransmitted polls with hfails | hfails
    · rw [hfails] at hwrite
      cases hwrite
      exact h
    · rw [hfails] at hwrite
      cases hwrite
      exact h
  | some behind =>
    obtain ⟨entry, behind⟩ := behind
    obtain ⟨hport, hbehind⟩ := write_of_transmitted htransmitted polls
    obtain ⟨queue, hqueue⟩ := h entry (mem_of_port hport)
    rw [hbehind] at hwrite
    split_ifs at hwrite
    · obtain ⟨⟨success', ring, last⟩, hloop, heq⟩ := Option.map_eq_some_iff.1 hwrite
      obtain ⟨queue', hqueue'⟩ := represents_receiveLoop hqueue hloop
      cases heq
      exact h.store port hqueue'
    · cases hwrite
      exact h

/-- Nothing has been driven without a transmission. -/
theorem not_startDriven_of_length_le {port : UInt8} {count : ℕ} {log : List OutputCall}
    (h : log.length ≤ 1) : ¬StartDriven port count log := by
  rintro ⟨i, -, hcall⟩
  rw [List.getElem?_eq_none (by omega)] at hcall
  exact absurd hcall nofun

/-- A write that fails has driven no start bit, in whatever states the port and the board are, if
and only if the line can be made an input behind the transmission, and no more bytes come back than
there is room for. -/
theorem failed_write_silent_iff {W : Type} (uart : SoftUart W) (hvalid : uart.Valid)
    (port : UInt8) (data : List UInt8) (world : W) :
    uart.SilentIfFailed port data world ↔ uart.AnswerFits port data world := by
  constructor
  · intro hsilent entry world' log htransmitted hdriven
    -- Each of the two ways to fail would leave the log as it is.
    have hfails := fun polls => write_logged_fails_iff hvalid htransmitted polls
    have hsucceeds : ∀ polls, ¬∃ uart' state,
        uart.logged.write polls port data (world, []) = some (false, uart', state) := by
      rintro polls ⟨uart', state, hwrite⟩
      have hlog : state.2 = log := (hfails polls).2 _ hwrite
      exact hsilent polls uart' state hwrite (hlog ▸ hdriven)
    have hinput : (uart.hal.setInput port world').1 = true := by
      by_contra hinput
      exact hsucceeds 0 ((hfails 0).1.2 fun h => absurd h hinput)
    exact ⟨hinput, fun polls hoverruns => hsucceeds polls ((hfails polls).1.2 fun _ => hoverruns)⟩
  · intro hfits polls uart' state hwrite hdriven
    cases htransmitted : uart.logged.transmitted port data (world, []) with
    | none =>
      rcases write_of_not_transmitted htransmitted polls with hfails | hfails
      · rw [hfails] at hwrite
        cases hwrite
        have hlength : ([] : List OutputCall).length ≤ 1 := Nat.zero_le 1
        exact not_startDriven_of_length_le hlength hdriven
      · rw [hfails] at hwrite
        cases hwrite
        have hlength : ∀ call : OutputCall, [call].length ≤ 1 := fun _ => Nat.le_refl 1
        exact not_startDriven_of_length_le (hlength _) hdriven
    | some behind =>
      obtain ⟨entry, world', log⟩ := behind
      obtain ⟨hiff, hlog⟩ := write_logged_fails_iff hvalid htransmitted polls
      have hstate : state.2 = log := hlog _ hwrite
      obtain ⟨hinput, hroom⟩ := hfits entry world' log htransmitted (hstate ▸ hdriven)
      exact hroom polls (hiff.1 ⟨uart', state, hwrite⟩ hinput)

/-! ## A full ring -/

/-- A line on which one byte comes back as soon as it is read. The world counts the reads. -/
def answeringHal : SoftUartHal ℕ where
  portPrepare _ reads := (true, reads)
  setOutput _ _ reads := (true, reads)
  setInput _ reads := (true, reads)
  readInput _ reads := (some (reads ≠ 0), reads + 1)
  timingHz := 48000000
  delayTicks _ reads := reads
  irqSaveDisable reads := (0, reads)
  irqRestore _ reads := reads

/-- A port with as many unread bytes in its ring of 16 bytes. -/
def answeringUart (unread : ℕ) : SoftUart ℕ :=
  ⟨answeringHal, [⟨⟨List.replicate 16 0, unread, 0⟩, true⟩]⟩

/-- The ring of the port that answers is in order. -/
theorem valid_answeringUart {unread : ℕ} (h : unread < 16) : (answeringUart unread).Valid := by
  intro entry hentry
  obtain rfl := List.mem_singleton.1 hentry
  have hsize : 2 ≤ 16 ∧ 0 < 16 := by decide
  refine ⟨List.replicate unread 0, ⟨hsize.1, hsize.2, ?_, ?_, ?_⟩⟩
  · rw [List.length_replicate]
    exact h
  · rw [List.length_replicate, Nat.zero_add]
    exact (Nat.mod_eq_of_lt h).symm
  · intro i hi
    rw [List.length_replicate] at hi
    have hlt : i < 16 := hi.trans h
    show (List.replicate 16 (0 : UInt8))[(0 + i) % 16]? = _
    rw [Nat.zero_add, Nat.mod_eq_of_lt hlt, List.getElem?_replicate, List.getElem?_replicate,
      if_pos hlt, if_pos hi]

/-- The same with 15 bytes unread, on a line that the board cannot drive. -/
def undrivenUart : SoftUart ℕ :=
  ⟨{ answeringHal with setOutput := fun _ _ reads => (false, reads) }, (answeringUart 15).ports⟩

/-- With 15 bytes unread there is no room for the byte that comes back, and the write fails behind
its start bit. -/
theorem write_answeringUart_full : ∃ uart' state,
    (answeringUart 15).logged.write 1 0 [5] (0, []) = some (false, uart', state) ∧
      StartDriven 0 1 state.2 := by
  have hfails : ((answeringUart 15).logged.write 1 0 [5] (0, [])).any fun outcome =>
      !outcome.1 && decide (outcome.2.2.2[1]? = some ⟨0, false, true⟩) := by decide +kernel
  obtain ⟨⟨success, uart', state⟩, hwrite, houtcome⟩ := (Option.any_eq_true _ _).1 hfails
  obtain ⟨hfailed, hdriven⟩ := Bool.and_eq_true_iff.1 houtcome
  obtain rfl : success = false := by simpa using hfailed
  exact ⟨uart', state, hwrite, 0, Nat.zero_lt_one, of_decide_eq_true hdriven⟩

/-- A write whose line cannot be driven fails, and is silent. The one into the full ring fails too,
and since it is not silent, what comes back has not fitted. -/
theorem failed_write_silent_iff_full_ring :
    ((undrivenUart.logged.write 1 0 [5] (0, [])).map Prod.fst = some false ∧
      undrivenUart.SilentIfFailed 0 [5] 0) ∧ ¬(answeringUart 15).AnswerFits 0 [5] 0 := by
  have hvalid := valid_answeringUart (show 15 < 16 by decide)
  have hundriven : undrivenUart.Valid := hvalid
  refine ⟨⟨by decide +kernel, (failed_write_silent_iff _ hundriven 0 [5] 0).2 ?_⟩, fun hfits => ?_⟩
  · -- Nothing has been transmitted.
    intro entry world' log htransmitted
    have hnone : undrivenUart.logged.transmitted 0 [5] (0, []) = none := by rfl
    rw [hnone] at htransmitted
    cases htransmitted
  · obtain ⟨uart', state, hwrite, hdriven⟩ := write_answeringUart_full
    exact (failed_write_silent_iff _ hvalid 0 [5] 0).2 hfits 1 uart' state hwrite hdriven

/-- The write into the full ring fails, but its start bit has been driven. -/
theorem failed_write_transmits : ¬(answeringUart 15).SilentIfFailed 0 [5] 0 := by
  intro hsilent
  obtain ⟨uart', state, hwrite, hdriven⟩ := write_answeringUart_full
  exact hsilent 1 uart' state hwrite hdriven

end SoftUart

end RemoteBSP.Firmware
