import Mathlib.Tactic
import RemoteBSP.Lib.Map

/-!
# The UART ports of the mock board

`MockUartBsp` of `mock_mcu/src/uart_bsp.cpp`. The buffers never grow beyond their capacities, which
is a field, and so the subtractions from the capacities do not wrap.

The lemmas say what an operation on one port does to any port: nothing to the others.
-/

namespace RemoteBSP.MockMcu

/-- `UartParity`, the parity bit of a byte on the line. -/
inductive UartParity
  | none
  | odd
  | even
deriving DecidableEq, Repr

/-- The parity that a byte of UART_CREATE stands for. -/
def UartParity.ofValue (value : UInt8) : Option UartParity :=
  if value = 0 then some .none
  else if value = 1 then some .odd
  else if value = 2 then some .even
  else Option.none

/-- `UartConfig`, the format of the bytes on the line. -/
structure UartConfig where
  /-- The bits per second. -/
  baudRate : UInt32 := 0
  /-- The bits of a byte. -/
  dataBits : UInt8 := 0
  /-- The stop bits behind a byte. -/
  stopBits : UInt8 := 0
  /-- The parity bit behind the data bits. -/
  parity : UartParity := .none
deriving DecidableEq, Repr

/-- `UartRuntimeStatus`, what `status` says of a port. -/
structure UartRuntimeStatus where
  /-- Whether the port has been made to fail. -/
  failed : Bool := false
  /-- The bytes that the port has received and nobody has read. -/
  rxBuffered : UInt32 := 0
  /-- The bytes that were written and have not been taken from the port. -/
  txBuffered : UInt32 := 0
  /-- The bytes that the port has received and lost. -/
  rxOverruns : UInt32 := 0
  /-- The bytes that the port has refused to take. -/
  txOverruns : UInt32 := 0
deriving DecidableEq, Repr

/-- `UartError`, the reasons for which a port throws. -/
inductive UartError
  | portNotConfigured
  | bufferOverflow
  | portFailed
deriving DecidableEq, Repr

/-- `UartException`, a reason with its text. -/
structure UartException where
  /-- What keeps the port from the call. -/
  code : UartError
  /-- The text of `what`, which says why the port cannot. -/
  message : String
deriving DecidableEq, Repr

/-- `MockUartBsp::PortState`, a port with its two buffers. -/
structure PortState where
  /-- The format that the port was configured with. -/
  config : UartConfig := {}
  /-- The bytes that the port has received and nobody has read, the oldest first. -/
  rx : List UInt8 := []
  /-- The bytes that were written and have not been taken from the port, the oldest first. -/
  tx : List UInt8 := []
  /-- Whether the port has been configured. -/
  configured : Bool := false
  /-- Whether the port has been made to fail. -/
  failed : Bool := false
  /-- The bytes that the port has received and lost. -/
  rxOverruns : UInt32 := 0
  /-- The bytes that the port has refused to take. -/
  txOverruns : UInt32 := 0
deriving DecidableEq, Repr

/-- `MockUartBsp`, the ports of a simulated board. -/
structure MockUartBsp where
  /-- The received bytes that each port has room for. -/
  rxCapacity : ℕ
  /-- The written bytes that each port has room for. -/
  txCapacity : ℕ
  /-- The ports that have been used, by their numbers. -/
  ports : Map UInt8 PortState
  /-- How often `configure` has been called. -/
  configureCount : UInt64
  /-- How often `read` has been called. -/
  readCount : UInt64
  /-- How often `write` has been called. -/
  writeCount : UInt64
  /-- The constructor has checked the room for received bytes. -/
  rx_room : 0 < rxCapacity ∧ rxCapacity ≤ 0xFFFFFFFF
  /-- The constructor has checked the room for written bytes. -/
  tx_room : 0 < txCapacity ∧ txCapacity ≤ 0xFFFFFFFF
  /-- The buffers are not longer than there is room. -/
  fits : ∀ port state, ports.lookup port = some state →
    state.rx.length ≤ rxCapacity ∧ state.tx.length ≤ txCapacity

namespace MockUartBsp

/-- The ports that the constructor makes, with the default capacities. -/
def create : MockUartBsp where
  rxCapacity := 4096
  txCapacity := 4096
  ports := ∅
  configureCount := 0
  readCount := 0
  writeCount := 0
  rx_room := by norm_num
  tx_room := by norm_num
  fits := by simp

/-- The constructor, or the text of its exception. -/
def ofCapacities (rxCapacity txCapacity : ℕ) : Except String MockUartBsp :=
  if h : rxCapacity = 0 ∨ txCapacity = 0 ∨ rxCapacity > 0xFFFFFFFF ∨ txCapacity > 0xFFFFFFFF then
    .error "UART 缓冲容量必须位于 1～UINT32_MAX"
  else .ok {
    rxCapacity := rxCapacity
    txCapacity := txCapacity
    ports := ∅
    configureCount := 0
    readCount := 0
    writeCount := 0
    rx_room := by omega
    tx_room := by omega
    fits := by simp }

/-- The ports with another state of one of them. -/
def setPort (bsp : MockUartBsp) (port : UInt8) (state : PortState)
    (hfits : state.rx.length ≤ bsp.rxCapacity ∧ state.tx.length ≤ bsp.txCapacity) :
    MockUartBsp :=
  { bsp with
    ports := bsp.ports.insert port state
    fits := by
      intro port' state' hlookup
      rw [Map.lookup_insert_ite] at hlookup
      split at hlookup
      · exact Option.some.inj hlookup ▸ hfits
      · exact bsp.fits port' state' hlookup }

/-- `require_port`: the state of a port that has been configured. -/
def requirePort (bsp : MockUartBsp) (port : UInt8) :
    Except UartException { state // bsp.ports.lookup port = some state } :=
  match bsp.ports.lookup port with
  | none => .error ⟨.portNotConfigured, "UART 端口尚未配置"⟩
  | some state =>
    if state.configured then .ok ⟨state, rfl⟩
    else .error ⟨.portNotConfigured, "UART 端口尚未配置"⟩

/-- `MockUartBsp::configure`. A port that does not exist yet has not failed. -/
def configure (bsp : MockUartBsp) (port : UInt8) (config : UartConfig) :
    Except UartException MockUartBsp :=
  let state := (bsp.ports.lookup port).getD {}
  if state.failed then .error ⟨.portFailed, "UART 端口故障"⟩
  else
    let bsp := bsp.setPort port
      { state with
        config := config
        rx := []
        tx := []
        configured := true
        rxOverruns := 0
        txOverruns := 0 }
      ⟨Nat.zero_le _, Nat.zero_le _⟩
    .ok { bsp with configureCount := bsp.configureCount + 1 }

/-- `MockUartBsp::read`: the oldest bytes, and the ports without them. -/
def read (bsp : MockUartBsp) (port : UInt8) (maximumLength : ℕ) :
    Except UartException (List UInt8 × MockUartBsp) :=
  match bsp.requirePort port with
  | .error e => .error e
  | .ok ⟨state, hstate⟩ =>
    if state.failed then .error ⟨.portFailed, "UART 端口故障"⟩
    else
      let bsp' := bsp.setPort port { state with rx := state.rx.drop maximumLength } (by
        have hfits := bsp.fits port state hstate
        simp only [List.length_drop]
        omega)
      .ok (state.rx.take maximumLength, { bsp' with readCount := bsp'.readCount + 1 })

/-- A counter that stays at its maximum. -/
def saturatingAdd (counter overflow : UInt32) : UInt32 :=
  if 0xFFFFFFFF - counter < overflow then 0xFFFFFFFF else counter + overflow

/-- `MockUartBsp::write`. The bytes that a write is refused for are counted. -/
def write (bsp : MockUartBsp) (port : UInt8) (data : List UInt8) :
    Except UartException Unit × MockUartBsp :=
  match bsp.requirePort port with
  | .error e => (.error e, bsp)
  | .ok ⟨state, hstate⟩ =>
    if state.failed then (.error ⟨.portFailed, "UART 端口故障"⟩, bsp)
    else if hroom : data.length > bsp.txCapacity - state.tx.length then
      let overflow := UInt32.ofNat
        (min (data.length - (bsp.txCapacity - state.tx.length)) 0xFFFFFFFF)
      (.error ⟨.bufferOverflow, "UART 发送缓冲区空间不足"⟩,
        bsp.setPort port { state with txOverruns := saturatingAdd state.txOverruns overflow }
          (bsp.fits port state hstate))
    else
      let bsp' := bsp.setPort port { state with tx := state.tx ++ data } (by
        have hfits := bsp.fits port state hstate
        simp only [List.length_append]
        omega)
      (.ok (), { bsp' with writeCount := bsp'.writeCount + 1 })

/-- `MockUartBsp::status`, of a port that need not have been configured. -/
def status (bsp : MockUartBsp) (port : UInt8) : UartRuntimeStatus :=
  match bsp.ports.lookup port with
  | none => {}
  | some state => {
      failed := state.failed
      rxBuffered := UInt32.ofNat state.rx.length
      txBuffered := UInt32.ofNat state.tx.length
      rxOverruns := state.rxOverruns
      txOverruns := state.txOverruns }

/-- `MockUartBsp::set_failed`. A port that does not exist yet comes into being, but is not
configured. -/
def setFailed (bsp : MockUartBsp) (port : UInt8) (failed : Bool) : MockUartBsp :=
  bsp.setPort port { (bsp.ports.lookup port).getD {} with failed := failed } (by
    cases hstate : bsp.ports.lookup port with
    | none => exact ⟨Nat.zero_le _, Nat.zero_le _⟩
    | some state => exact bsp.fits port state hstate)

/-- `MockUartBsp::reset`: the buffers are emptied, and the port works again. -/
def reset (bsp : MockUartBsp) (port : UInt8) : Except UartException MockUartBsp :=
  match bsp.requirePort port with
  | .error e => .error e
  | .ok ⟨state, _⟩ =>
    .ok (bsp.setPort port
      { state with rx := [], tx := [], rxOverruns := 0, txOverruns := 0, failed := false }
      ⟨Nat.zero_le _, Nat.zero_le _⟩)

variable {bsp bsp' : MockUartBsp} {port port' : UInt8}

/-- The buffers are empty, nothing has been lost, and the port has not failed. -/
def PortReset (bsp : MockUartBsp) (port : UInt8) : Prop :=
  ∃ state, bsp.ports.lookup port = some state ∧ state.configured = true ∧ state.rx = [] ∧
    state.tx = [] ∧ state.rxOverruns = 0 ∧ state.txOverruns = 0 ∧ state.failed = false

/-- Another state of one port, at that port. -/
theorem lookup_setPort {state : PortState}
    (hfits : state.rx.length ≤ bsp.rxCapacity ∧ state.tx.length ≤ bsp.txCapacity) :
    (bsp.setPort port state hfits).ports.lookup port = some state :=
  AList.lookup_insert _

/-- Configuring a port leaves the others alone. -/
theorem lookup_configure {config : UartConfig} (hconfigure : bsp.configure port config = .ok bsp')
    (h : port' ≠ port) : bsp'.ports.lookup port' = bsp.ports.lookup port' := by
  unfold configure at hconfigure
  dsimp only at hconfigure
  split at hconfigure
  · cases hconfigure
  · obtain rfl := Except.ok.inj hconfigure
    exact AList.lookup_insert_ne h

/-- Reading a port leaves the others alone. -/
theorem lookup_read {maximumLength : ℕ} {data : List UInt8}
    (hread : bsp.read port maximumLength = .ok (data, bsp')) (h : port' ≠ port) :
    bsp'.ports.lookup port' = bsp.ports.lookup port' := by
  unfold read at hread
  split at hread
  · cases hread
  · split at hread
    · cases hread
    · obtain rfl := (Prod.mk.inj (Except.ok.inj hread)).2
      exact AList.lookup_insert_ne h

/-- Writing a port leaves the others alone. -/
theorem lookup_write (data : List UInt8) (h : port' ≠ port) :
    (bsp.write port data).2.ports.lookup port' = bsp.ports.lookup port' := by
  unfold write
  split
  · rfl
  · split
    · rfl
    · split <;> exact AList.lookup_insert_ne h

/-- `require_port` finds the ports that have been configured. -/
theorem requirePort_eq_ok_iff {state : PortState} (h : bsp.ports.lookup port = some state) :
    bsp.requirePort port = .ok ⟨state, h⟩ ↔ state.configured = true := by
  unfold requirePort
  generalize bsp.ports.lookup port = found at h
  subst h
  dsimp only
  constructor
  · intro hrequire
    by_contra hconfigured
    rw [if_neg hconfigured] at hrequire
    cases hrequire
  · exact fun hconfigured => if_pos hconfigured

/-- A port is reset if it has been configured. -/
theorem reset_eq_ok_iff : bsp.reset port = .ok bsp' ↔
    ∃ state, bsp.ports.lookup port = some state ∧ state.configured = true ∧
      bsp' = bsp.setPort port
        { state with rx := [], tx := [], rxOverruns := 0, txOverruns := 0, failed := false }
        ⟨Nat.zero_le _, Nat.zero_le _⟩ := by
  unfold reset
  constructor
  · intro h
    split at h
    · cases h
    · next state hstate hrequire =>
      exact ⟨state, hstate, (requirePort_eq_ok_iff hstate).1 hrequire, (Except.ok.inj h).symm⟩
  · rintro ⟨state, hlookup, hconfigured, rfl⟩
    rw [(requirePort_eq_ok_iff hlookup).2 hconfigured]

/-- Resetting a port leaves the others alone. -/
theorem lookup_reset (hreset : bsp.reset port = .ok bsp') (h : port' ≠ port) :
    bsp'.ports.lookup port' = bsp.ports.lookup port' := by
  obtain ⟨state, -, -, rfl⟩ := reset_eq_ok_iff.1 hreset
  exact AList.lookup_insert_ne h

/-- `reset(port)` inside the `try` of `release_resource_objects`, which ignores the exceptions. -/
def clear (bsp : MockUartBsp) (port : UInt8) : MockUartBsp :=
  match bsp.reset port with
  | .ok bsp' => bsp'
  | .error _ => bsp

/-- Clearing a port leaves the others alone. -/
theorem lookup_clear (h : port' ≠ port) :
    (bsp.clear port).ports.lookup port' = bsp.ports.lookup port' := by
  unfold clear
  split
  · next hreset => exact lookup_reset hreset h
  · rfl

/-- A port that can be reset is reset after it has been cleared. -/
theorem portReset_clear (h : ∃ b, bsp.reset port = .ok b) : (bsp.clear port).PortReset port := by
  obtain ⟨b, hreset⟩ := h
  rw [clear, hreset]
  obtain ⟨state, -, hconfigured, rfl⟩ := reset_eq_ok_iff.1 hreset
  exact ⟨_, lookup_setPort _, hconfigured, rfl, rfl, rfl, rfl, rfl⟩

/-- A port that is reset can be reset. -/
theorem PortReset.reset (h : bsp.PortReset port) : ∃ b, bsp.reset port = .ok b := by
  obtain ⟨state, hlookup, hconfigured, -⟩ := h
  exact ⟨_, reset_eq_ok_iff.2 ⟨state, hlookup, hconfigured, rfl⟩⟩

/-- Clearing takes no port away from those that can be reset. -/
theorem reset_clear (h : ∃ b, bsp.reset port' = .ok b) :
    ∃ b, (bsp.clear port).reset port' = .ok b := by
  by_cases hport : port' = port
  · obtain rfl := hport
    exact (portReset_clear h).reset
  · obtain ⟨_, hreset⟩ := h
    obtain ⟨state, hlookup, hconfigured, -⟩ := reset_eq_ok_iff.1 hreset
    exact ⟨_, reset_eq_ok_iff.2
      ⟨state, (lookup_clear hport).trans hlookup, hconfigured, rfl⟩⟩

/-- Clearing any port leaves a reset port reset. -/
theorem PortReset.clear (h : bsp.PortReset port') : (bsp.clear port).PortReset port' := by
  by_cases hport : port' = port
  · obtain rfl := hport
    exact portReset_clear h.reset
  · obtain ⟨state, hlookup, hrest⟩ := h
    exact ⟨state, (lookup_clear hport).trans hlookup, hrest⟩

end MockUartBsp

end RemoteBSP.MockMcu
