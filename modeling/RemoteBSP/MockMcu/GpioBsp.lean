import RemoteBSP.Lib.Map

/-!
# The GPIO pins of the mock board

`MockGpioBsp` of `mock_mcu/src/gpio_bsp.cpp`. A pin has a state once it has been configured. The
level that the outside has set on a pin in advance waits in a second map until the pin is configured
as an input.

The lemmas say what an operation on one pin does to any pin: nothing to the others.
-/

namespace RemoteBSP.MockMcu

/-- `GpioDirection`, whether a pin is read or driven. -/
inductive GpioDirection
  | input
  | output
deriving DecidableEq, Repr

/-- `MockGpioError`, the reasons for which a pin throws. -/
inductive MockGpioError
  | pinNotConfigured
  | writeToInput
  | injectToOutput
deriving DecidableEq, Repr

/-- `MockGpioException`, a reason with its text. -/
structure MockGpioException where
  /-- What keeps the pin from the call. -/
  code : MockGpioError
  /-- The text of `what`, which says why the pin cannot. -/
  message : String
deriving DecidableEq, Repr

/-- `MockGpioBsp::PinState`, a pin that has been configured. -/
structure PinState where
  /-- Whether the pin is read or driven. -/
  direction : GpioDirection
  /-- The level of the pin. -/
  value : Bool
deriving DecidableEq, Repr

/-- `MockGpioBsp`, the pins of a simulated board. -/
structure MockGpioBsp where
  /-- The pins that have been configured. -/
  pins : Map UInt16 PinState := ∅
  /-- The levels set on pins that have not been configured yet. -/
  pendingInputValues : Map UInt16 Bool := ∅
  /-- How often `configure` has been called. -/
  configureCount : UInt64 := 0
  /-- How often `read` has been called. -/
  readCount : UInt64 := 0
  /-- How often `write` has been called. -/
  writeCount : UInt64 := 0

namespace MockGpioBsp

/-- `MockGpioBsp::configure`: an input takes the level that has been set on it before. -/
def configure (bsp : MockGpioBsp) (pin : UInt16) (direction : GpioDirection)
    (initialValue : Bool) : MockGpioBsp :=
  let value := match direction with
    | .input => (bsp.pendingInputValues.lookup pin).getD initialValue
    | .output => initialValue
  { bsp with
    pins := bsp.pins.insert pin ⟨direction, value⟩
    configureCount := bsp.configureCount + 1 }

/-- `MockGpioBsp::read`, which throws for a pin that has not been configured. -/
def read (bsp : MockGpioBsp) (pin : UInt16) : Except MockGpioException Bool × MockGpioBsp :=
  match bsp.pins.lookup pin with
  | none => (.error ⟨.pinNotConfigured, "GPIO 引脚尚未配置"⟩, bsp)
  | some state => (.ok state.value, { bsp with readCount := bsp.readCount + 1 })

/-- `MockGpioBsp::write`, which throws for a pin that is not an output. -/
def write (bsp : MockGpioBsp) (pin : UInt16) (value : Bool) :
    Except MockGpioException MockGpioBsp :=
  match bsp.pins.lookup pin with
  | none => .error ⟨.pinNotConfigured, "GPIO 引脚尚未配置"⟩
  | some state =>
    if state.direction ≠ .output then .error ⟨.writeToInput, "不能写入 GPIO 输入引脚"⟩
    else .ok { bsp with
      pins := bsp.pins.insert pin { state with value := value }
      writeCount := bsp.writeCount + 1 }

/-- `MockGpioBsp::set_input_value`, which throws for an output. -/
def setInputValue (bsp : MockGpioBsp) (pin : UInt16) (value : Bool) :
    Except MockGpioException MockGpioBsp :=
  match bsp.pins.lookup pin with
  | none => .ok { bsp with pendingInputValues := bsp.pendingInputValues.insert pin value }
  | some state =>
    if state.direction ≠ .input then .error ⟨.injectToOutput, "不能向 GPIO 输出注入输入电平"⟩
    else .ok { bsp with
      pins := bsp.pins.insert pin { state with value := value }
      pendingInputValues := bsp.pendingInputValues.insert pin value }

variable {bsp bsp' : MockGpioBsp} {pin pin' : UInt16}

/-- What the board knows of a pin: its state and the level set on it. -/
def pinView (bsp : MockGpioBsp) (pin : UInt16) : Option PinState × Option Bool :=
  (bsp.pins.lookup pin, bsp.pendingInputValues.lookup pin)

/-- The pin is an output with a low level. -/
def PinLow (bsp : MockGpioBsp) (pin : UInt16) : Prop :=
  bsp.pins.lookup pin = some ⟨.output, false⟩

/-- Configuring a pin leaves the others alone. -/
theorem pinView_configure (direction : GpioDirection) (value : Bool) (h : pin' ≠ pin) :
    (bsp.configure pin direction value).pinView pin' = bsp.pinView pin' := by
  simp only [pinView, configure, AList.lookup_insert_ne h]

/-- Reading a pin leaves all pins as they are. -/
theorem pinView_read : (bsp.read pin).2.pinView pin' = bsp.pinView pin' := by
  unfold read
  split <;> rfl

/-- A write goes to an output, and sets its level. -/
theorem write_eq_ok_iff {value : Bool} : bsp.write pin value = .ok bsp' ↔
    ∃ state, bsp.pins.lookup pin = some state ∧ state.direction = .output ∧
      bsp' = { bsp with
        pins := bsp.pins.insert pin { state with value := value }
        writeCount := bsp.writeCount + 1 } := by
  unfold write
  constructor
  · intro h
    split at h
    · cases h
    · next state hlookup =>
      split at h
      · cases h
      · next hdirection =>
        exact ⟨state, hlookup, not_not.1 hdirection, (Except.ok.inj h).symm⟩
  · rintro ⟨state, hlookup, hdirection, rfl⟩
    rw [hlookup]
    dsimp only
    rw [if_neg (not_not.2 hdirection)]

/-- Writing a pin leaves the others alone. -/
theorem pinView_write {value : Bool} (hwrite : bsp.write pin value = .ok bsp') (h : pin' ≠ pin) :
    bsp'.pinView pin' = bsp.pinView pin' := by
  obtain ⟨state, -, -, rfl⟩ := write_eq_ok_iff.1 hwrite
  simp only [pinView, AList.lookup_insert_ne h]

/-- A pin written low is low. -/
theorem pinLow_write (hwrite : bsp.write pin false = .ok bsp') : bsp'.PinLow pin := by
  obtain ⟨state, -, hdirection, rfl⟩ := write_eq_ok_iff.1 hwrite
  simp only [PinLow, AList.lookup_insert, hdirection]

/-- `write(pin, false)` inside the `try` of `release_resource_objects`, which ignores the
exceptions. -/
def lower (bsp : MockGpioBsp) (pin : UInt16) : MockGpioBsp :=
  match bsp.write pin false with
  | .ok bsp' => bsp'
  | .error _ => bsp

/-- Lowering a pin leaves the others alone. -/
theorem pinView_lower (h : pin' ≠ pin) : (bsp.lower pin).pinView pin' = bsp.pinView pin' := by
  unfold lower
  split
  · next hwrite => exact pinView_write hwrite h
  · rfl

/-- Lowering takes no pin away from those that can be written. -/
theorem write_lower (h : ∃ b, bsp.write pin' false = .ok b) :
    ∃ b, (bsp.lower pin).write pin' false = .ok b := by
  unfold lower
  split
  · next b hwrite =>
    obtain ⟨_, h⟩ := h
    obtain ⟨state', hlookup', hdirection', -⟩ := write_eq_ok_iff.1 h
    obtain ⟨state, hlookup, hdirection, rfl⟩ := write_eq_ok_iff.1 hwrite
    by_cases hpin : pin' = pin
    · exact ⟨_, write_eq_ok_iff.2
        ⟨{ state with value := false }, by rw [hpin, AList.lookup_insert], hdirection, rfl⟩⟩
    · exact ⟨_, write_eq_ok_iff.2
        ⟨state', by rw [AList.lookup_insert_ne hpin, hlookup'], hdirection', rfl⟩⟩
  · exact h

/-- A pin that can be written is low after it has been lowered. -/
theorem pinLow_lower (h : ∃ b, bsp.write pin false = .ok b) : (bsp.lower pin).PinLow pin := by
  obtain ⟨b, hwrite⟩ := h
  rw [lower, hwrite]
  exact pinLow_write hwrite

/-- Lowering any pin leaves a low pin low. -/
theorem PinLow.lower (h : bsp.PinLow pin') : (bsp.lower pin).PinLow pin' := by
  by_cases hpin : pin' = pin
  · obtain rfl := hpin
    exact pinLow_lower ⟨_, write_eq_ok_iff.2 ⟨_, h, rfl, rfl⟩⟩
  · have hview : (bsp.lower pin).pins.lookup pin' = bsp.pins.lookup pin' :=
      congrArg Prod.fst (pinView_lower hpin)
    exact hview.trans h

end MockGpioBsp

end RemoteBSP.MockMcu
