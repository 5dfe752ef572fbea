import Mathlib.Algebra.Order.Floor.Ring
import Mathlib.Algebra.Order.Archimedean.Real.Basic
import RemoteBSP.Firmware.SoftUart
import RemoteBSP.Lib.Chunks

/-!
# The timing of the single-wire UART

Half a bit is not a whole number of ticks of the clock, so the UART carries what is left of it from
one delay to the next. On a board whose delays are exact, and whose line can be read in no time
(`scopeHal`), so many delays together take the right number of ticks, rounded down (`Delayed`).
Therefore every edge of a transmission is less than a tick early, however long it is
(`waveform_exact`).

The receiver finds the edge of each start bit again, less than a poll late, and samples each bit
near its middle. So it stores the bytes that come back, if the first of them begins no later than
the last poll (`loopback_exact`). The timeout itself is a little longer: a byte that begins behind
the last poll is missed (`late_answer_missed`).
-/

namespace RemoteBSP.Firmware.SoftUart

/-- A board seen through an oscilloscope: the time in ticks, and the levels that have been driven,
each with its time. -/
structure Scope where
  /-- The time on the clock of the timer. -/
  now : ℕ
  /-- Each level that has been driven, with the time from which it stands. -/
  edges : List (ℕ × Bool)
deriving DecidableEq, Repr

/-- A board on which a delay takes as many ticks as it should and all else takes no time, with the
level of the line at each tick. -/
def scopeHal (timingHz : UInt32) (line : ℕ → Bool) : SoftUartHal Scope where
  portPrepare _ scope := (true, scope)
  setOutput _ high scope := (true, { scope with edges := scope.edges ++ [(scope.now, high)] })
  setInput _ scope := (true, scope)
  readInput _ scope := (some (line scope.now), scope)
  timingHz := timingHz
  delayTicks ticks scope := { scope with now := scope.now + ticks.toNat }
  irqSaveDisable scope := (0, scope)
  irqRestore _ scope := scope

/-- The ticks of so many halves of a bit. -/
def halfBits (timingHz : UInt32) (n : ℕ) : ℕ := n * timingHz.toNat / 80000

/-! ## Delays -/

/-- So many halves of a bit have passed since a time. -/
structure Delayed (timingHz : UInt32) (n start : ℕ) (state : SoftUartTiming × Scope) : Prop where
  /-- The whole ticks in half a bit. -/
  wholeTicks : state.1.wholeTicks.toNat = timingHz.toNat / 80000
  /-- What is left of half a bit. -/
  remainder : state.1.remainder.toNat = timingHz.toNat % 80000
  /-- The divisor by which the rest of a division is spread over the halves of bits. -/
  divisor : state.1.divisor.toNat = 80000
  /-- The delays have been too short by that much. -/
  accumulator : state.1.accumulator.toNat = n * timingHz.toNat % 80000
  /-- The clock stands where the whole halves of bits put it. -/
  now : state.2.now = start + halfBits timingHz n

variable {timingHz : UInt32} {line : ℕ → Bool} {n start : ℕ} {state : SoftUartTiming × Scope}

/-- `timing_init` succeeds if half a bit is at least a tick. -/
theorem timingInit_eq {W : Type} {hal : SoftUartHal W} (hclock : 80000 ≤ hal.timingHz.toNat) :
    timingInit hal = some ⟨hal.timingHz / 80000, hal.timingHz % 80000, 80000, 0⟩ := by
  have hdivisor : CONFIG_SOFT_HALF_DUPLEX_UART_BAUD * 2 = 80000 := rfl
  have hnat : (80000 : UInt32).toNat = 80000 := rfl
  have hslow : ¬((80000 : UInt32) = 0 ∨ hal.timingHz < 80000) := by
    rw [UInt32.lt_iff_toNat_lt, hnat, not_or]
    exact ⟨by decide, by omega⟩
  have hpos : hal.timingHz / 80000 ≠ 0 := by
    intro hzero
    have hwhole := congrArg UInt32.toNat hzero
    rw [UInt32.toNat_div, hnat, UInt32.toNat_zero] at hwhole
    omega
  unfold timingInit
  rw [hdivisor]
  dsimp only
  rw [if_neg hslow, if_pos hpos]

/-- `timing_init` on the board with the oscilloscope. -/
theorem timingInit_scopeHal (hclock : 80000 ≤ timingHz.toNat) :
    timingInit (scopeHal timingHz line) =
      some ⟨timingHz / 80000, timingHz % 80000, 80000, 0⟩ := timingInit_eq hclock

/-- No time has passed behind `timing_init`. -/
theorem delayed_init (timingHz : UInt32) (scope : Scope) :
    Delayed timingHz 0 scope.now (⟨timingHz / 80000, timingHz % 80000, 80000, 0⟩, scope) := by
  constructor
  · exact UInt32.toNat_div _ _
  · exact UInt32.toNat_mod _ _
  · rfl
  · simp
  · simp [halfBits]

/-- A delay takes as long as it should, rounded down over all delays. -/
theorem Delayed.halfBit (h : Delayed timingHz n start state) (line : ℕ → Bool) :
    Delayed timingHz (n + 1) start (delayHalfBit (scopeHal timingHz line) state) ∧
      (delayHalfBit (scopeHal timingHz line) state).2.edges = state.2.edges := by
  obtain ⟨hwhole, hremainder, hdivisor, haccumulator, hnow⟩ := h
  have hlt := timingHz.toNat_lt
  have hsum : (state.1.accumulator + state.1.remainder).toNat =
      n * timingHz.toNat % 80000 + timingHz.toNat % 80000 := by
    rw [UInt32.toNat_add, haccumulator, hremainder]
    exact Nat.mod_eq_of_lt (by omega)
  have hnext : (n + 1) * timingHz.toNat = n * timingHz.toNat + timingHz.toNat := by ring
  unfold halfBits at hnow
  unfold delayHalfBit
  dsimp only [scopeHal]
  -- The fractions of a tick are accumulated, and a whole one is waited for when it is full.
  by_cases hcarry : state.1.accumulator + state.1.remainder ≥ state.1.divisor
  · rw [if_pos hcarry]
    rw [ge_iff_le, UInt32.le_iff_toNat_le, hsum, hdivisor] at hcarry
    have htick : (state.1.wholeTicks + 1).toNat = timingHz.toNat / 80000 + 1 := by
      rw [UInt32.toNat_add, hwhole, UInt32.toNat_one]
      exact Nat.mod_eq_of_lt (by omega)
    have hless : (state.1.accumulator + state.1.remainder - state.1.divisor).toNat =
        n * timingHz.toNat % 80000 + timingHz.toNat % 80000 - 80000 := by
      have hle : state.1.divisor ≤ state.1.accumulator + state.1.remainder := by
        rw [UInt32.le_iff_toNat_le, hsum, hdivisor]
        exact hcarry
      rw [UInt32.toNat_sub_of_le _ _ hle, hsum, hdivisor]
    refine ⟨⟨hwhole, hremainder, hdivisor, ?_, ?_⟩, rfl⟩
    · rw [hless, hnext]
      omega
    · change state.2.now + (state.1.wholeTicks + 1).toNat = _
      rw [hnow, htick, halfBits, hnext]
      omega
  · rw [if_neg hcarry]
    rw [ge_iff_le, UInt32.le_iff_toNat_le, hsum, hdivisor] at hcarry
    refine ⟨⟨hwhole, hremainder, hdivisor, ?_, ?_⟩, rfl⟩
    · rw [hsum, hnext]
      omega
    · change state.2.now + state.1.wholeTicks.toNat = _
      rw [hnow, hwhole, halfBits, hnext]
      omega

/-- A delay by a whole bit. -/
theorem Delayed.bit (h : Delayed timingHz n start state) (line : ℕ → Bool) :
    Delayed timingHz (n + 2) start (delayBit (scopeHal timingHz line) state) ∧
      (delayBit (scopeHal timingHz line) state).2.edges = state.2.edges := by
  obtain ⟨hfirst, hedges⟩ := h.halfBit line
  obtain ⟨hsecond, hedges'⟩ := hfirst.halfBit line
  exact ⟨hsecond, hedges'.trans hedges⟩

/-! ## Transmission -/

/-- Levels are driven one after the other, each for the time of a bit. -/
theorem Delayed.transmitBits (h : Delayed timingHz n start state) (line : ℕ → Bool) (port : UInt8)
    (levels : List Bool) :
    Delayed timingHz (n + 2 * levels.length) start
        (levels.foldl (transmitBit (scopeHal timingHz line) port) state) ∧
      ∃ edges, (levels.foldl (transmitBit (scopeHal timingHz line) port) state).2.edges =
          state.2.edges ++ edges ∧
        edges.length = levels.length ∧
        ∀ i high, levels[i]? = some high →
          edges[i]? = some (start + halfBits timingHz (n + 2 * i), high) := by
  induction levels generalizing n state with
  | nil => exact ⟨h, [], (List.append_nil _).symm, rfl, nofun⟩
  | cons high levels ih =>
    have hdriven : Delayed timingHz n start
        (state.1, ((scopeHal timingHz line).setOutput port high state.2).2) :=
      ⟨h.wholeTicks, h.remainder, h.divisor, h.accumulator, h.now⟩
    obtain ⟨hbit, hedges⟩ := hdriven.bit line
    obtain ⟨hrest, edges, happend, hlength, htimes⟩ := ih hbit
    rw [List.foldl_cons]
    refine ⟨?_, (state.2.now, high) :: edges, ?_, by rw [List.length_cons, hlength]; rfl, ?_⟩
    · rw [List.length_cons, show n + 2 * (levels.length + 1) = n + 2 + 2 * levels.length by ring]
      exact hrest
    · refine happend.trans ?_
      rw [hedges]
      exact List.append_assoc _ _ _
    · intro i level hlevel
      cases i with
      | zero =>
        obtain rfl : high = level := Option.some.inj hlevel
        rw [List.getElem?_cons_zero, h.now]
        rfl
      | succ i =>
        rw [List.getElem?_cons_succ] at hlevel ⊢
        rw [htimes i level hlevel, show n + 2 + 2 * i = n + 2 * (i + 1) by ring]

/-- The ticks of a bit, of which there may be a fraction. -/
noncomputable def bitTicks (timingHz : UInt32) : ℝ := timingHz.toNat / 40000

/-- Halves of a bit take as long as they should, less a tick at most. -/
theorem halfBits_bounds (timingHz : UInt32) (n : ℕ) :
    n * bitTicks timingHz / 2 - 1 < halfBits timingHz n ∧
      (halfBits timingHz n : ℝ) ≤ n * bitTicks timingHz / 2 := by
  have hle : halfBits timingHz n * 80000 ≤ n * timingHz.toNat := Nat.div_mul_le_self _ _
  have hlt : n * timingHz.toNat < halfBits timingHz n * 80000 + 80000 := by
    unfold halfBits
    omega
  have hle' : (halfBits timingHz n : ℝ) * 80000 ≤ n * timingHz.toNat := by exact_mod_cast hle
  have hlt' : (n * timingHz.toNat : ℝ) < halfBits timingHz n * 80000 + 80000 := by
    exact_mod_cast hlt
  have hbit : n * bitTicks timingHz / 2 * 80000 = n * timingHz.toNat := by
    unfold bitTicks
    ring
  constructor <;> linarith

/-- The bytes of a transmission, whatever their number, take the time that they should, and the
edge of each bit is where it should be, less a tick at most. -/
theorem waveform_transmit {timing : SoftUartTiming} (hclock : 80000 ≤ timingHz.toNat)
    (htiming : timingInit (scopeHal timingHz line) = some timing) (scope : Scope) (port : UInt8)
    (data : List UInt8) :
    (transmit (scopeHal timingHz line) port data timing scope).now =
        scope.now + halfBits timingHz (4 + 20 * data.length) ∧
      ∃ edges, (transmit (scopeHal timingHz line) port data timing scope).edges =
          scope.edges ++ edges ∧
        edges.length = 10 * data.length ∧
        ∀ i high, (data.flatMap frameBits)[i]? = some high →
          edges[i]? = some (scope.now + halfBits timingHz (4 + 2 * i), high) := by
  rw [timingInit_scopeHal hclock] at htiming
  obtain rfl := Option.some.inj htiming
  have hlength : (data.flatMap frameBits).length = 10 * data.length := by
    rw [List.length_flatMap_of_length length_frameBits, Nat.mul_comm]
  obtain ⟨hfirst, hedges⟩ := (delayed_init timingHz scope).bit line
  obtain ⟨hsecond, hedges'⟩ := hfirst.bit line
  obtain ⟨hall, edges, happend, hcount, htimes⟩ :=
    hsecond.transmitBits line port (data.flatMap frameBits)
  unfold transmit
  dsimp only
  rw [transmitBytes_eq]
  refine ⟨?_, edges, ?_, hcount.trans hlength, htimes⟩
  · rw [hlength] at hall
    exact hall.now.trans (by ring_nf)
  · rw [happend, hedges', hedges]

/-! ## The line -/

/-- From a tick on, the line carries bytes that begin at a time, each bit for the time of a bit. The
line is high before and behind them. -/
def Carries (line : ℕ → Bool) (period begin : ℝ) (bytes : List UInt8) (since : ℕ) : Prop :=
  ∀ tick ≥ since, ((tick : ℝ) < begin → line tick = true) ∧
    ∀ k : ℕ, begin + k * period ≤ tick → tick < begin + (k + 1) * period →
      line tick = ((bytes.flatMap frameBits)[k]?).getD true

/-- A line that carries the frames of some bytes with edges at their exact, real-valued times. -/
noncomputable def idealLine (timingHz : UInt32) (begin : ℝ) (bytes : List UInt8) (tick : ℕ) :
    Bool :=
  if (tick : ℝ) < begin then true
  else ((bytes.flatMap frameBits)[⌊(tick - begin) / bitTicks timingHz⌋₊]?).getD true

/-- An ideal line carries its bytes. -/
theorem carries_idealLine (hclock : 0 < bitTicks timingHz) (begin : ℝ) (bytes : List UInt8)
    (since : ℕ) :
    Carries (idealLine timingHz begin bytes) (bitTicks timingHz) begin bytes since := by
  intro tick _
  unfold idealLine
  refine ⟨fun hbefore => if_pos hbefore, fun k hle hlt => ?_⟩
  have hpos : 0 ≤ (k : ℝ) * bitTicks timingHz := by positivity
  have hk : ⌊(tick - begin) / bitTicks timingHz⌋₊ = k := by
    rw [Nat.floor_eq_iff (div_nonneg (by linarith) hclock.le), le_div_iff₀ hclock,
      div_lt_iff₀ hclock]
    constructor <;> linarith
  rw [if_neg (by linarith), hk]

/-- The line is high when it carries nothing. -/
theorem Carries.idle {line : ℕ → Bool} {period begin : ℝ} {since : ℕ}
    (h : Carries line period begin [] since) (hperiod : 0 < period) {tick : ℕ}
    (htick : since ≤ tick) : line tick = true := by
  by_cases hbefore : (tick : ℝ) < begin
  · exact (h tick htick).1 hbefore
  · have hnonneg : 0 ≤ (tick - begin) / period := div_nonneg (by linarith) hperiod.le
    have hle := Nat.floor_le hnonneg
    have hlt := Nat.lt_floor_add_one ((tick - begin) / period)
    rw [le_div_iff₀ hperiod] at hle
    rw [div_lt_iff₀ hperiod] at hlt
    exact (h tick htick).2 ⌊(tick - begin) / period⌋₊ (by linarith) (by linarith)

/-- In its last bit a byte is over, and the line carries the others. -/
theorem Carries.next {line : ℕ → Bool} {period begin : ℝ} {value : UInt8} {bytes : List UInt8}
    {since since' : ℕ} (h : Carries line period begin (value :: bytes) since)
    (hle : since ≤ since') (hstop : begin + 9 * period ≤ since') :
    Carries line period (begin + 10 * period) bytes since' := by
  intro tick htick
  have htick' : (since' : ℝ) ≤ tick := by exact_mod_cast htick
  have hlength := length_frameBits value
  refine ⟨fun hbefore => ?_, fun k hk hk' => ?_⟩
  · rw [(h tick (hle.trans htick)).2 9 (by push_cast; linarith) (by push_cast; linarith),
      List.flatMap_cons, List.getElem?_append_left (by omega)]
    simp [frameBits]
  · rw [(h tick (hle.trans htick)).2 (k + 10) (by push_cast; linarith) (by push_cast; linarith),
      List.flatMap_cons, List.getElem?_append_right (by omega), hlength, Nat.add_sub_cancel]

/-! ## Reception -/

/-- The byte with some of its bits put in. -/
def gather (value : UInt8) (bits : List ℕ) (received : UInt8) : UInt8 :=
  bits.foldl
    (fun received bit =>
      if dataBit value bit then received ||| (1 <<< UInt8.ofNat bit) else received)
    received

/-- All bits of a byte make the byte. -/
theorem gather_range (value : UInt8) : gather value (List.range 8) 0 = value := by
  have hall : ∀ v : Fin 256, gather (UInt8.ofNat v) (List.range 8) 0 = UInt8.ofNat v := by
    decide +kernel
  have hvalue := hall ⟨value.toNat, value.toNat_lt⟩
  rwa [UInt8.ofNat_toNat] at hvalue

/-- The bits of a byte are put together if each of them is on the line when it is sampled. -/
theorem Delayed.receiveBits (h : Delayed timingHz n start state) (port : UInt8) (value : UInt8)
    (k count : ℕ) (received : UInt8)
    (hline : ∀ i < count, line (start + halfBits timingHz (n + 2 * i)) = dataBit value (k + i)) :
    (receiveBits (scopeHal timingHz line) port (List.range' k count) received state).1 =
        some (gather value (List.range' k count) received) ∧
      Delayed timingHz (n + 2 * count) start
        (receiveBits (scopeHal timingHz line) port (List.range' k count) received state).2 := by
  induction count generalizing n k received state with
  | zero => exact ⟨rfl, h⟩
  | succ count ih =>
    obtain ⟨timing, scope⟩ := state
    have hread : (scopeHal timingHz line).readInput port scope =
        (some (dataBit value k), scope) := by
      change (some (line scope.now), scope) = _
      rw [h.now]
      exact congrArg (fun level => (some level, scope)) (hline 0 (Nat.succ_pos count))
    have hbit := (h.bit line).1
    obtain ⟨hvalue, hdelayed⟩ := ih hbit (k + 1)
      (if dataBit value k then received ||| (1 <<< UInt8.ofNat k) else received) fun i hi => by
        rw [show n + 2 + 2 * i = n + 2 * (i + 1) by ring, hline (i + 1) (by omega)]
        congr 1
        omega
    rw [List.range'_succ, SoftUart.receiveBits, hread]
    dsimp only
    rw [show n + 2 * (count + 1) = n + 2 + 2 * count by ring]
    exact ⟨hvalue, hdelayed⟩

/-- A bit takes at least 25 ticks. -/
theorem le_bitTicks (hclock : 1000000 ≤ timingHz.toNat) : 25 ≤ bitTicks timingHz := by
  have hclock' : (1000000 : ℝ) ≤ timingHz.toNat := by exact_mod_cast hclock
  unfold bitTicks
  linarith

/-- A sample falls into its bit if the start bit has been found before its middle. -/
theorem Carries.sample {begin : ℝ} {bytes : List UInt8} {now : ℕ}
    (h : Carries line (bitTicks timingHz) begin bytes now) (hclock : 1000000 ≤ timingHz.toNat)
    (hfound : begin ≤ now) (hearly : now < begin + bitTicks timingHz / 2) (k : ℕ) :
    begin + k * bitTicks timingHz ≤ (now + halfBits timingHz (2 * k + 1) : ℕ) ∧
      (now + halfBits timingHz (2 * k + 1) : ℕ) < begin + (k + 1) * bitTicks timingHz ∧
      line (now + halfBits timingHz (2 * k + 1)) =
        ((bytes.flatMap frameBits)[k]?).getD true := by
  have hbit := le_bitTicks hclock
  obtain ⟨hlt, hle⟩ := halfBits_bounds timingHz (2 * k + 1)
  push_cast at hlt hle
  have hlower : begin + k * bitTicks timingHz ≤ (now + halfBits timingHz (2 * k + 1) : ℕ) := by
    push_cast
    linarith
  have hupper : (now + halfBits timingHz (2 * k + 1) : ℕ) <
      begin + (k + 1) * bitTicks timingHz := by
    push_cast
    linarith
  exact ⟨hlower, hupper, (h _ (Nat.le_add_right _ _)).2 k hlower hupper⟩

/-- A byte whose start bit has been found in time is received, and the receiver is in the stop bit
then. -/
theorem receiveByte_exact {begin : ℝ} {value : UInt8} {bytes : List UInt8} {scope : Scope}
    (hline : Carries line (bitTicks timingHz) begin (value :: bytes) scope.now)
    (hclock : 1000000 ≤ timingHz.toNat) (hfound : begin ≤ scope.now)
    (hearly : scope.now < begin + bitTicks timingHz / 2) (port : UInt8) :
    (receiveByte (scopeHal timingHz line) port
        (⟨timingHz / 80000, timingHz % 80000, 80000, 0⟩, scope)).1 = some value ∧
      (receiveByte (scopeHal timingHz line) port
        (⟨timingHz / 80000, timingHz % 80000, 80000, 0⟩, scope)).2.now =
          scope.now + halfBits timingHz 19 := by
  have hlength := length_frameBits value
  -- Each sample lies inside the bit that it reads.
  have hsample : ∀ k < 10, line (scope.now + halfBits timingHz (2 * k + 1)) =
      ((frameBits value)[k]?).getD true := by
    intro k hk
    rw [(hline.sample hclock hfound hearly k).2.2, List.flatMap_cons,
      List.getElem?_append_left (by omega)]
  have hdelayed := ((((delayed_init timingHz scope).halfBit line).1.halfBit line).1.halfBit line).1
  -- So the eight bits are those of the byte.
  have hbits : ∀ i < 8, line (scope.now + halfBits timingHz (3 + 2 * i)) =
      dataBit value (0 + i) := by
    intro i hi
    rw [show 3 + 2 * i = 2 * (i + 1) + 1 by ring, hsample (i + 1) (by omega), Nat.zero_add]
    simp [frameBits, List.getElem?_append, hi]
  obtain ⟨hvalue, hbehind⟩ := hdelayed.receiveBits port value 0 8 0 hbits
  rw [← List.range_eq_range', gather_range] at hvalue
  rw [← List.range_eq_range'] at hbehind
  unfold receiveByte
  dsimp only
  generalize SoftUart.receiveBits (scopeHal timingHz line) port (List.range 8) 0 _ = outcome
    at hvalue hbehind ⊢
  obtain ⟨received, state⟩ := outcome
  dsimp only at hvalue hbehind
  -- The line is high again in the stop bit.
  have hstop : (scopeHal timingHz line).readInput port state.2 = (some true, state.2) := by
    change (some (line state.2.now), state.2) = _
    rw [hbehind.now]
    have htrue := hsample 9 (by omega)
    rw [show (frameBits value)[9]? = some true by simp [frameBits]] at htrue
    exact congrArg (fun level => (some level, state.2)) htrue
  rw [hvalue]
  dsimp only
  rw [hstop]
  exact ⟨rfl, hbehind.now⟩

/-- The ticks between two polls of the line. -/
def pollTicks (timingHz : UInt32) : ℕ := (timingHz.toNat + 1999999) / 2000000

/-- The ticks for which the receiver waits before it gives up. -/
def timeoutTicks (timingHz : UInt32) (timeoutUs : UInt16) : ℕ :=
  timingHz.toNat * timeoutUs.toNat / 1000000

/-- When the last poll takes place, behind the first one. -/
def lastPoll (timingHz : UInt32) (timeoutUs : UInt16) : ℕ :=
  pollTicks timingHz * ((timeoutTicks timingHz timeoutUs - 1) / pollTicks timingHz)

/-- The line is polled until it is low. -/
theorem pollStart_low {port : UInt8} {poll timeout elapsed : UInt32} {polls m : ℕ} {scope : Scope}
    (hpolls : m < polls) (hhigh : ∀ i < m, line (scope.now + i * poll.toNat) = true)
    (hlow : line (scope.now + m * poll.toNat) = false)
    (helapsed : elapsed.toNat + m * poll.toNat < timeout.toNat) :
    pollStart (scopeHal timingHz line) port poll timeout polls elapsed scope =
      some (true, { scope with now := scope.now + m * poll.toNat }) := by
  induction m generalizing polls elapsed scope with
  | zero =>
    obtain ⟨polls, rfl⟩ := Nat.exists_eq_succ_of_ne_zero (show polls ≠ 0 by omega)
    have hread : (scopeHal timingHz line).readInput port scope = (some false, scope) := by
      rw [Nat.zero_mul, Nat.add_zero] at hlow
      exact congrArg (fun level => (some level, scope)) hlow
    rw [Nat.succ_eq_add_one, pollStart, if_pos (UInt32.lt_iff_toNat_lt.2 (by omega)), hread,
      Nat.zero_mul]
    rfl
  | succ m ih =>
    obtain ⟨polls, rfl⟩ := Nat.exists_eq_succ_of_ne_zero (show polls ≠ 0 by omega)
    have hread : (scopeHal timingHz line).readInput port scope = (some true, scope) := by
      have hfirst := hhigh 0 (Nat.succ_pos m)
      rw [Nat.zero_mul, Nat.add_zero] at hfirst
      exact congrArg (fun level => (some level, scope)) hfirst
    -- The time that has been polled for stays below the timeout.
    have hmul : (m + 1) * poll.toNat = m * poll.toNat + poll.toNat := by ring
    have hlt := timeout.toNat_lt
    have hsum : (elapsed + poll).toNat = elapsed.toNat + poll.toNat := by
      rw [UInt32.toNat_add]
      exact Nat.mod_eq_of_lt (by omega)
    rw [Nat.succ_eq_add_one, pollStart, if_pos (UInt32.lt_iff_toNat_lt.2 (by omega)), hread]
    dsimp only
    rw [ih (by omega)]
    · dsimp only [scopeHal]
      rw [hmul, Nat.add_assoc, Nat.add_comm poll.toNat]
    · intro i hi
      have hnext := hhigh (i + 1) (by omega)
      rwa [show scope.now + (i + 1) * poll.toNat =
        scope.now + poll.toNat + i * poll.toNat by ring] at hnext
    · rwa [show scope.now + (m + 1) * poll.toNat =
        scope.now + poll.toNat + m * poll.toNat by ring] at hlow
    · rw [hsum]
      omega

/-- The line is polled until the timeout if it stays high. -/
theorem pollStart_high {port : UInt8} {poll timeout elapsed : UInt32} {polls : ℕ} {scope : Scope}
    (hpos : 0 < poll.toNat) (hwrap : timeout.toNat + poll.toNat < 2^32)
    (hpolls : timeout.toNat ≤ elapsed.toNat + polls)
    (hhigh : ∀ i, elapsed.toNat + i * poll.toNat < timeout.toNat →
      line (scope.now + i * poll.toNat) = true) :
    ∃ scope', pollStart (scopeHal timingHz line) port poll timeout polls elapsed scope =
      some (false, scope') := by
  induction polls generalizing elapsed scope with
  | zero =>
    rw [pollStart, if_neg]
    · exact ⟨_, rfl⟩
    · rw [UInt32.lt_iff_toNat_lt]
      omega
  | succ polls ih =>
    rw [pollStart]
    split_ifs with hwait
    · rw [UInt32.lt_iff_toNat_lt] at hwait
      have hread : (scopeHal timingHz line).readInput port scope = (some true, scope) := by
        have hfirst := hhigh 0 (by omega)
        rw [Nat.zero_mul, Nat.add_zero] at hfirst
        exact congrArg (fun level => (some level, scope)) hfirst
      have hsum : (elapsed + poll).toNat = elapsed.toNat + poll.toNat := by
        rw [UInt32.toNat_add]
        exact Nat.mod_eq_of_lt (by omega)
      rw [hread]
      refine ih (by omega) fun i hi => ?_
      have hnext := hhigh (i + 1) (by rw [Nat.add_mul, Nat.one_mul]; omega)
      rwa [show scope.now + (i + 1) * poll.toNat =
        scope.now + poll.toNat + i * poll.toNat by ring] at hnext
    · exact ⟨_, rfl⟩

/-- The ticks between two polls do not wrap. -/
theorem poll_toNat (hfast : timingHz.toNat ≤ 1000000000) :
    ((timingHz + RBSP_SOFT_UART_START_POLL_HZ - 1) / RBSP_SOFT_UART_START_POLL_HZ).toNat =
      pollTicks timingHz := by
  have hpoll : RBSP_SOFT_UART_START_POLL_HZ.toNat = 2000000 := rfl
  have hsum : (timingHz + RBSP_SOFT_UART_START_POLL_HZ).toNat = timingHz.toNat + 2000000 := by
    rw [UInt32.toNat_add, hpoll]
    exact Nat.mod_eq_of_lt (by omega)
  have hone : (1 : UInt32) ≤ timingHz + RBSP_SOFT_UART_START_POLL_HZ := by
    rw [UInt32.le_iff_toNat_le, hsum, UInt32.toNat_one]
    omega
  rw [UInt32.toNat_div, UInt32.toNat_sub_of_le _ _ hone, hsum, hpoll, UInt32.toNat_one, pollTicks]
  omega

/-- The ticks of a timeout do not wrap. -/
theorem timeout_toNat (hfast : timingHz.toNat ≤ 1000000000) (timeoutUs : UInt16) :
    (timingHz.toUInt64 * timeoutUs.toUInt64 / 1000000).toUInt32.toNat =
      timeoutTicks timingHz timeoutUs := by
  have hlt := timeoutUs.toNat_lt
  have hmillion : (1000000 : UInt64).toNat = 1000000 := rfl
  have hproduct : timingHz.toNat * timeoutUs.toNat ≤ 1000000000 * 65535 :=
    Nat.mul_le_mul hfast (by omega)
  rw [UInt64.toNat_toUInt32, UInt64.toNat_div, UInt64.toNat_mul, UInt32.toNat_toUInt64,
    UInt16.toNat_toUInt64, hmillion, timeoutTicks]
  rw [Nat.mod_eq_of_lt (show timingHz.toNat * timeoutUs.toNat < 2^64 by omega)]
  exact Nat.mod_eq_of_lt (by omega)

/-- A poll takes less than half of a bit. -/
theorem pollTicks_bounds (hclock : 1000000 ≤ timingHz.toNat) :
    0 < pollTicks timingHz ∧ (pollTicks timingHz : ℝ) ≤ bitTicks timingHz / 2 := by
  have hpos : 0 < pollTicks timingHz := by
    unfold pollTicks
    omega
  have hle : pollTicks timingHz * 2000000 ≤ timingHz.toNat + 1999999 := Nat.div_mul_le_self _ _
  have hle' : (pollTicks timingHz : ℝ) * 2000000 ≤ timingHz.toNat + 1999999 := by
    exact_mod_cast hle
  have hclock' : (1000000 : ℝ) ≤ timingHz.toNat := by exact_mod_cast hclock
  refine ⟨hpos, ?_⟩
  unfold bitTicks
  linarith

/-- The number of polls before a time is reached. -/
theorem exists_poll {begin : ℝ} {now poll last : ℕ} (hpoll : 0 < poll) (hlater : now ≤ begin)
    (hintime : begin ≤ now + (poll * last : ℕ)) :
    ∃ m ≤ last, (∀ i < m, ((now + i * poll : ℕ) : ℝ) < begin) ∧
      begin ≤ (now + m * poll : ℕ) ∧ ((now + m * poll : ℕ) : ℝ) < begin + poll := by
  have hpollReal : (0 : ℝ) < poll := by exact_mod_cast hpoll
  have hnonneg : 0 ≤ (begin - now) / poll := div_nonneg (by linarith) hpollReal.le
  refine ⟨⌈(begin - now) / poll⌉₊, ?_, fun i hi => ?_, ?_, ?_⟩
  · rw [Nat.ceil_le, div_le_iff₀ hpollReal]
    push_cast at hintime
    linarith
  · rw [Nat.lt_ceil, lt_div_iff₀ hpollReal] at hi
    push_cast
    linarith
  · have hle := Nat.le_ceil ((begin - now) / poll)
    rw [div_le_iff₀ hpollReal] at hle
    push_cast
    linarith
  · have hlt := Nat.ceil_lt_add_one hnonneg
    rw [← sub_lt_iff_lt_add, lt_div_iff₀ hpollReal] at hlt
    push_cast
    linarith

/-- A start bit that begins no later than the last poll is found before its middle. -/
theorem waitForStart_exact {begin : ℝ} {value : UInt8} {bytes : List UInt8} {scope : Scope}
    {timeoutUs : UInt16} {polls : ℕ}
    (hline : Carries line (bitTicks timingHz) begin (value :: bytes) scope.now)
    (hclock : 1000000 ≤ timingHz.toNat) (hfast : timingHz.toNat ≤ 1000000000)
    (hlater : scope.now ≤ begin) (hintime : begin ≤ scope.now + lastPoll timingHz timeoutUs)
    (htimeout : 0 < timeoutTicks timingHz timeoutUs)
    (hpolls : timeoutTicks timingHz timeoutUs ≤ polls) (port : UInt8) :
    ∃ found : Scope, waitForStart polls (scopeHal timingHz line) port timeoutUs scope =
        some (true, found) ∧ scope.now ≤ found.now ∧ begin ≤ found.now ∧
      found.now < begin + bitTicks timingHz / 2 := by
  obtain ⟨hpoll, hhalf⟩ := pollTicks_bounds hclock
  have hbit := le_bitTicks hclock
  obtain ⟨m, hle, hbefore, hreached, hfirst⟩ := exists_poll hpoll hlater hintime
  have htime : m * pollTicks timingHz < timeoutTicks timingHz timeoutUs := by
    have hmul := (Nat.le_div_iff_mul_le hpoll).1 hle
    omega
  have hmle : m ≤ m * pollTicks timingHz := Nat.le_mul_of_pos_right m hpoll
  have hlow : line (scope.now + m * pollTicks timingHz) = false := by
    have hcell := (hline (scope.now + m * pollTicks timingHz) (Nat.le_add_right _ _)).2 0
      (by rw [Nat.cast_zero]; linarith) (by rw [Nat.cast_zero]; linarith)
    rw [hcell, List.flatMap_cons, List.getElem?_append_left (by simp [frameBits])]
    rfl
  refine ⟨{ scope with now := scope.now + m * pollTicks timingHz }, ?_, Nat.le_add_right _ _,
    hreached, by linarith⟩
  rw [waitForStart, show (scopeHal timingHz line).timingHz = timingHz from rfl]
  have hpollNat := poll_toNat hfast
  have htimeoutNat := timeout_toNat hfast timeoutUs
  generalize (timingHz + RBSP_SOFT_UART_START_POLL_HZ - 1) / RBSP_SOFT_UART_START_POLL_HZ = poll
    at hpollNat ⊢
  generalize (timingHz.toUInt64 * timeoutUs.toUInt64 / 1000000).toUInt32 = timeout
    at htimeoutNat ⊢
  rw [← hpollNat] at hlow hbefore ⊢
  refine pollStart_low (by omega) (fun i hi => ?_) hlow ?_
  · exact (hline _ (Nat.le_add_right _ _)).1 (hbefore i hi)
  · rw [hpollNat, htimeoutNat, UInt32.toNat_zero]
    omega

/-- A byte that begins no later than the last poll is received, and the receiver is in its stop bit
then. -/
theorem nextByte_exact {begin : ℝ} {value : UInt8} {bytes : List UInt8} {scope : Scope}
    {timeoutUs : UInt16} {polls : ℕ}
    (hline : Carries line (bitTicks timingHz) begin (value :: bytes) scope.now)
    (hclock : 1000000 ≤ timingHz.toNat) (hfast : timingHz.toNat ≤ 1000000000)
    (hlater : scope.now ≤ begin) (hintime : begin ≤ scope.now + lastPoll timingHz timeoutUs)
    (htimeout : 0 < timeoutTicks timingHz timeoutUs)
    (hpolls : timeoutTicks timingHz timeoutUs ≤ polls) (port : UInt8) :
    ∃ scope', nextByte polls (scopeHal timingHz line) port timeoutUs scope =
        some (some value, scope') ∧
      Carries line (bitTicks timingHz) (begin + 10 * bitTicks timingHz) bytes scope'.now ∧
      begin + 9 * bitTicks timingHz ≤ scope'.now ∧
      scope'.now < begin + 10 * bitTicks timingHz := by
  obtain ⟨found, hwait, hle, hreached, hearly⟩ :=
    waitForStart_exact hline hclock hfast hlater hintime htimeout hpolls port
  have hcarries : Carries line (bitTicks timingHz) begin (value :: bytes) found.now :=
    fun tick htick => hline tick (hle.trans htick)
  obtain ⟨hvalue, hnow⟩ := receiveByte_exact hcarries hclock hreached hearly port
  obtain ⟨hlower, hupper, -⟩ := hcarries.sample hclock hreached hearly 9
  have hnine : ((9 : ℕ) : ℝ) = 9 := by norm_num
  have hten : ((9 : ℕ) : ℝ) + 1 = 10 := by norm_num
  rw [hten] at hupper
  rw [hnine] at hlower
  have hslow : 80000 ≤ timingHz.toNat := by omega
  rw [nextByte, hwait]
  dsimp only
  rw [timingInit_scopeHal hslow]
  dsimp only
  generalize receiveByte (scopeHal timingHz line) port
    (⟨timingHz / 80000, timingHz % 80000, 80000, 0⟩, found) = outcome at hvalue hnow ⊢
  obtain ⟨received, scope'⟩ := outcome
  dsimp only at hvalue hnow
  rw [← hnow] at hlower hupper
  refine ⟨scope', by rw [hvalue], hcarries.next ?_ hlower, hlower, hupper⟩
  rw [hnow]
  exact Nat.le_add_right _ _

/-- No byte is received from a line that stays high. -/
theorem nextByte_idle {scope : Scope} {timeoutUs : UInt16} {polls : ℕ}
    (hclock : 1000000 ≤ timingHz.toNat) (hfast : timingHz.toNat ≤ 1000000000)
    (hpolls : timeoutTicks timingHz timeoutUs ≤ polls)
    (hhigh : ∀ i, i * pollTicks timingHz < timeoutTicks timingHz timeoutUs →
      line (scope.now + i * pollTicks timingHz) = true) (port : UInt8) :
    ∃ scope', nextByte polls (scopeHal timingHz line) port timeoutUs scope =
      some (none, scope') := by
  obtain ⟨hpoll, -⟩ := pollTicks_bounds hclock
  have hpollNat := poll_toNat hfast
  have htimeoutNat := timeout_toNat hfast timeoutUs
  have hsmall : pollTicks timingHz ≤ 501 := by
    unfold pollTicks
    omega
  have hshort : timeoutTicks timingHz timeoutUs ≤ 65535000 := by
    have hlt := timeoutUs.toNat_lt
    have hproduct : timingHz.toNat * timeoutUs.toNat ≤ 1000000000 * 65535 :=
      Nat.mul_le_mul hfast (by omega)
    unfold timeoutTicks
    omega
  unfold nextByte waitForStart
  dsimp only
  rw [show (scopeHal timingHz line).timingHz = timingHz from rfl]
  generalize (timingHz + RBSP_SOFT_UART_START_POLL_HZ - 1) / RBSP_SOFT_UART_START_POLL_HZ = poll
    at hpollNat ⊢
  generalize (timingHz.toUInt64 * timeoutUs.toUInt64 / 1000000).toUInt32 = timeout
    at htimeoutNat ⊢
  have hzero : (0 : UInt32).toNat = 0 := rfl
  obtain ⟨scope', hidle⟩ : ∃ scope', pollStart (scopeHal timingHz line) port poll timeout polls 0
      scope = some (false, scope') := by
    refine pollStart_high (by omega) (by omega) (by omega) fun i hi => ?_
    rw [hzero, Nat.zero_add, hpollNat, htimeoutNat] at hi
    rw [hpollNat]
    exact hhigh i hi
  rw [hidle]
  exact ⟨scope', rfl⟩

/-- The timeout behind a byte leaves time for the next one. -/
theorem next_intime {begin : ℝ} {now : ℕ} (hclock : 1000000 ≤ timingHz.toNat)
    (hstop : begin + 9 * bitTicks timingHz ≤ now) :
    begin + 10 * bitTicks timingHz ≤
      now + lastPoll timingHz RBSP_SOFT_UART_NEXT_RESPONSE_TIMEOUT_US := by
  obtain ⟨hpoll, hhalf⟩ := pollTicks_bounds hclock
  have hbit := le_bitTicks hclock
  have htimeout : timeoutTicks timingHz RBSP_SOFT_UART_NEXT_RESPONSE_TIMEOUT_US =
      timingHz.toNat * 250 / 1000000 := rfl
  have hlast : timingHz.toNat * 250 / 1000000 ≤
      lastPoll timingHz RBSP_SOFT_UART_NEXT_RESPONSE_TIMEOUT_US + pollTicks timingHz := by
    have hdiv := Nat.div_add_mod (timingHz.toNat * 250 / 1000000 - 1) (pollTicks timingHz)
    have hmod := Nat.mod_lt (timingHz.toNat * 250 / 1000000 - 1) hpoll
    unfold lastPoll
    rw [htimeout]
    omega
  have hfloor : timingHz.toNat * 250 < (timingHz.toNat * 250 / 1000000 + 1) * 1000000 := by
    omega
  have hlast' : ((timingHz.toNat * 250 / 1000000 : ℕ) : ℝ) ≤
      lastPoll timingHz RBSP_SOFT_UART_NEXT_RESPONSE_TIMEOUT_US + pollTicks timingHz := by
    exact_mod_cast hlast
  have hfloor' : (timingHz.toNat : ℝ) * 250 <
      ((timingHz.toNat * 250 / 1000000 : ℕ) + 1) * 1000000 := by exact_mod_cast hfloor
  have hticks : (timingHz.toNat : ℝ) = bitTicks timingHz * 40000 := by
    unfold bitTicks
    ring
  rw [hticks] at hfloor'
  linarith

/-- Neither of the timeouts is zero. -/
theorem timeoutTicks_pos (hclock : 1000000 ≤ timingHz.toNat) {timeoutUs : UInt16}
    (htimeout : 250 ≤ timeoutUs.toNat) : 0 < timeoutTicks timingHz timeoutUs := by
  have hproduct : 1000000 * 250 ≤ timingHz.toNat * timeoutUs.toNat :=
    Nat.mul_le_mul hclock htimeout
  unfold timeoutTicks
  omega

/-- A longer timeout takes at least as many ticks. -/
theorem timeoutTicks_mono {before after : UInt16} (h : before.toNat ≤ after.toNat) :
    timeoutTicks timingHz before ≤ timeoutTicks timingHz after :=
  Nat.div_le_div_right (Nat.mul_le_mul_left _ h)

/-- The loop that receives puts the bytes on the line into the ring, if there is room for them. -/
theorem receiveLoop_exact {begin : ℝ} {bytes : List UInt8} {scope : Scope} {ring : ByteRing}
    {queue : List UInt8} {timeoutUs : UInt16} {polls rounds : ℕ}
    (hline : Carries line (bitTicks timingHz) begin bytes scope.now)
    (hclock : 1000000 ≤ timingHz.toNat) (hfast : timingHz.toNat ≤ 1000000000)
    (hqueue : ring.Represents queue)
    (hroom : bytes.length ≤ ring.free) (hrounds : bytes.length < rounds)
    (hlater : bytes ≠ [] → scope.now ≤ begin)
    (hintime : bytes ≠ [] → begin ≤ scope.now + lastPoll timingHz timeoutUs)
    (htimeout : 250 ≤ timeoutUs.toNat) (hshort : timeoutUs.toNat ≤ 3000)
    (hpolls : timeoutTicks timingHz RBSP_SOFT_UART_FIRST_RESPONSE_TIMEOUT_US ≤ polls)
    (port : UInt8) :
    ∃ ring' scope', receiveLoop polls (scopeHal timingHz line) port rounds timeoutUs ring scope =
        some (true, ring', scope') ∧ ring'.Represents (queue ++ bytes) := by
  have henough : timeoutTicks timingHz timeoutUs ≤ polls :=
    (timeoutTicks_mono hshort).trans hpolls
  induction bytes generalizing begin scope ring queue timeoutUs rounds with
  -- The line stays idle, and the timeout ends the loop.
  | nil =>
    obtain ⟨rounds, rfl⟩ := Nat.exists_eq_succ_of_ne_zero (show rounds ≠ 0 by omega)
    have hbit := le_bitTicks hclock
    obtain ⟨scope', hidle⟩ := nextByte_idle hclock hfast henough
      (fun i _ => hline.idle (by linarith) (Nat.le_add_right _ _)) port
    rw [Nat.succ_eq_add_one, receiveLoop, hidle]
    exact ⟨ring, scope', rfl, by rwa [List.append_nil]⟩
  | cons value bytes ih =>
    obtain ⟨rounds, rfl⟩ := Nat.exists_eq_succ_of_ne_zero (show rounds ≠ 0 by omega)
    rw [List.length_cons] at hroom hrounds
    have hne := List.cons_ne_nil value bytes
    -- The next byte is found in time, and there is room for it.
    obtain ⟨scope', hnext, hcarries, hstop, hover⟩ := nextByte_exact hline hclock hfast
      (hlater hne) (hintime hne) (timeoutTicks_pos hclock htimeout) henough port
    rcases push_free hqueue value with ⟨hfull, -⟩ | ⟨ring', hpush, hqueue', hfree⟩
    · omega
    -- The bytes behind it follow without a gap.
    obtain ⟨last, lastScope, hloop, hlast⟩ : ∃ last lastScope,
        receiveLoop polls (scopeHal timingHz line) port rounds
          RBSP_SOFT_UART_NEXT_RESPONSE_TIMEOUT_US ring' scope' = some (true, last, lastScope) ∧
        last.Represents (queue ++ [value] ++ bytes) :=
      ih hcarries hqueue' (by omega) (by omega) (fun _ => hover.le)
        (fun _ => next_intime hclock hstop) (by decide) (by decide)
        ((timeoutTicks_mono (by decide)).trans hpolls)
    rw [Nat.succ_eq_add_one, receiveLoop, hnext]
    dsimp only
    rw [hpush]
    rw [List.append_assoc] at hlast
    exact ⟨last, lastScope, hloop, hlast⟩

/-- The time at which a write lets the line go. -/
def release (timingHz : UInt32) (data : List UInt8) (scope : Scope) : ℕ :=
  scope.now + halfBits timingHz (4 + 20 * data.length)

/-- A write succeeds, and leaves these bytes in the ring of the port. The polls have a bound that
does not matter if it is large enough. -/
def Leaves (uart : SoftUart Scope) (port : UInt8) (data : List UInt8) (scope : Scope)
    (bytes : List UInt8) : Prop :=
  ∃ enough, ∀ polls ≥ enough, ∃ uart' scope' entry',
    uart.write polls port data scope = some (true, uart', scope') ∧
    uart'.port? port = some entry' ∧ entry'.receiveRing.Represents bytes

/-- A write up to the loop that receives. -/
theorem write_scopeHal {ports : List SoftUartPort} {port : UInt8} {entry : SoftUartPort}
    {data : List UInt8} (hport : ports[port.toNat]? = some entry)
    (hconfigured : entry.configured = true) (hpos : 0 < data.length) (hlength : data.length ≤ 32)
    (hclock : 80000 ≤ timingHz.toNat) (line : ℕ → Bool) (scope : Scope) :
    ∃ released : Scope, released.now = release timingHz data scope ∧
      ∀ polls, (SoftUart.mk (scopeHal timingHz line) ports).write polls port data scope =
        (receiveLoop polls (scopeHal timingHz line) port (entry.receiveRing.free + 1)
          RBSP_SOFT_UART_FIRST_RESPONSE_TIMEOUT_US entry.receiveRing released).map fun outcome =>
            (outcome.1, (SoftUart.mk (scopeHal timingHz line) ports).store port
              { entry with receiveRing := outcome.2.1 }, outcome.2.2) := by
  obtain ⟨opened, hopened⟩ :
      ∃ opened : Scope, opened = { scope with edges := scope.edges ++ [(scope.now, true)] } :=
    ⟨_, rfl⟩
  have hbad : ¬(data.length = 0 ∨ data.length > RBSP_SOFT_UART_MAX_WRITE_BYTES ∨
      (!entry.configured) = true) := by
    have hmax : RBSP_SOFT_UART_MAX_WRITE_BYTES = 32 := rfl
    rw [hconfigured, hmax]
    simp only [Bool.not_true, Bool.false_eq_true, or_false]
    omega
  have htransmitted : (SoftUart.mk (scopeHal timingHz line) ports).transmitted port data scope =
      some (entry, transmit (scopeHal timingHz line) port data
        ⟨timingHz / 80000, timingHz % 80000, 80000, 0⟩ opened) := by
    rw [transmitted, port?, hport]
    dsimp only
    rw [if_neg hbad, timingInit_scopeHal hclock, hopened]
    rfl
  obtain ⟨hnow, -⟩ := waveform_transmit hclock (timingInit_scopeHal hclock) opened port data
  refine ⟨_, ?_, fun polls => (write_of_transmitted htransmitted polls).2⟩
  rw [release]
  refine hnow.trans ?_
  rw [hopened]

/-- On a board with a clock from 1 MHz to 1 GHz whose line carries bytes without a gap between them,
of which the first begins no later than the last poll of the timeout, a write stores these bytes if
there is room for them. And whatever bytes are transmitted, the edge of each bit, and the end of the
last one, is less than a tick from where it should be. -/
theorem loopback_exact (timingHz : UInt32) (hclock : 1000000 ≤ timingHz.toNat)
    (hfast : timingHz.toNat ≤ 1000000000) :
    (∀ (ports : List SoftUartPort) (port : UInt8) (entry : SoftUartPort) (queue : List UInt8)
        (data bytes : List UInt8) (scope : Scope) (begin : ℝ),
      ports[port.toNat]? = some entry → entry.configured = true →
      entry.receiveRing.Represents queue → bytes.length ≤ entry.receiveRing.free →
      0 < data.length → data.length ≤ RBSP_SOFT_UART_MAX_WRITE_BYTES →
      release timingHz data scope ≤ begin →
      begin ≤ release timingHz data scope +
        lastPoll timingHz RBSP_SOFT_UART_FIRST_RESPONSE_TIMEOUT_US →
      (SoftUart.mk (scopeHal timingHz (idealLine timingHz begin bytes)) ports).Leaves port data
        scope (queue ++ bytes)) ∧
    ∀ (line : ℕ → Bool) (port : UInt8) (data : List UInt8) (scope : Scope)
      (timing : SoftUartTiming), timingInit (scopeHal timingHz line) = some timing →
      ∃ edges, (transmit (scopeHal timingHz line) port data timing scope).edges =
          scope.edges ++ edges ∧ edges.length = 10 * data.length ∧
        (∀ (i : ℕ) (high : Bool), (data.flatMap frameBits)[i]? = some high → ∃ tick : ℕ,
          edges[i]? = some (tick, high) ∧
          |(tick : ℝ) - (scope.now + (i + 2) * bitTicks timingHz)| < 1) ∧
        |((transmit (scopeHal timingHz line) port data timing scope).now : ℝ) -
          (scope.now + (10 * data.length + 2) * bitTicks timingHz)| < 1 := by
  have hslow : 80000 ≤ timingHz.toNat := by omega
  constructor
  -- The first byte begins before the last poll, so that the loop finds each of them.
  · intro ports port entry queue data bytes scope begin hport hconfigured hqueue hroom hpos hlength
      hlater hintime
    refine ⟨timeoutTicks timingHz RBSP_SOFT_UART_FIRST_RESPONSE_TIMEOUT_US, fun polls hpolls => ?_⟩
    obtain ⟨released, hreleased, hwrite⟩ := write_scopeHal hport hconfigured hpos hlength hslow
      (idealLine timingHz begin bytes) scope
    have hbit := le_bitTicks hclock
    rw [← hreleased] at hlater hintime
    obtain ⟨ring', scope', hloop, hlast⟩ := receiveLoop_exact
      (carries_idealLine (by linarith) begin bytes released.now) hclock hfast hqueue hroom
      (Nat.lt_succ_of_le hroom) (fun _ => hlater) (fun _ => hintime) (by decide) (by decide) hpolls
      port
    refine ⟨(SoftUart.mk (scopeHal timingHz (idealLine timingHz begin bytes)) ports).store port
      { entry with receiveRing := ring' }, scope', { entry with receiveRing := ring' }, ?_, ?_,
      hlast⟩
    · rw [hwrite, hloop]
      rfl
    · have hlt : port.toNat < ports.length := (List.getElem?_eq_some_iff.1 hport).1
      exact List.getElem?_set_self hlt
  -- Each edge stands where its halves of bits put it, less than a tick away.
  · intro line port data scope timing htiming
    obtain ⟨hnow, edges, happend, hlength, htimes⟩ :=
      waveform_transmit hslow htiming scope port data
    refine ⟨edges, happend, hlength, fun i high hbit => ⟨_, htimes i high hbit, ?_⟩, ?_⟩
    · obtain ⟨hlt, hle⟩ := halfBits_bounds timingHz (4 + 2 * i)
      push_cast at hlt hle ⊢
      rw [abs_lt]
      constructor <;> linarith
    · obtain ⟨hlt, hle⟩ := halfBits_bounds timingHz (4 + 20 * data.length)
      rw [hnow]
      push_cast at hlt hle ⊢
      rw [abs_lt]
      constructor <;> linarith

/-! ## At 48 MHz -/

/-- A configured port with an empty ring. -/
def emptyPort : SoftUartPort := ⟨⟨List.replicate 16 0, 0, 0⟩, true⟩

/-- The ring of a port that has received nothing holds no byte. -/
theorem represents_emptyPort : emptyPort.receiveRing.Represents [] :=
  ⟨by decide, by decide, by decide, rfl, Fifo.stands_nil _ _⟩

/-- Two bytes that come back a hundred ticks after the line has been let go. -/
theorem loopback_exact_two_bytes :
    (SoftUart.mk (scopeHal 48000000 (idealLine 48000000
        (release 48000000 [5] ⟨0, []⟩ + 100) [0xA5, 0x5A])) [emptyPort]).Leaves 0 [5] ⟨0, []⟩
      [0xA5, 0x5A] := by
  have hlast : 100 ≤ lastPoll 48000000 RBSP_SOFT_UART_FIRST_RESPONSE_TIMEOUT_US := by
    decide +kernel
  have hlast' : (100 : ℝ) ≤ lastPoll 48000000 RBSP_SOFT_UART_FIRST_RESPONSE_TIMEOUT_US := by
    exact_mod_cast hlast
  exact (loopback_exact 48000000 (by decide) (by decide)).1 [emptyPort] 0 emptyPort [] [5]
    [0xA5, 0x5A] ⟨0, []⟩ (release 48000000 [5] ⟨0, []⟩ + 100) rfl rfl represents_emptyPort
    (by decide) (by decide) (by decide) (by linarith) (by linarith)

/-- The last poll takes place 143976 ticks behind the first one, and the timeout is over 24 ticks
later. A byte that begins between them is missed. -/
theorem late_answer_missed :
    143980 < timeoutTicks 48000000 RBSP_SOFT_UART_FIRST_RESPONSE_TIMEOUT_US ∧
      ¬(SoftUart.mk (scopeHal 48000000 (idealLine 48000000
          (release 48000000 [5] ⟨0, []⟩ + 143980) [0xFF])) [emptyPort]).Leaves 0 [5] ⟨0, []⟩
        [0xFF] := by
  refine ⟨by decide +kernel, fun ⟨enough, hleaves⟩ => ?_⟩
  have hport : [emptyPort][(0 : UInt8).toNat]? = some emptyPort := rfl
  have hclock : 1000000 ≤ (48000000 : UInt32).toNat := by decide
  have hslow : 80000 ≤ (48000000 : UInt32).toNat := by decide
  have hfast : (48000000 : UInt32).toNat ≤ 1000000000 := by decide
  obtain ⟨line, hline⟩ : ∃ line, line = idealLine 48000000
    (release 48000000 [5] ⟨0, []⟩ + 143980) [0xFF] := ⟨_, rfl⟩
  rw [← hline] at hleaves
  have hpos : 0 < [(5 : UInt8)].length := by decide
  have hlength : [(5 : UInt8)].length ≤ 32 := by decide
  obtain ⟨released, hreleased, hwrite⟩ :=
    write_scopeHal hport rfl hpos hlength hslow line ⟨0, []⟩
  obtain ⟨polls, hpolls⟩ : ∃ polls, polls = enough +
    timeoutTicks 48000000 RBSP_SOFT_UART_FIRST_RESPONSE_TIMEOUT_US := ⟨_, rfl⟩
  -- Every poll takes place before the byte begins.
  have hhigh : ∀ i, i * pollTicks 48000000 <
      timeoutTicks 48000000 RBSP_SOFT_UART_FIRST_RESPONSE_TIMEOUT_US →
      line (released.now + i * pollTicks 48000000) = true := by
    intro i hi
    have hpoll : pollTicks 48000000 = 24 := by decide +kernel
    have htimeout : timeoutTicks 48000000 RBSP_SOFT_UART_FIRST_RESPONSE_TIMEOUT_US = 144000 := by
      decide +kernel
    rw [hpoll, htimeout] at hi
    have hbefore : released.now + i * 24 < release 48000000 [5] ⟨0, []⟩ + 143980 := by omega
    rw [hline, hpoll]
    refine if_pos ?_
    exact_mod_cast hbefore
  obtain ⟨scope', hidle⟩ := nextByte_idle hclock hfast
    (hpolls ▸ Nat.le_add_left _ _ :
      timeoutTicks 48000000 RBSP_SOFT_UART_FIRST_RESPONSE_TIMEOUT_US ≤ polls) hhigh 0
  obtain ⟨uart', last, entry', hdone, hport', hbytes⟩ := hleaves polls (by omega)
  rw [hwrite, receiveLoop, hidle] at hdone
  obtain ⟨-, hstored⟩ := Prod.mk.inj (Option.some.inj hdone)
  obtain ⟨hstored, -⟩ := Prod.mk.inj hstored
  rw [← hstored] at hport'
  obtain rfl : emptyPort = entry' := Option.some.inj hport'
  have hsize := hbytes.size_eq
  exact absurd hsize (by decide)

end RemoteBSP.Firmware.SoftUart
