import RemoteBSP.Lib.Fifo

/-!
# The byte ring of the firmware

`firmware/src/byte_ring.c`, by which the interrupt handlers and the main loop of a board hand over
bytes. The ring tells empty from full by a cell that it never fills, and `head` and `tail` go round
a storage that the caller provides. `Represents` relates a ring to the queue of the bytes in it;
`refines_fifo` says that no sequence of calls can tell the ring from a queue with one place
less than the storage has. The indices stay below the size of the storage, so that no `size_t`
wraps.
-/

namespace RemoteBSP.Firmware

/-- `rbsp_byte_ring_t`. `storage_size` is the length of the storage. -/
structure ByteRing where
  /-- The cells, which are bytes of the caller. -/
  storage : List UInt8
  /-- The cell that the next byte is written to. -/
  head : ℕ
  /-- The cell that the oldest byte is read from. -/
  tail : ℕ
deriving DecidableEq, Repr

namespace ByteRing

/-- `storage_size`, the number of the cells. -/
def storageSize (ring : ByteRing) : ℕ := ring.storage.length

/-- `rbsp_byte_ring_init`, which fails if there is no room for a byte. -/
def init (storage : List UInt8) : Option ByteRing :=
  if storage.length < 2 then none else some { storage := storage, head := 0, tail := 0 }

/-- `rbsp_byte_ring_clear`, which forgets the bytes and leaves the cells. -/
def clear (ring : ByteRing) : ByteRing := { ring with head := 0, tail := 0 }

/-- `rbsp_byte_ring_size`, the number of bytes that are held. -/
def size (ring : ByteRing) : ℕ :=
  if ring.storageSize < 2 then 0
  else if ring.head ≥ ring.tail then ring.head - ring.tail
  else ring.storageSize - ring.tail + ring.head

/-- `rbsp_byte_ring_free`, the number of bytes that there is room for. -/
def free (ring : ByteRing) : ℕ :=
  if ring.storageSize < 2 then 0 else ring.storageSize - 1 - ring.size

/-- The cell behind another one, as `push` and `pop` find it. -/
def next (ring : ByteRing) (index : ℕ) : ℕ :=
  if index + 1 = ring.storageSize then 0 else index + 1

/-- `rbsp_byte_ring_push`, which takes no byte if the ring is full. -/
def push (ring : ByteRing) (value : UInt8) : ByteRing × Bool :=
  if ring.storageSize < 2 then (ring, false)
  else if ring.next ring.head = ring.tail then (ring, false)
  else ({ ring with
    storage := ring.storage.set ring.head value
    head := ring.next ring.head }, true)

/-- `rbsp_byte_ring_pop`, the oldest byte if there is one. -/
def pop (ring : ByteRing) : ByteRing × Option UInt8 :=
  if ring.storageSize < 2 ∨ ring.head = ring.tail then (ring, none)
  else ({ ring with tail := ring.next ring.tail }, some (ring.storage.getD ring.tail 0))

/-- The loop of `rbsp_byte_ring_write_exact` over the bytes. -/
def pushAll (ring : ByteRing) : List UInt8 → ByteRing × Bool
  | [] => (ring, true)
  | value :: data =>
    match ring.push value with
    | (ring', true) => pushAll ring' data
    | (ring', false) => (ring', false)

/-- `rbsp_byte_ring_write_exact`, which takes all bytes or none. -/
def writeExact (ring : ByteRing) (data : List UInt8) : ByteRing × Bool :=
  if data.length = 0 then (ring, true)
  else if data.length > ring.free then (ring, false)
  else ring.pushAll data

/-- `rbsp_byte_ring_read`: the bytes that it has written to `data`, at most `capacity` of them. -/
def read (ring : ByteRing) : ℕ → ByteRing × List UInt8
  | 0 => (ring, [])
  | capacity + 1 =>
    match ring.pop with
    | (ring', some value) => ((read ring' capacity).1, value :: (read ring' capacity).2)
    | (ring', none) => (ring', [])

/-- A call of the ring, with what it returns. -/
def step (ring : ByteRing) : Fifo.Call UInt8 → ByteRing × Fifo.Result UInt8
  | .push value => ((ring.push value).1, .accepted (ring.push value).2)
  | .pop => (ring.pop.1, .popped ring.pop.2)
  | .writeExact data => ((ring.writeExact data).1, .accepted (ring.writeExact data).2)
  | .read capacity => ((ring.read capacity).1, .elements (ring.read capacity).2)
  | .clear => (ring.clear, .done)
  | .size => (ring, .number ring.size)
  | .free => (ring, .number ring.free)

/-- A ring as a machine, with the calls and results of a queue. -/
def machine : Machine ByteRing (Fifo.Call UInt8) (Fifo.Result UInt8) := ⟨step⟩

/-! ## The queue in a ring -/

/-- The bytes of the queue are those in the ring. -/
structure Represents (ring : ByteRing) (queue : List UInt8) : Prop where
  /-- There is room for a byte. -/
  two_le : 2 ≤ ring.storageSize
  /-- The first byte has a cell. -/
  tail_lt : ring.tail < ring.storageSize
  /-- One cell stays empty, so that a full ring differs from an empty one. -/
  length_lt : queue.length < ring.storageSize
  /-- The next byte is put behind the others. -/
  head : ring.head = (ring.tail + queue.length) % ring.storageSize
  /-- The bytes stand behind each other. -/
  stands : Fifo.Stands ring.storage ring.tail queue

variable {ring : ByteRing} {queue : List UInt8}

/-- A ring that has just been initialised is empty. -/
theorem represents_init {storage : List UInt8} (h : init storage = some ring) :
    ring.Represents [] ∧ ring.storageSize = storage.length := by
  unfold init at h
  split_ifs at h with hsmall
  obtain rfl := Option.some.inj h
  have htwo : 2 ≤ storage.length := by omega
  have hpos : 0 < storage.length := by omega
  exact ⟨⟨htwo, hpos, hpos, (Nat.zero_mod _).symm, Fifo.stands_nil _ _⟩, rfl⟩

namespace Represents

/-- The cell behind the last one is the first. -/
theorem next_eq (h : ring.Represents queue) {index : ℕ} (hlt : index < ring.storageSize) :
    ring.next index = (index + 1) % ring.storageSize := by
  have htwo := h.two_le
  rw [next, Fifo.add_mod_eq_ite hlt (by omega)]
  split_ifs <;> omega

/-- The cell that is written next lies behind the bytes that are held. -/
theorem head_eq (h : ring.Represents queue) :
    ring.head = if ring.tail + queue.length < ring.storageSize then ring.tail + queue.length
      else ring.tail + queue.length - ring.storageSize :=
  h.head.trans (Fifo.add_mod_eq_ite h.tail_lt h.length_lt.le)

/-- The size of a ring is the number of bytes in it. -/
theorem size_eq (h : ring.Represents queue) : ring.size = queue.length := by
  have htwo := h.two_le
  have htail := h.tail_lt
  have hlength := h.length_lt
  have hhead := h.head_eq
  unfold size
  split_ifs at hhead ⊢ <;> omega

/-- A ring has room for one byte less than it has cells. -/
theorem free_eq (h : ring.Represents queue) :
    ring.free = ring.storageSize - 1 - queue.length := by
  rw [free, if_neg (not_lt.2 h.two_le), h.size_eq]

/-- A ring is full if one cell is left. -/
theorem next_head_eq_tail_iff (h : ring.Represents queue) :
    ring.next ring.head = ring.tail ↔ queue.length + 1 = ring.storageSize := by
  have htwo := h.two_le
  have htail := h.tail_lt
  have hlength := h.length_lt
  have hhead := h.head_eq
  unfold next
  split_ifs at hhead ⊢ <;> omega

/-- A ring is empty if `head` and `tail` are the same cell. -/
theorem head_eq_tail_iff (h : ring.Represents queue) : ring.head = ring.tail ↔ queue = [] := by
  have htail := h.tail_lt
  have hlength := h.length_lt
  have hhead := h.head_eq
  rw [← List.length_eq_zero_iff]
  split_ifs at hhead <;> omega

/-- A byte that there is room for is put behind the others. -/
theorem push (h : ring.Represents queue) (value : UInt8)
    (hroom : queue.length + 1 < ring.storageSize) :
    (ring.push value).2 = true ∧ (ring.push value).1.Represents (queue ++ [value]) ∧
      (ring.push value).1.storageSize = ring.storageSize := by
  have hhead : ring.head < ring.storageSize := h.head ▸ Nat.mod_lt _ (by omega)
  have hnext : ¬ring.next ring.head = ring.tail := by
    rw [h.next_head_eq_tail_iff]
    omega
  have hsize : ByteRing.storageSize { ring with
      storage := ring.storage.set ring.head value
      head := ring.next ring.head } = ring.storageSize := List.length_set
  have hlength : (queue ++ [value]).length = queue.length + 1 := by simp
  rw [ByteRing.push, if_neg (not_lt.2 h.two_le), if_neg hnext]
  refine ⟨rfl, ?_, hsize⟩
  constructor
  · exact h.two_le.trans_eq hsize.symm
  · exact h.tail_lt.trans_eq hsize.symm
  · rw [hlength]
    exact hroom.trans_eq hsize.symm
  · rw [hsize, hlength, ← Nat.add_assoc, ← Nat.mod_add_mod, ← h.head]
    exact h.next_eq hhead
  · have hwritten := h.stands.push h.tail_lt h.length_lt value
    rwa [show ring.storage.length = ring.storageSize from rfl, ← h.head] at hwritten

/-- A full ring takes no byte, and stays as it is. -/
theorem push_full (h : ring.Represents queue) (value : UInt8)
    (hfull : ¬queue.length + 1 < ring.storageSize) : ring.push value = (ring, false) := by
  have hlength := h.length_lt
  have hnext : ring.next ring.head = ring.tail := by
    rw [h.next_head_eq_tail_iff]
    omega
  rw [ByteRing.push, if_neg (not_lt.2 h.two_le), if_pos hnext]

/-- The first byte is taken out. -/
theorem pop {value : UInt8} (h : ring.Represents (value :: queue)) :
    ring.pop.2 = some value ∧ ring.pop.1.Represents queue ∧
      ring.pop.1.storageSize = ring.storageSize := by
  have hne : ¬(ring.storageSize < 2 ∨ ring.head = ring.tail) := by
    rw [h.head_eq_tail_iff, not_or]
    exact ⟨not_lt.2 h.two_le, List.cons_ne_nil _ _⟩
  obtain ⟨hfirst, hrest⟩ := h.stands.pop h.tail_lt
  have hnext := h.next_eq h.tail_lt
  have hlength := h.length_lt
  rw [List.length_cons] at hlength
  rw [ByteRing.pop, if_neg hne]
  refine ⟨?_, ?_, rfl⟩
  · rw [List.getD_eq_getElem?_getD, hfirst, Option.getD_some]
  · constructor
    · exact h.two_le
    · exact hnext ▸ Nat.mod_lt _ (by omega)
    · exact Nat.lt_of_succ_lt hlength
    · change ring.head = (ring.next ring.tail + queue.length) % ring.storageSize
      rw [hnext, h.head, List.length_cons, Nat.mod_add_mod, Nat.add_assoc, Nat.add_comm 1]
    · exact hnext ▸ hrest

/-- Nothing is taken out of an empty ring. -/
theorem pop_nil (h : ring.Represents []) : ring.pop = (ring, none) := by
  rw [ByteRing.pop, if_pos (.inr (h.head_eq_tail_iff.2 rfl))]

/-- The loop of `write_exact` puts all bytes in if there is room for them. -/
theorem pushAll (h : ring.Represents queue) (data : List UInt8)
    (hroom : queue.length + data.length < ring.storageSize) :
    (ring.pushAll data).2 = true ∧ (ring.pushAll data).1.Represents (queue ++ data) ∧
      (ring.pushAll data).1.storageSize = ring.storageSize := by
  induction data generalizing ring queue with
  | nil => exact ⟨rfl, by rwa [List.append_nil], rfl⟩
  | cons value data ih =>
    rw [List.length_cons] at hroom
    obtain ⟨hsuccess, hnext, hsize⟩ := h.push value (by omega)
    have hroom' : (queue ++ [value]).length + data.length < (ring.push value).1.storageSize := by
      rw [hsize, List.length_append, List.length_singleton]
      omega
    obtain ⟨hall, hlast, hsize'⟩ := ih hnext hroom'
    have hstep : ring.pushAll (value :: data) = (ring.push value).1.pushAll data := by
      rw [ByteRing.pushAll]
      generalize ring.push value = outcome at hsuccess
      obtain ⟨ring', success⟩ := outcome
      dsimp only at hsuccess
      rw [hsuccess]
    rw [hstep]
    rw [List.append_assoc] at hlast
    exact ⟨hall, hlast, hsize'.trans hsize⟩

/-- `write_exact` puts the whole block in, or nothing. -/
theorem writeExact (h : ring.Represents queue) (data : List UInt8) :
    (queue.length + data.length < ring.storageSize ∧ (ring.writeExact data).2 = true ∧
        (ring.writeExact data).1.Represents (queue ++ data) ∧
        (ring.writeExact data).1.storageSize = ring.storageSize) ∨
      (¬queue.length + data.length < ring.storageSize ∧
        ring.writeExact data = (ring, false)) := by
  have hlength := h.length_lt
  have hfree := h.free_eq
  rw [ByteRing.writeExact]
  split_ifs with hempty hmany
  · obtain rfl := List.length_eq_zero_iff.1 hempty
    refine .inl ⟨by simpa using hlength, rfl, ?_, rfl⟩
    rwa [List.append_nil]
  · exact .inr ⟨by omega, rfl⟩
  · have hroom : queue.length + data.length < ring.storageSize := by omega
    exact .inl ⟨hroom, h.pushAll data hroom⟩

/-- `read` takes the first bytes out. -/
theorem read (h : ring.Represents queue) (capacity : ℕ) :
    (ring.read capacity).2 = queue.take capacity ∧
      (ring.read capacity).1.Represents (queue.drop capacity) ∧
      (ring.read capacity).1.storageSize = ring.storageSize := by
  induction capacity generalizing ring queue with
  | zero => exact ⟨List.take_zero.symm, h, rfl⟩
  | succ capacity ih =>
    cases queue with
    | nil =>
      rw [ByteRing.read, h.pop_nil]
      exact ⟨List.take_nil.symm, by rwa [List.drop_nil], rfl⟩
    | cons value queue =>
      obtain ⟨hvalue, hnext, hsize⟩ := h.pop
      obtain ⟨hread, hlast, hsize'⟩ := ih hnext
      have hstep : ring.read (capacity + 1) =
          ((ring.pop.1.read capacity).1, value :: (ring.pop.1.read capacity).2) := by
        rw [ByteRing.read]
        generalize ring.pop = outcome at hvalue
        obtain ⟨ring', popped⟩ := outcome
        dsimp only at hvalue
        rw [hvalue]
      rw [hstep, List.take_succ_cons, List.drop_succ_cons]
      exact ⟨congrArg _ hread, hlast, hsize'.trans hsize⟩

/-- A ring that has been cleared is empty. -/
theorem clear (h : ring.Represents queue) : ring.clear.Represents [] := by
  have htwo := h.two_le
  have hpos : 0 < ring.storageSize := by omega
  exact ⟨h.two_le, hpos, hpos, (Nat.zero_mod _).symm, Fifo.stands_nil _ _⟩

/-- In each call the ring does what the queue does. -/
theorem step (h : ring.Represents queue) (call : Fifo.Call UInt8) :
    ((ring.step call).1.Represents (Fifo.step (ring.storageSize - 1) queue call).1 ∧
        (ring.step call).1.storageSize = ring.storageSize) ∧
      (ring.step call).2 = (Fifo.step (ring.storageSize - 1) queue call).2 := by
  have htwo := h.two_le
  cases call with
  -- A push and a whole block go in if there is room behind the queue.
  | push value =>
    dsimp only [ByteRing.step, Fifo.step]
    split_ifs with hroom
    · obtain ⟨hsuccess, hnext, hsize⟩ := h.push value (by omega)
      exact ⟨⟨hnext, hsize⟩, congrArg _ hsuccess⟩
    · rw [h.push_full value (by omega)]
      exact ⟨⟨h, rfl⟩, rfl⟩
  -- A pop takes the head of the queue, which stands where the ring reads.
  | pop =>
    dsimp only [ByteRing.step, Fifo.step]
    cases queue with
    | nil =>
      rw [h.pop_nil]
      exact ⟨⟨h, rfl⟩, rfl⟩
    | cons value queue =>
      obtain ⟨hvalue, hnext, hsize⟩ := h.pop
      exact ⟨⟨hnext, hsize⟩, congrArg _ hvalue⟩
  | writeExact data =>
    dsimp only [ByteRing.step, Fifo.step]
    rcases h.writeExact data with ⟨hroom, hsuccess, hnext, hsize⟩ | ⟨hroom, hsame⟩
    · rw [if_pos (by omega)]
      exact ⟨⟨hnext, hsize⟩, congrArg _ hsuccess⟩
    · rw [if_neg (by omega), hsame]
      exact ⟨⟨h, rfl⟩, rfl⟩
  | read capacity =>
    obtain ⟨hread, hnext, hsize⟩ := h.read capacity
    exact ⟨⟨hnext, hsize⟩, congrArg _ hread⟩
  | clear => exact ⟨⟨h.clear, rfl⟩, rfl⟩
  | size => exact ⟨⟨h, rfl⟩, congrArg _ h.size_eq⟩
  | free => exact ⟨⟨h, rfl⟩, congrArg _ h.free_eq⟩

end Represents

/-- No sequence of calls can tell an initialised ring from a queue with one place less than the
storage has; and a block that does not fit changes nothing at all. -/
theorem refines_fifo {storage : List UInt8} (hsize : 2 ≤ storage.length)
    (calls : List (Fifo.Call UInt8)) :
    ∃ ring, init storage = some ring ∧
      machine.outcomes ring calls =
        (Fifo.machine UInt8 (storage.length - 1)).outcomes [] calls ∧
      (machine.run ring calls).Represents
        ((Fifo.machine UInt8 (storage.length - 1)).run [] calls) ∧
      ∀ data, ((machine.run ring calls).writeExact data).2 = false →
        ((machine.run ring calls).writeExact data).1 = machine.run ring calls := by
  have hinit : init storage = some { storage := storage, head := 0, tail := 0 } :=
    if_neg (not_lt.2 hsize)
  obtain ⟨hempty, hstorage⟩ := represents_init hinit
  obtain ⟨hrun, hresults⟩ := machine.outcomes_eq_of_related
    (N := Fifo.machine UInt8 (storage.length - 1))
    (R := fun ring queue => ring.Represents queue ∧ ring.storageSize = storage.length)
    (fun ring queue call hrelated => by
      obtain ⟨⟨hnext, hsame⟩, hresult⟩ := hrelated.1.step call
      rw [hrelated.2] at hnext hsame hresult
      exact ⟨⟨hnext, hsame⟩, hresult⟩) ⟨hempty, hstorage⟩ calls
  refine ⟨_, hinit, hresults, hrun.1, fun data hfailed => ?_⟩
  rcases hrun.1.writeExact data with ⟨-, hsuccess, -⟩ | ⟨-, hsame⟩
  · rw [hsuccess] at hfailed
    cases hfailed
  · rw [hsame]

/-- A ring of eight bytes that is filled, emptied in part, filled around the end, and asked to take
more than fits. -/
theorem refines_fifo_eight :
    2 ≤ (List.replicate 8 (0 : UInt8)).length ∧
      ∃ ring, init (List.replicate 8 0) = some ring ∧
        machine.outcomes ring [.writeExact [1, 2, 3, 4, 5], .read 3, .writeExact [6, 7, 8, 9, 10],
          .size, .writeExact [11, 12], .push 11, .read 8] =
        [.accepted true, .elements [1, 2, 3], .accepted true, .number 7, .accepted false,
          .accepted false, .elements [4, 5, 6, 7, 8, 9, 10]] := by
  have hsize : 2 ≤ (List.replicate 8 (0 : UInt8)).length := by decide
  obtain ⟨ring, hinit, hresults, -⟩ := refines_fifo hsize [.writeExact [1, 2, 3, 4, 5], .read 3,
    .writeExact [6, 7, 8, 9, 10], .size, .writeExact [11, 12], .push 11, .read 8]
  exact ⟨hsize, ring, hinit, hresults.trans (by decide)⟩

end ByteRing

end RemoteBSP.Firmware
