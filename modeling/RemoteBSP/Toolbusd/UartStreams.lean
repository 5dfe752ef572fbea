import Mathlib.Data.Finset.Card
import Mathlib.Data.List.Dedup
import Mathlib.Order.Interval.Finset.Nat
import RemoteBSP.Toolbusd.Clients

/-!
# The streams of the ports

What becomes of the bytes that the ports of the nodes receive, from the events that carry them to
the clients that read them. A stream is a machine of its own (`uartStream`), and the daemon with all
its threads does to each of its streams what the events and the reads of this stream do
(`stream_run`).

A node numbers its events. As long as the daemon misses fewer than `2^31 - 1` of them at a time, and
receives none whose number has become zero on the wire, every byte is accounted for
(`uart_stream_accounting`): `Accounts` is what one event and one read keep.

The daemon keeps its streams when a node is reset. Whether the events of a new object are taken
depends on what the old one has sent (`restarted_stream_taken`).
-/

namespace RemoteBSP.Toolbusd

/-- What reaches the stream of an object. -/
inductive StreamInput
  /-- An event arrives with a number and some bytes. -/
  | event (sequence : UInt32) (payload : List UInt8)
  /-- A client reads so many bytes at most. -/
  | read (maximumLength : ℕ)
deriving DecidableEq, Repr

/-- What becomes of an event or a read. -/
inductive StreamEffect
  /-- The bytes of an event are appended. -/
  | appended (payload : List UInt8)
  /-- An event is discarded, and the stream stays as it was. -/
  | discarded
  /-- Bytes are handed out to a client. -/
  | handedOut (bytes : List UInt8)
deriving DecidableEq, Repr

/-- The bytes of an event that are appended to the stream. -/
def StreamEffect.bytesAppended : StreamEffect → Option (List UInt8)
  | .appended payload => some payload
  | _ => none

/-- The bytes that are handed out. -/
def StreamEffect.bytesHandedOut : StreamEffect → List UInt8
  | .handedOut bytes => bytes
  | _ => []

/-- The number and the bytes of an event. -/
def StreamInput.numbered : StreamInput → Option (UInt32 × List UInt8)
  | .event sequence payload => some (sequence, payload)
  | .read _ => none

/-- A stream as a machine over the events and the reads. -/
def uartStream : Machine UartStreamBuffer StreamInput StreamEffect where
  step stream input :=
    match input with
    | .event sequence payload =>
      let (accept, stream) := stream.acceptSequence sequence
      if accept then (payload.foldl UartStreamBuffer.push stream, .appended payload)
      else (stream, .discarded)
    | .read maximumLength =>
      ({ stream with bytes := stream.bytes.drop maximumLength },
        .handedOut (stream.bytes.take maximumLength))

/-! ## Bytes -/

/-- How the bytes that have left a buffer left it, in order: handed out, or not. -/
abbrev Departures : Type := List (Bool × UInt8)

/-- The bytes handed out among those that have left. -/
def Departures.handedOut (left : Departures) : List UInt8 := (left.filter Prod.fst).map Prod.snd

/-- The bytes dropped among those that have left. -/
def Departures.dropped (left : Departures) : List UInt8 :=
  (left.filter fun departure => !departure.1).map Prod.snd

/-- The bytes handed out first and later. -/
theorem Departures.handedOut_append (left later : Departures) :
    Departures.handedOut (left ++ later) = left.handedOut ++ later.handedOut := by
  unfold handedOut
  rw [List.filter_append, List.map_append]

/-- The bytes dropped first and later. -/
theorem Departures.dropped_append (left later : Departures) :
    Departures.dropped (left ++ later) = left.dropped ++ later.dropped := by
  unfold dropped
  rw [List.filter_append, List.map_append]

/-- All bytes of a read are handed out. -/
def Departures.ofRead (bytes : List UInt8) : Departures := bytes.map fun byte => (true, byte)

/-- What a client reads is handed out, and nothing else is. -/
theorem Departures.ofRead_spec (bytes : List UInt8) :
    (ofRead bytes).map Prod.snd = bytes ∧ (ofRead bytes).handedOut = bytes ∧
      (ofRead bytes).dropped = [] := by
  induction bytes with
  | nil => exact ⟨rfl, rfl, rfl⟩
  | cons byte bytes ih =>
    obtain ⟨hall, hhanded, hdropped⟩ := ih
    exact ⟨congrArg (byte :: ·) hall, congrArg (byte :: ·) hhanded, hdropped⟩

/-- Every byte appended has left the stream, or is still there, in order. -/
def BytesAccounted (appended handedOut : List UInt8) (stream : UartStreamBuffer) : Prop :=
  ∃ left : Departures, appended = left.map Prod.snd ++ stream.bytes ∧
    left.handedOut = handedOut ∧ stream.droppedBytes = UInt64.ofNat left.dropped.length

namespace BytesAccounted

variable {appended handedOut : List UInt8} {stream : UartStreamBuffer}

/-- Of a new stream nothing has been appended or handed out. -/
theorem empty : BytesAccounted [] [] .empty := ⟨[], rfl, rfl, rfl⟩

/-- A byte that is appended may push out the oldest one, which is lost. -/
theorem push (h : BytesAccounted appended handedOut stream) (byte : UInt8) :
    BytesAccounted (appended ++ [byte]) handedOut (stream.push byte) := by
  obtain ⟨left, happended, hhanded, hdropped⟩ := h
  unfold UartStreamBuffer.push
  split
  · next hfull =>
    -- The oldest byte is dropped.
    cases hbytes : stream.bytes with
    | nil =>
      rw [hbytes] at hfull
      exact absurd hfull (by decide)
    | cons oldest rest =>
      refine ⟨left ++ [(false, oldest)], ?_, ?_, ?_⟩
      · rw [happended, hbytes, List.map_append]
        simp only [List.map_cons, List.map_nil, List.tail_cons, List.append_assoc,
          List.cons_append, List.nil_append]
      · rw [← hhanded, Departures.handedOut_append]
        exact List.append_nil _
      · dsimp only
        rw [hdropped, Departures.dropped_append, List.length_append, UInt64.ofNat_add]
        rfl
  · refine ⟨left, ?_, hhanded, hdropped⟩
    rw [happended, List.append_assoc]

/-- The bytes of an event are appended one after the other. -/
theorem pushAll (h : BytesAccounted appended handedOut stream) (payload : List UInt8) :
    BytesAccounted (appended ++ payload) handedOut
      (payload.foldl UartStreamBuffer.push stream) := by
  induction payload generalizing appended stream with
  | nil =>
    rw [List.append_nil]
    exact h
  | cons byte payload ih =>
    have hrest := ih (h.push byte)
    rw [List.append_assoc] at hrest
    exact hrest

/-- The bytes that a client reads leave the stream at its front. -/
theorem take (h : BytesAccounted appended handedOut stream) (maximumLength : ℕ) :
    BytesAccounted appended (handedOut ++ stream.bytes.take maximumLength)
      { stream with bytes := stream.bytes.drop maximumLength } := by
  obtain ⟨left, happended, hhanded, hdropped⟩ := h
  obtain ⟨hread, hreadOut, hnone⟩ := Departures.ofRead_spec (stream.bytes.take maximumLength)
  refine ⟨left ++ .ofRead (stream.bytes.take maximumLength), ?_, ?_, ?_⟩
  · rw [List.map_append, hread, List.append_assoc]
    dsimp only
    rw [List.take_append_drop]
    exact happended
  · rw [Departures.handedOut_append, hhanded, hreadOut]
  · rw [Departures.dropped_append, hnone, List.append_nil]
    exact hdropped

end BytesAccounted

/-- A byte that is appended leaves a buffer no larger than it may be. -/
theorem UartStreamBuffer.length_push {stream : UartStreamBuffer}
    (h : stream.bytes.length ≤ kUartStreamBufferCapacity) (byte : UInt8) :
    (stream.push byte).bytes.length ≤ kUartStreamBufferCapacity := by
  unfold push
  split
  · next hfull =>
    have hpos : 0 < kUartStreamBufferCapacity := by decide
    rw [List.length_append, List.length_tail, List.length_singleton]
    omega
  · rw [List.length_append, List.length_singleton]
    omega

/-- The bytes of an event leave a buffer no larger than it may be. -/
theorem UartStreamBuffer.length_pushAll (stream : UartStreamBuffer)
    (h : stream.bytes.length ≤ kUartStreamBufferCapacity) (payload : List UInt8) :
    (payload.foldl push stream).bytes.length ≤ kUartStreamBufferCapacity := by
  induction payload generalizing stream with
  | nil => exact h
  | cons byte payload ih => exact ih _ (length_push h byte)

/-- The bytes of an event leave the rest of the buffer alone. -/
theorem UartStreamBuffer.pushAll_keeps (stream : UartStreamBuffer) (payload : List UInt8) :
    (payload.foldl push stream).lostEvents = stream.lostEvents ∧
      (payload.foldl push stream).lastSequence = stream.lastSequence ∧
      (payload.foldl push stream).sequenceInitialized = stream.sequenceInitialized := by
  induction payload generalizing stream with
  | nil => exact ⟨rfl, rfl, rfl⟩
  | cons byte payload ih =>
    have hpush : (stream.push byte).lostEvents = stream.lostEvents ∧
        (stream.push byte).lastSequence = stream.lastSequence ∧
        (stream.push byte).sequenceInitialized = stream.sequenceInitialized := by
      unfold push
      split <;> exact ⟨rfl, rfl, rfl⟩
    obtain ⟨hlost, hlast, hinitialized⟩ := ih (stream.push byte)
    exact ⟨hlost.trans hpush.1, hlast.trans hpush.2.1, hinitialized.trans hpush.2.2⟩

/-! ## Numbers -/

/-- One number lies ahead of another one, on the circle of the numbers of 32 bits. -/
def Ahead (last sequence : UInt32) : Prop :=
  sequence - last ≠ 0 ∧ sequence - last < 0x80000000

/-- It can be seen whether a number lies ahead. -/
instance (last sequence : UInt32) : Decidable (Ahead last sequence) :=
  inferInstanceAs (Decidable (_ ∧ _))

/-- The numbers received go up, and the daemon misses fewer than `2^31 - 1` at a time. -/
def InOrder (numbers : List ℕ) : Prop := numbers.IsChain fun m n => m ≤ n ∧ n - m < 2^31

/-- The numbers between the first and the last one received that have not been received. -/
def missed (numbers : List ℕ) : ℕ :=
  match numbers.head?, numbers.getLast? with
  | some first, some last => (Finset.Icc first last \ numbers.toFinset).card
  | _, _ => 0

/-- The numbers received lie between the first and the last one. -/
theorem InOrder.bounds {numbers : List ℕ} (h : InOrder numbers) {first last : ℕ}
    (hfirst : numbers.head? = some first) (hlast : numbers.getLast? = some last) :
    ∀ n ∈ numbers, first ≤ n ∧ n ≤ last := by
  have hsorted : numbers.Pairwise (· ≤ ·) :=
    List.isChain_iff_pairwise.1 (h.imp fun _ _ hstep => hstep.1)
  obtain ⟨rest, rfl⟩ := List.head?_eq_some_iff.1 hfirst
  obtain ⟨earlier, hsplit⟩ := List.getLast?_eq_some_iff.1 hlast
  intro n hmem
  constructor
  · rcases List.mem_cons.1 hmem with rfl | hrest
    · exact le_rfl
    · exact (List.pairwise_cons.1 hsorted).1 n hrest
  · rw [hsplit] at hmem hsorted
    rcases List.mem_append.1 hmem with hearlier | hlast
    · exact (List.pairwise_append.1 hsorted).2.2 n hearlier last List.mem_cons_self
    · exact (List.mem_singleton.1 hlast).le

/-- What is received again is not missed. -/
theorem missed_concat_self {numbers : List ℕ} {last : ℕ} (hlast : numbers.getLast? = some last) :
    missed (numbers ++ [last]) = missed numbers := by
  have hmem : last ∈ numbers := List.mem_of_getLast? hlast
  have hsame : (numbers ++ [last]).toFinset = numbers.toFinset := by
    ext n
    simp only [List.mem_toFinset, List.mem_append, List.mem_singleton]
    exact ⟨fun h => h.elim id fun heq => heq ▸ hmem, .inl⟩
  have hhead : (numbers ++ [last]).head? = numbers.head? :=
    List.head?_append_of_ne_nil _ (List.ne_nil_of_mem hmem)
  unfold missed
  rw [hhead, List.getLast?_concat, hlast, hsame]

/-- The numbers that one more number steps over are missed. -/
theorem missed_concat {numbers : List ℕ} (h : InOrder numbers) {last n : ℕ}
    (hlast : numbers.getLast? = some last) (hlt : last < n) :
    missed (numbers ++ [n]) = missed numbers + (n - last - 1) := by
  have hmem : last ∈ numbers := List.mem_of_getLast? hlast
  obtain ⟨first, rest, hcons⟩ := List.exists_cons_of_ne_nil (List.ne_nil_of_mem hmem)
  have hfirst : numbers.head? = some first := by
    rw [hcons]
    rfl
  have hbounds := h.bounds hfirst hlast
  -- What is missed up to the new number was missed before, or lies between the last two numbers.
  have hsplit : Finset.Icc first n \ (numbers ++ [n]).toFinset =
      (Finset.Icc first last \ numbers.toFinset) ∪ Finset.Ioo last n := by
    ext k
    simp only [Finset.mem_sdiff, Finset.mem_Icc, List.mem_toFinset, List.mem_append,
      List.mem_singleton, not_or, Finset.mem_union, Finset.mem_Ioo]
    have hfirst' := (hbounds last hmem).1
    constructor
    · rintro ⟨hk, hnot, hne⟩
      rcases le_or_gt k last with hle | hgt
      · exact .inl ⟨⟨hk.1, hle⟩, hnot⟩
      · exact .inr ⟨hgt, by omega⟩
    · rintro (⟨hk, hnot⟩ | hk)
      · exact ⟨by omega, hnot, by omega⟩
      · exact ⟨by omega, fun hin => by have := (hbounds k hin).2; omega, by omega⟩
  have hdisjoint : Disjoint (Finset.Icc first last \ numbers.toFinset) (Finset.Ioo last n) := by
    refine Finset.disjoint_left.2 fun k hk hk' => ?_
    have hle := (Finset.mem_Icc.1 (Finset.mem_sdiff.1 hk).1).2
    have hgt := (Finset.mem_Ioo.1 hk').1
    omega
  unfold missed
  rw [List.head?_append_of_ne_nil _ (List.ne_nil_of_mem hmem), List.getLast?_concat, hfirst,
    hlast]
  dsimp only
  rw [hsplit, Finset.card_union_of_disjoint hdisjoint, Nat.card_Ioo]

/-- What is received again is not a new event. -/
theorem dedup_concat_self {numbers : List ℕ} {last : ℕ} (hlast : numbers.getLast? = some last) :
    (numbers ++ [last]).dedup = numbers.dedup := by
  obtain ⟨earlier, rfl⟩ := List.getLast?_eq_some_iff.1 hlast
  clear hlast
  induction earlier with
  | nil => exact List.dedup_cons_of_mem List.mem_cons_self
  | cons n earlier ih =>
    have hsame : n ∈ earlier ++ [last] ++ [last] ↔ n ∈ earlier ++ [last] := by
      simp only [List.mem_append, List.mem_singleton]
      exact ⟨fun h => h.elim id .inr, .inl⟩
    by_cases hmem : n ∈ earlier ++ [last]
    · exact (List.dedup_cons_of_mem (hsame.2 hmem)).trans
        (ih.trans (List.dedup_cons_of_mem hmem).symm)
    · exact (List.dedup_cons_of_notMem fun h => hmem (hsame.1 h)).trans
        ((congrArg (n :: ·) ih).trans (List.dedup_cons_of_notMem hmem).symm)

/-- What has not been received is a new event. -/
theorem dedup_concat {numbers : List ℕ} {n : ℕ} (hnew : n ∉ numbers) :
    (numbers ++ [n]).dedup = numbers.dedup ++ [n] := by
  induction numbers with
  | nil => rfl
  | cons m numbers ih =>
    have hne : n ≠ m := List.ne_of_not_mem_cons hnew
    have hrest : n ∉ numbers := List.not_mem_of_not_mem_cons hnew
    have hsame : m ∈ numbers ++ [n] ↔ m ∈ numbers := by
      simp only [List.mem_append, List.mem_singleton]
      exact ⟨fun h => h.elim id fun heq => absurd heq.symm hne, .inl⟩
    by_cases hmem : m ∈ numbers
    · exact (List.dedup_cons_of_mem (hsame.2 hmem)).trans
        ((ih hrest).trans (congrArg (· ++ [n]) (List.dedup_cons_of_mem hmem).symm))
    · exact (List.dedup_cons_of_notMem fun h => hmem (hsame.1 h)).trans
        ((congrArg (m :: ·) (ih hrest)).trans
          (congrArg (· ++ [n]) (List.dedup_cons_of_notMem hmem).symm))

/-! ## The check of the numbers -/

namespace UartStreamBuffer

/-- A stream that has received an event, and knows its number. -/
def received (stream : UartStreamBuffer) (lostEvents : UInt64) (sequence : UInt32) :
    UartStreamBuffer :=
  { stream with lostEvents := lostEvents, lastSequence := sequence, sequenceInitialized := true }

variable {stream : UartStreamBuffer} {sequence : UInt32}

/-- The first event with a number is taken. -/
theorem acceptSequence_first (hsequence : sequence ≠ 0)
    (hfirst : stream.sequenceInitialized = false) : stream.acceptSequence sequence =
      (true, stream.received stream.lostEvents sequence) := by
  unfold acceptSequence
  rw [if_neg hsequence, hfirst]
  rfl

/-- A later event is taken if its number lies ahead. -/
theorem acceptSequence_ahead (hsequence : sequence ≠ 0)
    (hinitialized : stream.sequenceInitialized = true)
    (hahead : Ahead stream.lastSequence sequence) :
    stream.acceptSequence sequence = (true, stream.received
      (if 1 < sequence - stream.lastSequence then
        stream.lostEvents + (sequence - stream.lastSequence - 1).toUInt64 else stream.lostEvents)
      sequence) := by
  unfold acceptSequence received
  rw [if_neg hsequence, hinitialized, Bool.not_true, if_neg Bool.false_ne_true]
  dsimp only
  rw [if_neg (not_or.2 ⟨hahead.1, UInt32.not_le.2 hahead.2⟩)]

/-- An event that is not ahead of the last one is discarded. -/
theorem acceptSequence_behind (hsequence : sequence ≠ 0)
    (hinitialized : stream.sequenceInitialized = true)
    (hbehind : ¬Ahead stream.lastSequence sequence) :
    stream.acceptSequence sequence = (false, stream) := by
  unfold acceptSequence
  rw [if_neg hsequence, hinitialized, Bool.not_true, if_neg Bool.false_ne_true]
  dsimp only
  rw [if_pos ?_]
  by_contra hnot
  obtain ⟨hne, hle⟩ := not_or.1 hnot
  exact hbehind ⟨hne, UInt32.not_le.1 hle⟩

end UartStreamBuffer

/-- The distance of two numbers on the wire. -/
theorem ofNat_sub_ofNat {m n : ℕ} (h : m ≤ n) :
    UInt32.ofNat n - UInt32.ofNat m = UInt32.ofNat (n - m) := by
  obtain ⟨distance, rfl⟩ := Nat.exists_eq_add_of_le h
  rw [UInt32.ofNat_add, Nat.add_sub_cancel_left, UInt32.add_comm, UInt32.add_sub_cancel]

/-- The counter of the events missed goes up by those that are stepped over. -/
theorem lost_ofNat (count : ℕ) {distance : ℕ} (hpos : 0 < distance) (hlt : distance < 2^31) :
    (if 1 < UInt32.ofNat distance then
        UInt64.ofNat count + (UInt32.ofNat distance - 1).toUInt64 else UInt64.ofNat count) =
      UInt64.ofNat (count + (distance - 1)) := by
  have htoNat : (UInt32.ofNat distance).toNat = distance :=
    UInt32.toNat_ofNat_of_lt' (by rw [UInt32.size]; omega)
  have hone : UInt32.ofNat distance - UInt32.ofNat 1 = UInt32.ofNat (distance - 1) :=
    ofNat_sub_ofNat hpos
  have hless : 1 < UInt32.ofNat distance ↔ 1 < distance := by
    rw [UInt32.lt_iff_toNat_lt, htoNat]
    rfl
  by_cases hmore : 1 < distance
  · rw [if_pos (hless.2 hmore), UInt64.ofNat_add]
    congr 1
    rw [← UInt64.toNat_inj, UInt32.toNat_toUInt64, UInt64.toNat_ofNat_of_lt']
    · change (UInt32.ofNat distance - UInt32.ofNat 1).toNat = _
      rw [hone, UInt32.toNat_ofNat_of_lt']
      rw [UInt32.size]
      omega
    · rw [UInt64.size]
      omega
  · rw [if_neg fun h => hmore (hless.1 h), show distance - 1 = 0 by omega, Nat.add_zero]

/-- A number is zero on the wire if it is a multiple of `2^32`. -/
theorem ofNat_eq_zero_iff {n : ℕ} : UInt32.ofNat n = 0 ↔ 2^32 ∣ n := by
  rw [← UInt32.toNat_inj, UInt32.toNat_ofNat', Nat.dvd_iff_mod_eq_zero]
  rfl

/-- A number that steps over fewer than `2^31 - 1` others lies ahead. -/
theorem ahead_ofNat {m n : ℕ} (hlt : m < n) (hdistance : n - m < 2^31) :
    Ahead (UInt32.ofNat m) (UInt32.ofNat n) := by
  have htoNat : (UInt32.ofNat (n - m)).toNat = n - m :=
    UInt32.toNat_ofNat_of_lt' (by rw [UInt32.size]; omega)
  rw [Ahead, ofNat_sub_ofNat hlt.le]
  constructor
  · intro hzero
    rw [hzero] at htoNat
    change 0 = n - m at htoNat
    omega
  · rw [UInt32.lt_iff_toNat_lt, htoNat]
    exact hdistance

/-! ## Accounts -/

/-- What a stream has to show for the events received: event `n` carries the bytes `data n`. -/
structure Accounts (data : ℕ → List UInt8) (numbers : List ℕ) (appended : List (List UInt8))
    (handedOut : List UInt8) (stream : UartStreamBuffer) : Prop where
  /-- The bytes of each event have been appended once. -/
  once : appended = numbers.dedup.map data
  /-- The bytes are handed out, dropped, or still there. -/
  bytes : BytesAccounted appended.flatten handedOut stream
  /-- The buffer is not larger than it may be. -/
  capacity : stream.bytes.length ≤ kUartStreamBufferCapacity
  /-- The events that have been missed are counted. -/
  lost : stream.lostEvents = UInt64.ofNat (missed numbers)
  /-- Before the first event, the stream knows no number. -/
  fresh : numbers = [] → stream.sequenceInitialized = false
  /-- Behind an event, the stream knows its number. -/
  last : ∀ n, numbers.getLast? = some n →
    stream.sequenceInitialized = true ∧ stream.lastSequence = UInt32.ofNat n

namespace Accounts

variable {data : ℕ → List UInt8} {numbers : List ℕ} {appended : List (List UInt8)}
  {handedOut : List UInt8} {stream : UartStreamBuffer}

/-- Of a new stream there is nothing to account for. -/
theorem empty : Accounts data [] [] [] .empty :=
  ⟨rfl, .empty, Nat.zero_le _, rfl, fun _ => rfl, nofun⟩

/-- A read hands out the bytes at the front, and the account stays right. -/
theorem read (h : Accounts data numbers appended handedOut stream) (maximumLength : ℕ) :
    Accounts data numbers appended (handedOut ++ stream.bytes.take maximumLength)
      { stream with bytes := stream.bytes.drop maximumLength } where
  once := h.once
  bytes := h.bytes.take maximumLength
  capacity := by
    have hcapacity := h.capacity
    rw [List.length_drop]
    omega
  lost := h.lost
  fresh := h.fresh
  last := h.last

/-- The bytes of a new event are appended to a stream that knows its number. -/
theorem pushAll {n : ℕ} {lostEvents : UInt64} (h : Accounts data numbers appended handedOut stream)
    (hnew : n ∉ numbers) (hlost : lostEvents = UInt64.ofNat (missed (numbers ++ [n]))) :
    Accounts data (numbers ++ [n]) (appended ++ [data n]) handedOut
      ((data n).foldl UartStreamBuffer.push (stream.received lostEvents (UInt32.ofNat n))) := by
  obtain ⟨hkeptLost, hkeptLast, hkeptInitialized⟩ := UartStreamBuffer.pushAll_keeps
    (stream.received lostEvents (UInt32.ofNat n)) (data n)
  have hcapacity : (stream.received lostEvents (UInt32.ofNat n)).bytes.length ≤
      kUartStreamBufferCapacity := h.capacity
  have hbytes : BytesAccounted appended.flatten handedOut
      (stream.received lostEvents (UInt32.ofNat n)) := h.bytes
  refine ⟨?_, ?_, UartStreamBuffer.length_pushAll _ hcapacity _, hkeptLost.trans hlost, ?_, ?_⟩
  · rw [dedup_concat hnew, List.map_append, h.once]
    rfl
  · rw [List.flatten_append, List.flatten_singleton]
    exact hbytes.pushAll (data n)
  · exact fun hnil => absurd hnil (List.concat_ne_nil n numbers)
  · intro last hlast
    rw [List.getLast?_concat] at hlast
    obtain rfl := Option.some.inj hlast
    exact ⟨hkeptInitialized, hkeptLast⟩

/-- An event with a number in order is accounted for. -/
theorem event {n : ℕ} (h : Accounts data numbers appended handedOut stream)
    (horder : InOrder (numbers ++ [n])) (hnumber : ¬2^32 ∣ n) :
    let result := uartStream.step stream (.event (UInt32.ofNat n) (data n))
    Accounts data (numbers ++ [n]) (appended ++ result.2.bytesAppended.toList) handedOut
      result.1 := by
  have hsequence : UInt32.ofNat n ≠ 0 := fun hzero => hnumber (ofNat_eq_zero_iff.1 hzero)
  obtain ⟨horder', -, hstep⟩ := List.isChain_append.1 horder
  intro result
  have hresult : result = uartStream.step stream (.event (UInt32.ofNat n) (data n)) := rfl
  unfold uartStream at hresult
  dsimp only at hresult
  cases hlast : numbers.getLast? with
  | none =>
    -- The first event.
    have hnil : numbers = [] := List.getLast?_eq_none_iff.1 hlast
    rw [UartStreamBuffer.acceptSequence_first hsequence (h.fresh hnil)] at hresult
    rw [hresult]
    refine h.pushAll (hnil ▸ List.not_mem_nil) ?_
    have hnone : missed (numbers ++ [n]) = missed numbers := by
      rw [hnil]
      simp [missed]
    rw [hnone]
    exact h.lost
  | some last =>
    -- A number after the first one lies at most half the range ahead of the last one.
    obtain ⟨hinitialized, hlastSequence⟩ := h.last last hlast
    obtain ⟨hle, hdistance⟩ := hstep last hlast n rfl
    rcases hle.eq_or_lt with rfl | hlt
    · -- The same event again.
      have hbehind : ¬Ahead stream.lastSequence (UInt32.ofNat last) := by
        rw [hlastSequence]
        exact fun hahead => hahead.1 (UInt32.sub_self _)
      rw [UartStreamBuffer.acceptSequence_behind hsequence hinitialized hbehind] at hresult
      rw [hresult]
      refine ⟨?_, ?_, h.capacity, ?_, fun hnil => absurd hnil (List.concat_ne_nil _ _), ?_⟩
      · rw [dedup_concat_self hlast]
        exact (List.append_nil _).trans h.once
      · exact (List.append_nil appended).symm ▸ h.bytes
      · rw [missed_concat_self hlast]
        exact h.lost
      · rw [List.getLast?_concat]
        exact fun m hm => Option.some.inj hm ▸ h.last last hlast
    · -- A later event.
      have hnew : n ∉ numbers := by
        intro hmem
        obtain ⟨first, rest, hcons⟩ := List.exists_cons_of_ne_nil (List.ne_nil_of_mem hmem)
        have hfirst : numbers.head? = some first := by
          rw [hcons]
          rfl
        have hle := (InOrder.bounds horder' hfirst hlast n hmem).2
        omega
      have hahead : Ahead stream.lastSequence (UInt32.ofNat n) :=
        hlastSequence ▸ ahead_ofNat hlt hdistance
      rw [UartStreamBuffer.acceptSequence_ahead hsequence hinitialized hahead] at hresult
      rw [hresult]
      refine h.pushAll hnew ?_
      rw [missed_concat horder' hlast hlt, h.lost, hlastSequence, ofNat_sub_ofNat hlt.le]
      exact lost_ofNat _ (by omega) hdistance

end Accounts

/-- Events alone hand out no bytes. -/
theorem handedOut_events (stream : UartStreamBuffer) {inputs : List StreamInput}
    (h : ∀ input ∈ inputs, ∃ sequence payload, input = .event sequence payload) :
    (uartStream.outcomes stream inputs).flatMap StreamEffect.bytesHandedOut = [] := by
  induction inputs generalizing stream with
  | nil => rfl
  | cons input inputs ih =>
    obtain ⟨sequence, payload, rfl⟩ := h input List.mem_cons_self
    have hnone : (uartStream.step stream (.event sequence payload)).2.bytesHandedOut = [] := by
      unfold uartStream
      dsimp only
      split <;> rfl
    rw [Machine.outcomes, List.flatMap_cons, hnone, List.nil_append]
    exact ih _ fun input hmem => h input (List.mem_cons_of_mem _ hmem)

/-- A stream accounts for the events of every run, whatever the clients read in between. -/
theorem accounts_run (data : ℕ → List UInt8) {inputs : List StreamInput} {numbers : List ℕ}
    (hreceived : inputs.filterMap StreamInput.numbered =
      numbers.map fun n => (UInt32.ofNat n, data n))
    (horder : InOrder numbers) (hnumber : ∀ n ∈ numbers, ¬2^32 ∣ n) :
    Accounts data numbers
      ((uartStream.outcomes .empty inputs).filterMap StreamEffect.bytesAppended)
      ((uartStream.outcomes .empty inputs).flatMap StreamEffect.bytesHandedOut)
      (uartStream.run .empty inputs) := by
  induction inputs using List.reverseRecOn generalizing numbers with
  | nil =>
    have hnil : numbers = [] := List.map_eq_nil_iff.1 hreceived.symm
    rw [hnil]
    exact .empty
  | append_singleton inputs input ih =>
    rw [List.filterMap_append] at hreceived
    rw [uartStream.run_concat, uartStream.outcomes_append, List.filterMap_append,
      List.flatMap_append]
    cases input with
    -- A read takes bytes from the front of the stream, and no event is among it.
    | read maximumLength =>
      have hreceived' : inputs.filterMap StreamInput.numbered =
          numbers.map fun n => (UInt32.ofNat n, data n) := by
        rw [← hreceived]
        exact (List.append_nil _).symm
      have hread := (ih hreceived' horder hnumber).read maximumLength
      have happended : (uartStream.outcomes (uartStream.run .empty inputs)
          [.read maximumLength]).filterMap StreamEffect.bytesAppended = [] := rfl
      have hhanded : (uartStream.outcomes (uartStream.run .empty inputs)
          [.read maximumLength]).flatMap StreamEffect.bytesHandedOut =
            (uartStream.run .empty inputs).bytes.take maximumLength := List.append_nil _
      rw [happended, hhanded, List.append_nil]
      exact hread
    | event sequence payload =>
      -- The last event is the one that has just come, and the others are those of the run before
      -- it.
      obtain ⟨earlier, last, rfl, hearlier, hlast⟩ := List.map_eq_append_iff.1 hreceived.symm
      obtain ⟨n, rfl, hn⟩ := List.map_eq_singleton_iff.1 hlast
      obtain ⟨rfl, rfl⟩ := Prod.mk.inj hn
      have hbefore := ih hearlier.symm (List.isChain_append.1 horder).1 fun m hm =>
        hnumber m (List.mem_append_left _ hm)
      have hevent := hbefore.event horder
        (hnumber n (List.mem_append_right _ List.mem_cons_self))
      have hhanded : (uartStream.outcomes (uartStream.run .empty inputs)
          [.event (UInt32.ofNat n) (data n)]).flatMap StreamEffect.bytesHandedOut = [] :=
        handedOut_events _ fun input hmem => ⟨_, _, List.mem_singleton.1 hmem⟩
      have happended : (uartStream.outcomes (uartStream.run .empty inputs)
          [.event (UInt32.ofNat n) (data n)]).filterMap StreamEffect.bytesAppended =
            ((uartStream.step (uartStream.run .empty inputs)
              (.event (UInt32.ofNat n) (data n))).2).bytesAppended.toList := by
        rw [Machine.outcomes, Machine.outcomes, List.filterMap_cons, List.filterMap_nil]
        split
        · next h => rw [h]; rfl
        · next h => rw [h]; rfl
      rw [happended, hhanded, List.append_nil]
      exact hevent

/-! ## The streams of the daemon -/

/-- What a packet that has arrived is to a stream. -/
def streamEvent (nodeId objectId : UInt32) (heard : UInt32 × Packet) : Option StreamInput :=
  if Daemon.fromEvents heard.1 = true ∧ heard.1 - kNodeHeartbeatBaseCanId = nodeId ∧
      heard.2.header.messageType = .event ∧ heard.2.header.command = Command.uartRxEvent ∧
      heard.2.header.objectId = objectId ∧ objectId ≠ 0 then
    some (.event heard.2.header.requestId heard.2.payload)
  else none

namespace Host

/-- What a step does to a stream. -/
def streamInputs (nodeId objectId : UInt32) (host : Host) : HostOp → List StreamInput
  | .hear message now =>
    if host.retries ≠ [] then []
    else (completed host.daemon message now).filterMap (streamEvent nodeId objectId)
  | .readUartStream nodeId' objectId' maximumLength =>
    if nodeId' = nodeId ∧ objectId' = objectId then [.read maximumLength] else []
  | _ => []

/-- The bytes of a stream that a step hands out to a client. -/
def bytesHandedOut (nodeId objectId : UInt32) (host : Host) : HostOp → List UInt8
  | .readUartStream nodeId' objectId' maximumLength =>
    if nodeId' = nodeId ∧ objectId' = objectId then
      match (host.daemon.readUartStream nodeId' objectId' maximumLength).1 with
      | some chunk => chunk.data
      | none => []
    else []
  | _ => []

/-- The daemon with its threads, and with what a step does to a stream and hands out of it. -/
def streams (nodeId objectId : UInt32) : Machine Host HostOp (List StreamInput × List UInt8) where
  step host op :=
    ((host.step op).1, streamInputs nodeId objectId host op, bytesHandedOut nodeId objectId host op)

end Host

namespace Daemon

/-- The key of a stream says which one it is. -/
theorem uartStreamKey_inj {nodeId objectId nodeId' objectId' : UInt32}
    (h : uartStreamKey nodeId objectId = uartStreamKey nodeId' objectId') :
    nodeId = nodeId' ∧ objectId = objectId' := by
  have hvalue : ∀ high low : UInt32,
      (uartStreamKey high low).toNat = high.toNat * 2^32 + low.toNat := by
    intro high low
    have hhigh := high.toNat_lt
    have hlow := low.toNat_lt
    rw [uartStreamKey, UInt64.toNat_or, UInt64.toNat_shiftLeft, UInt32.toNat_toUInt64,
      UInt32.toNat_toUInt64, show (32 : UInt64).toNat % 64 = 32 from rfl, Nat.shiftLeft_eq,
      Nat.mod_eq_of_lt (by omega), Nat.mul_comm, Nat.two_pow_add_eq_or_of_lt hlow]
  have heq := congrArg UInt64.toNat h
  rw [hvalue, hvalue] at heq
  have hlow := objectId.toNat_lt
  have hlow' := objectId'.toNat_lt
  exact ⟨UInt32.toNat_inj.1 (by omega), UInt32.toNat_inj.1 (by omega)⟩

/-- Sending a packet leaves the streams alone. -/
theorem uartStreamBuffers_sendPacket (daemon : Daemon) (packet : Packet) (canId : UInt32)
    (admitted : Bool) :
    (daemon.sendPacket packet canId admitted).2.uartStreamBuffers = daemon.uartStreamBuffers := by
  unfold sendPacket
  split
  · rfl
  · split <;> rfl

/-- A client's request leaves the streams alone. -/
theorem uartStreamBuffers_submitRequest (daemon : Daemon) (nodeId : UInt32) (request : Packet)
    (now : ℤ) :
    (daemon.submitRequest nodeId request now).2.uartStreamBuffers = daemon.uartStreamBuffers := by
  unfold submitRequest
  split
  · rfl
  · dsimp only
    split
    · rfl
    · split
      · rfl
      · split <;> rfl

/-- A step of a client with a request leaves the streams alone. -/
theorem uartStreamBuffers_advance (daemon : Daemon) (nodeId : UInt32) (submission : Submission)
    (outcome : SendOutcome) (phase : ClientPhase) :
    (Host.advance daemon nodeId submission outcome phase).2.uartStreamBuffers =
      daemon.uartStreamBuffers := by
  cases phase with
  | sending =>
    have hsend := uartStreamBuffers_sendPacket daemon submission.packet
      (kNodeRequestBaseCanId + nodeId) (outcome ≠ .rejected)
    unfold Host.advance Host.sendRequest
    dsimp only
    split
    · next heq => rw [heq] at hsend; exact hsend
    · next heq => rw [heq] at hsend; exact hsend
    · next heq =>
      rw [heq] at hsend
      split <;> exact hsend
  | rejected => rfl
  | waiting =>
    unfold Host.advance finishRequest
    dsimp only
    split
    · split
      · next heq => split at heq <;> obtain ⟨-, rfl⟩ := Prod.mk.inj heq <;> rfl
      · next heq => split at heq <;> obtain ⟨-, rfl⟩ := Prod.mk.inj heq <;> rfl
    · rfl
  | answered answer => rfl

/-- The timers leave the streams alone. -/
theorem uartStreamBuffers_timers (daemon : Daemon) (now : ℤ) :
    (daemon.processRequestTimers now).2.uartStreamBuffers = daemon.uartStreamBuffers := by
  have hfold : ∀ (events : List RequestEvent) (retries : List (Packet × UInt32) × Daemon),
      (events.foldl handleRequestEvent retries).2.uartStreamBuffers =
        retries.2.uartStreamBuffers := by
    intro events
    induction events with
    | nil => exact fun retries => rfl
    | cons event events ih =>
      intro retries
      rw [List.foldl_cons, ih]
      unfold handleRequestEvent
      dsimp only
      split
      · cases AList.lookup (RequestManager.key event.sessionId event.requestId)
          retries.2.requestCanIds <;> rfl
      · rfl
      · rfl
  exact hfold _ _

/-- An assignment leaves the streams alone. -/
theorem uartStreamBuffers_assign (daemon : Daemon) (uuid : NodeUuid) (nodeId : UInt32) :
    (daemon.assign uuid nodeId).2.uartStreamBuffers = daemon.uartStreamBuffers := by
  unfold assign
  dsimp only
  split <;> rfl

/-- An assignment behind a discovery leaves the streams alone. -/
theorem uartStreamBuffers_assignDiscovered (daemon : Daemon) (update : NodeUpdate)
    (uuid : NodeUuid) :
    (daemon.assignDiscovered update uuid).2.uartStreamBuffers = daemon.uartStreamBuffers := by
  unfold assignDiscovered
  split
  · split
    · rfl
    · rw [uartStreamBuffers_assign]
  · split
    · rfl
    · split
      · rw [uartStreamBuffers_assign]
      · rfl

/-- A discovery response leaves the streams alone, also if the node has been reset. -/
theorem uartStreamBuffers_discovery (daemon : Daemon) (identifier : UInt32) (packet : Packet)
    (now : ℤ) : (daemon.handleDiscoveryResponse identifier packet now).2.uartStreamBuffers =
      daemon.uartStreamBuffers := by
  unfold handleDiscoveryResponse
  split
  · rfl
  · split
    · rfl
    · exact uartStreamBuffers_assignDiscovered _ _ _

/-- A response leaves the streams alone. -/
theorem uartStreamBuffers_response (daemon : Daemon) (identifier : UInt32) (packet : Packet)
    (now : ℤ) : (daemon.handleResponse identifier packet now).uartStreamBuffers =
      daemon.uartStreamBuffers := by
  unfold handleResponse
  dsimp only
  split
  · rfl
  · split
    · rfl
    · split <;> rfl

/-- The stream of an object, empty if none of its events has been received. -/
def stream (daemon : Daemon) (nodeId objectId : UInt32) : UartStreamBuffer :=
  (daemon.uartStreamBuffers.lookup (uartStreamKey nodeId objectId)).getD .empty

/-- An event that arrives at a stream. -/
theorem run_event (stream : UartStreamBuffer) (sequence : UInt32) (payload : List UInt8) :
    uartStream.run stream [.event sequence payload] =
      if (stream.acceptSequence sequence).1 = true then
        payload.foldl UartStreamBuffer.push (stream.acceptSequence sequence).2
      else (stream.acceptSequence sequence).2 := by
  unfold uartStream
  dsimp only [Machine.run]
  split <;> rfl

/-- An event does to each stream what it is to this stream. -/
theorem stream_handleEvent (daemon : Daemon) (identifier : UInt32) (packet : Packet)
    (nodeId objectId : UInt32) (htype : packet.header.messageType = .event) :
    (daemon.handleEvent identifier packet).stream nodeId objectId =
      uartStream.run (daemon.stream nodeId objectId)
        (streamEvent nodeId objectId (identifier, packet)).toList := by
  -- An event from elsewhere is none of any stream.
  by_cases hidentifier : fromEvents identifier = true
  swap
  · have hnone : streamEvent nodeId objectId (identifier, packet) = none :=
      if_neg fun h => hidentifier h.1
    unfold handleEvent
    rw [hnone, if_pos (by rw [Bool.not_eq_true] at hidentifier; rw [hidentifier]; rfl)]
    rfl
  have hevent : (daemon.handleEvent identifier packet).uartStreamBuffers =
      daemon.bufferUartEvent (identifier - kNodeHeartbeatBaseCanId) packet := by
    unfold handleEvent
    rw [if_neg (by rw [hidentifier]; exact Bool.false_ne_true)]
  unfold stream
  rw [hevent, bufferUartEvent]
  -- An event of another kind is buffered nowhere.
  by_cases hcommand : packet.header.command = Command.uartRxEvent ∧ packet.header.objectId ≠ 0
  swap
  · have hnone : streamEvent nodeId objectId (identifier, packet) = none :=
      if_neg fun h => hcommand ⟨h.2.2.2.1, fun hzero => h.2.2.2.2.2 (h.2.2.2.2.1 ▸ hzero)⟩
    rw [if_neg hcommand, hnone]
    rfl
  rw [if_pos hcommand]
  dsimp only
  rw [Map.lookup_insert_ite]
  by_cases hkey : uartStreamKey nodeId objectId =
      uartStreamKey (identifier - kNodeHeartbeatBaseCanId) packet.header.objectId
  · obtain ⟨rfl, rfl⟩ := uartStreamKey_inj hkey
    have hsome : streamEvent (identifier - kNodeHeartbeatBaseCanId) packet.header.objectId
        (identifier, packet) = some (.event packet.header.requestId packet.payload) :=
      if_pos ⟨hidentifier, rfl, htype, hcommand.1, rfl, hcommand.2⟩
    rw [if_pos rfl, hsome]
    exact (run_event _ _ _).symm
  · -- The event is one of another stream.
    have hnone : streamEvent nodeId objectId (identifier, packet) = none :=
      if_neg fun h => hkey (by rw [← h.2.1, ← h.2.2.2.2.1])
    rw [if_neg hkey, hnone]
    rfl

/-- A packet does to each stream what it is to this stream. -/
theorem stream_handlePacket (daemon : Daemon) (identifier : UInt32) (packet : Packet) (now : ℤ)
    (nodeId objectId : UInt32) :
    (daemon.handlePacket identifier packet now).2.stream nodeId objectId =
      uartStream.run (daemon.stream nodeId objectId)
        (streamEvent nodeId objectId (identifier, packet)).toList := by
  have hother : packet.header.command ≠ Command.uartRxEvent ∨
      packet.header.messageType ≠ .event →
      streamEvent nodeId objectId (identifier, packet) = none := fun hother =>
    if_neg fun h => hother.elim (fun hne => hne h.2.2.2.1) fun hne => hne h.2.2.1
  unfold handlePacket
  split
  · next hcommand =>
    rw [hother (.inl (by rw [hcommand]; decide)), stream, uartStreamBuffers_discovery]
    rfl
  · split
    · next hcommand =>
      rw [hother (.inl (by rw [hcommand]; decide))]
      unfold handleHeartbeat
      split <;> rfl
    · split
      · next htype => exact stream_handleEvent daemon identifier packet nodeId objectId htype
      · next htype =>
        rw [hother (.inr htype)]
        change (daemon.handleResponse identifier packet now).stream nodeId objectId = _
        rw [stream, uartStreamBuffers_response]
        rfl

/-- A message completes a packet, or it leaves the streams alone. -/
theorem receive_cases (daemon : Daemon) (message : CanMessage) (now : ℤ) :
    (Host.completed daemon message now = [] ∧
        (daemon.receive message now).2.uartStreamBuffers = daemon.uartStreamBuffers) ∨
      ∃ packet reassembler, Host.completed daemon message now = [(message.identifier, packet)] ∧
        (daemon.receive message now).2 = ({ daemon with reassembler := reassembler }.handlePacket
          message.identifier packet now).2 := by
  unfold receive Host.completed
  by_cases hnode : (!message.extendedIdentifier) = true ∧ (fromResponses message.identifier ∨
      fromEvents message.identifier ∨ provisional message.identifier)
  swap
  · rw [if_neg hnode, if_neg hnode]
    exact .inl ⟨rfl, rfl⟩
  rw [if_pos hnode, if_pos hnode]
  unfold handleCanMessage arrived
  cases daemon.reassembler.accept message.identifier message.data now with
  | mk result reassembler =>
  rcases result with exception | ⟨status, bytes⟩
  · exact .inl ⟨rfl, rfl⟩
  · cases status with
    | complete =>
      cases bytes with
      | none => exact .inl ⟨rfl, rfl⟩
      | some bytes =>
        dsimp only
        cases decode bytes with
        | error exception => exact .inl ⟨rfl, rfl⟩
        | ok packet => exact .inr ⟨packet, reassembler, rfl, rfl⟩
    | inProgress => exact .inl ⟨rfl, rfl⟩
    | duplicate => exact .inl ⟨rfl, rfl⟩

/-- A message does to each stream what it completes is to this stream. -/
theorem stream_receive (daemon : Daemon) (message : CanMessage) (now : ℤ)
    (nodeId objectId : UInt32) :
    (daemon.receive message now).2.stream nodeId objectId =
      uartStream.run (daemon.stream nodeId objectId)
        ((Host.completed daemon message now).filterMap (streamEvent nodeId objectId)) := by
  rcases daemon.receive_cases message now with
    ⟨hnone, hkept⟩ | ⟨packet, reassembler, hcompleted, hreceive⟩
  · rw [hnone, stream, hkept]
    rfl
  · rw [hcompleted, hreceive, stream_handlePacket, List.filterMap_cons]
    cases streamEvent nodeId objectId (message.identifier, packet) <;> rfl

/-- A client that reads takes the bytes that it is handed out from its stream, and from no other
one. -/
theorem stream_readUartStream (daemon : Daemon) (nodeId objectId nodeId' objectId' : UInt32)
    (maximumLength : ℕ) :
    (daemon.readUartStream nodeId' objectId' maximumLength).2.stream nodeId objectId =
        (if nodeId' = nodeId ∧ objectId' = objectId then
          { daemon.stream nodeId objectId with
            bytes := (daemon.stream nodeId objectId).bytes.drop maximumLength }
        else daemon.stream nodeId objectId) ∧
      (match (daemon.readUartStream nodeId' objectId' maximumLength).1 with
        | some chunk => chunk.data
        | none => []) = (daemon.stream nodeId' objectId').bytes.take maximumLength := by
  -- A stream with bytes hands out the first ones and keeps the rest.
  have hread : ∀ stream : UartStreamBuffer,
      daemon.uartStreamBuffers.lookup (uartStreamKey nodeId' objectId') = some stream →
      stream.bytes ≠ [] → daemon.readUartStream nodeId' objectId' maximumLength =
        (some ⟨stream.bytes.take maximumLength, stream.droppedBytes, stream.lostEvents⟩,
          { daemon with
            uartStreamBuffers := daemon.uartStreamBuffers.insert (uartStreamKey nodeId' objectId')
              { stream with bytes := stream.bytes.drop maximumLength } }) := by
    intro stream hstream hbytes
    unfold readUartStream
    dsimp only
    rw [hstream]
    exact if_neg hbytes
  -- A stream that is empty or missing hands out nothing, and nothing changes.
  have hnothing : (daemon.stream nodeId' objectId').bytes = [] →
      daemon.readUartStream nodeId' objectId' maximumLength = (none, daemon) := by
    intro hempty
    unfold stream at hempty
    unfold readUartStream
    dsimp only
    cases hstream : daemon.uartStreamBuffers.lookup (uartStreamKey nodeId' objectId') with
    | none => rfl
    | some stream =>
      rw [hstream] at hempty
      exact if_pos hempty
  by_cases hempty : (daemon.stream nodeId' objectId').bytes = []
  · rw [hnothing hempty, hempty]
    refine ⟨?_, List.take_nil.symm⟩
    split
    · next hsame =>
      obtain ⟨rfl, rfl⟩ := hsame
      rw [hempty, List.drop_nil, ← hempty]
    · rfl
  · cases hstream : daemon.uartStreamBuffers.lookup (uartStreamKey nodeId' objectId') with
    | none =>
      refine absurd ?_ hempty
      rw [stream, hstream]
      rfl
    | some stream =>
      have hfound : daemon.stream nodeId' objectId' = stream := by
        rw [Daemon.stream, hstream]
        rfl
      rw [hfound] at hempty ⊢
      rw [hread stream hstream hempty]
      refine ⟨?_, rfl⟩
      rw [Daemon.stream]
      dsimp only
      rw [Map.lookup_insert_ite]
      -- Streams have different keys, so that the others are not touched.
      by_cases hkey : uartStreamKey nodeId objectId = uartStreamKey nodeId' objectId'
      · obtain ⟨rfl, rfl⟩ := uartStreamKey_inj hkey
        rw [if_pos rfl, if_pos ⟨rfl, rfl⟩, hfound]
        rfl
      · rw [if_neg hkey, if_neg fun hsame => hkey (by rw [hsame.1, hsame.2])]
        rfl

end Daemon

namespace Host

/-- What the daemon wants to have sent on its own account leaves the streams alone. -/
theorem uartStreamBuffers_control (host : Host)
    (result : Except DaemonError (Option Packet) × Daemon) :
    (host.control result).daemon.uartStreamBuffers = result.2.uartStreamBuffers := by
  unfold control
  split
  · exact Daemon.uartStreamBuffers_sendPacket _ _ _ _
  · rfl

/-- Sending a request again leaves the streams alone. -/
theorem uartStreamBuffers_resend (host : Host) (failed : Bool) :
    (host.resend failed).2.daemon.uartStreamBuffers = host.daemon.uartStreamBuffers := by
  unfold resend
  split
  · rfl
  · next retry retries hretries =>
    have hsend := host.daemon.uartStreamBuffers_sendPacket retry.1 retry.2 true
    split
    · next heq => rw [heq] at hsend; exact hsend
    · next heq => rw [heq] at hsend; exact hsend

/-- A step of a client leaves the streams alone. -/
theorem uartStreamBuffers_clientStep (host : Host) (index : ℕ) (outcome : SendOutcome) :
    (host.clientStep index outcome).daemon.uartStreamBuffers = host.daemon.uartStreamBuffers := by
  unfold clientStep
  split
  · exact Daemon.uartStreamBuffers_advance _ _ _ _ _
  · rfl

/-- A client that comes leaves the streams alone. -/
theorem uartStreamBuffers_connect (host : Host) (nodeId : UInt32) (request : Packet) (now : ℤ) :
    (host.connect nodeId request now).daemon.uartStreamBuffers =
      host.daemon.uartStreamBuffers := by
  have hsubmit := host.daemon.uartStreamBuffers_submitRequest nodeId request now
  unfold connect
  split
  · next heq => rw [heq] at hsubmit; exact hsubmit
  · next heq => rw [heq] at hsubmit; exact hsubmit

/-- A step does to each stream what it is to this stream, and hands out the bytes that the stream
gives. -/
theorem stream_step (nodeId objectId : UInt32) (host : Host) (op : HostOp) :
    (host.step op).1.daemon.stream nodeId objectId =
        uartStream.run (host.daemon.stream nodeId objectId)
          (streamInputs nodeId objectId host op) ∧
      bytesHandedOut nodeId objectId host op =
        (uartStream.outcomes (host.daemon.stream nodeId objectId)
          (streamInputs nodeId objectId host op)).flatMap StreamEffect.bytesHandedOut := by
  -- What leaves the buffers alone leaves each stream alone.
  have hkept : ∀ daemon : Daemon, daemon.uartStreamBuffers = host.daemon.uartStreamBuffers →
      daemon.stream nodeId objectId = host.daemon.stream nodeId objectId := by
    intro daemon hsame
    rw [Daemon.stream, hsame]
    rfl
  cases op with
  | connect nodeId' request now =>
    exact ⟨hkept _ (host.uartStreamBuffers_connect nodeId' request now), rfl⟩
  | client index outcome => exact ⟨hkept _ (host.uartStreamBuffers_clientStep index outcome), rfl⟩
  | discover =>
    refine ⟨hkept _ ?_, rfl⟩
    unfold step
    dsimp only
    split
    · rfl
    · rw [uartStreamBuffers_control]
      -- What comes in is a new input of the stream that it names.
      rfl
  | hear message now =>
    unfold step streamInputs
    dsimp only
    split
    · exact ⟨rfl, rfl⟩
    · constructor
      · rw [Daemon.stream, uartStreamBuffers_control]
        exact host.daemon.stream_receive message now nodeId objectId
      · refine (handedOut_events _ fun input hmem => ?_).symm
        -- An event hands nothing out.
        obtain ⟨heard, -, hevent⟩ := List.mem_filterMap.1 hmem
        unfold streamEvent at hevent
        split at hevent
        · obtain rfl := Option.some.inj hevent
          exact ⟨_, _, rfl⟩
        · exact absurd hevent nofun
  | timers now =>
    refine ⟨hkept _ ?_, rfl⟩
    unfold step
    dsimp only
    split
    · rfl
    · exact host.daemon.uartStreamBuffers_timers now
  | resend failed => exact ⟨hkept _ (host.uartStreamBuffers_resend failed), rfl⟩
  | nextEvent nodeId' =>
    refine ⟨hkept _ ?_, rfl⟩
    unfold step Daemon.nextEvent
    dsimp only
    split <;> rfl
  | readUartStream nodeId' objectId' maximumLength =>
    -- Only a read of this stream takes bytes from it.
    obtain ⟨hstream, hdata⟩ := host.daemon.stream_readUartStream nodeId objectId nodeId' objectId'
      maximumLength
    unfold step streamInputs bytesHandedOut
    dsimp only
    rw [hstream, hdata]
    split
    · next hsame =>
      obtain ⟨rfl, rfl⟩ := hsame
      exact ⟨rfl, (List.append_nil _).symm⟩
    · exact ⟨rfl, rfl⟩

/-- A run does to each stream what its steps are to this stream, and hands out the bytes that the
stream gives. -/
theorem stream_run (nodeId objectId : UInt32) (host : Host) (ops : List HostOp) :
    ((streams nodeId objectId).run host ops).daemon.stream nodeId objectId =
        uartStream.run (host.daemon.stream nodeId objectId)
          (((streams nodeId objectId).outcomes host ops).flatMap Prod.fst) ∧
      ((streams nodeId objectId).outcomes host ops).flatMap Prod.snd =
        (uartStream.outcomes (host.daemon.stream nodeId objectId)
          (((streams nodeId objectId).outcomes host ops).flatMap Prod.fst)).flatMap
            StreamEffect.bytesHandedOut := by
  induction ops generalizing host with
  | nil => exact ⟨rfl, rfl⟩
  | cons op ops ih =>
    obtain ⟨hstep, hhanded⟩ := stream_step nodeId objectId host op
    obtain ⟨hrun, houtcomes⟩ := ih (host.step op).1
    rw [hstep] at hrun houtcomes
    have hfirst : ((streams nodeId objectId).step host op) =
        ((host.step op).1, streamInputs nodeId objectId host op,
          bytesHandedOut nodeId objectId host op) := rfl
    rw [Machine.run, Machine.outcomes, List.flatMap_cons, List.flatMap_cons, hfirst,
      uartStream.run_append, uartStream.outcomes_append, List.flatMap_append, ← hhanded]
    exact ⟨hrun, congrArg (bytesHandedOut nodeId objectId host op ++ ·) houtcomes⟩

/-- The runs are those of the threads. -/
theorem run_streams (nodeId objectId : UInt32) (host : Host) (ops : List HostOp) :
    (streams nodeId objectId).run host ops = threads.run host ops := by
  induction ops generalizing host with
  | nil => rfl
  | cons op ops ih => exact ih _

/-- A daemon that has just started has empty streams. -/
theorem stream_start (mode : CanMode) (sessionId : UInt32) (hsession : sessionId ≠ 0)
    (nodeId objectId : UInt32) :
    (start mode sessionId hsession).daemon.stream nodeId objectId = .empty := rfl

end Host

/-- A node numbers its events from one on, and event `n` of an object carries `data n`. Whatever
else happens, if the daemon receives the events in order, each of them any number of times, misses
fewer than `2^31 - 1` at a time, and receives none whose number is zero on the wire, then the bytes
of each event received are appended once, the missed events are counted, the buffer does not become
larger than it may be, and the bytes appended are those handed out, those dropped, and those
buffered, in order. -/
theorem uart_stream_accounting (mode : CanMode) (sessionId : UInt32) (hsession : sessionId ≠ 0)
    (ops : List HostOp) (nodeId objectId : UInt32) (data : ℕ → List UInt8) (numbers : List ℕ)
    (hreceived : (((Host.streams nodeId objectId).outcomes (.start mode sessionId hsession)
      ops).flatMap Prod.fst).filterMap StreamInput.numbered =
        numbers.map fun n => (UInt32.ofNat n, data n))
    (horder : InOrder numbers) (hnumber : ∀ n ∈ numbers, ¬2^32 ∣ n) :
    let log := (Host.streams nodeId objectId).outcomes (.start mode sessionId hsession) ops
    let stream := (Host.threads.run (.start mode sessionId hsession) ops).daemon.stream nodeId
      objectId
    let appended := (uartStream.outcomes .empty (log.flatMap Prod.fst)).filterMap
      StreamEffect.bytesAppended
    appended = numbers.dedup.map data ∧
      (∀ first ∈ numbers.head?, ∀ last ∈ numbers.getLast?, stream.lostEvents =
        UInt64.ofNat (Finset.Icc first last \ numbers.toFinset).card) ∧
      stream.bytes.length ≤ kUartStreamBufferCapacity ∧
      BytesAccounted appended.flatten (log.flatMap Prod.snd) stream := by
  obtain ⟨hrun, hhanded⟩ := Host.stream_run nodeId objectId (.start mode sessionId hsession) ops
  rw [Host.run_streams, Host.stream_start] at hrun
  rw [Host.stream_start] at hhanded
  intro log stream appended
  have haccounts := accounts_run data hreceived horder hnumber
  rw [← hrun, ← hhanded] at haccounts
  refine ⟨haccounts.once, fun first hfirst last hlast => ?_, haccounts.capacity, haccounts.bytes⟩
  have hlost := haccounts.lost
  unfold missed at hlost
  rw [Option.mem_def.1 hfirst, Option.mem_def.1 hlast] at hlost
  exact hlost

/-- An event of the object 1, as the node sends it. -/
def rxEvent (sequence : UInt32) (payload : List UInt8) : Packet :=
  ⟨{ messageType := .event, command := Command.uartRxEvent, requestId := sequence, objectId := 1 },
    payload⟩

/-- Events of object 1 of node 1 arrive, each with one byte. -/
def heardEvents (sequences : List UInt32) : List HostOp :=
  sequences.zipIdx.flatMap fun event =>
    (nodeMessages 0x501 (UInt16.ofNat event.2) (rxEvent event.1 [7])).map (.hear · 0)

/-- A daemon that has just started. -/
def freshHost : Host := .start .flexibleDataRate 1 Daemon.one_session

/-- Of the first three events the second one does not arrive, and the third one arrives twice. -/
def lossyOps : List HostOp := heardEvents [1, 3, 3] ++ [.readUartStream 1 1 1]

/-- One event is missed, and nothing is appended twice. -/
theorem uart_stream_accounting_lossy :
    (Host.threads.run freshHost lossyOps).daemon.stream 1 1 = ⟨[7], 0, 1, 3, true⟩ ∧
      (uartStream.outcomes .empty (((Host.streams 1 1).outcomes freshHost lossyOps).flatMap
        Prod.fst)).filterMap StreamEffect.bytesAppended = [[7], [7]] := by
  have h := uart_stream_accounting .flexibleDataRate 1 (by decide) lossyOps 1 1 (fun _ => [7])
    [1, 3, 3] (by decide +kernel) (by unfold InOrder; decide) (by decide)
  exact ⟨by decide +kernel, h.1⟩

/-- The events of object 1 that arrive have these numbers. -/
def HearsNumbers (ops : List HostOp) (numbers : List ℕ) : Prop :=
  (((Host.streams 1 1).outcomes freshHost ops).flatMap Prod.fst).filterMap StreamInput.numbered =
    numbers.map fun n => (UInt32.ofNat n, [7])

/-- The bytes of each of these events are appended once. -/
def AppendsOnce (ops : List HostOp) (numbers : List ℕ) : Prop :=
  (uartStream.outcomes .empty (((Host.streams 1 1).outcomes freshHost ops).flatMap
    Prod.fst)).filterMap StreamEffect.bytesAppended = numbers.dedup.map fun _ => [7]

/-- If `2^31 - 1` events are missed at a time, the next one is taken for an old one. An event whose
number is zero on the wire is appended as often as it arrives. -/
theorem stream_accounting_limits :
    (¬∀ ops numbers, HearsNumbers ops numbers →
        numbers.IsChain (fun m n => m ≤ n ∧ n - m - 1 < 2^31) → AppendsOnce ops numbers) ∧
      ¬∀ ops numbers, HearsNumbers ops numbers → InOrder numbers → AppendsOnce ops numbers := by
  constructor
  · intro h
    have hnumbers := h (heardEvents [1, 0x80000001]) [1, 1 + 2^31]
      (by unfold HearsNumbers; decide +kernel) (by decide)
    unfold AppendsOnce at hnumbers
    revert hnumbers
    decide +kernel
  · intro h
    have hnumbers := h (heardEvents [0xFFFFFFFF, 0, 0]) [2^32 - 1, 2^32, 2^32]
      (by unfold HearsNumbers; decide +kernel) (by unfold InOrder; decide)
    unfold AppendsOnce at hnumbers
    revert hnumbers
    decide +kernel

/-! ## A node that is reset -/

/-- The numbers that the events of a list carry, but for those that are zero. -/
def sequencesOf (inputs : List StreamInput) : List UInt32 :=
  ((inputs.filterMap StreamInput.numbered).map Prod.fst).filter (· ≠ 0)

/-- An event whose number is zero adds nothing to the numbers. -/
theorem sequencesOf_zero {sequence : UInt32} (hzero : sequence = 0) (payload : List UInt8)
    (inputs : List StreamInput) :
    sequencesOf (.event sequence payload :: inputs) = sequencesOf inputs :=
  List.filter_cons_of_neg (by simp [hzero])

/-- An event with a number adds it to the numbers. -/
theorem sequencesOf_event {sequence : UInt32} (hsequence : sequence ≠ 0) (payload : List UInt8)
    (inputs : List StreamInput) :
    sequencesOf (.event sequence payload :: inputs) = sequence :: sequencesOf inputs :=
  List.filter_cons_of_pos (by simpa using hsequence)

/-- The last number that a stream has taken, if it has taken one. -/
def UartStreamBuffer.remembered (stream : UartStreamBuffer) : Option UInt32 :=
  if stream.sequenceInitialized then some stream.lastSequence else none

/-- The first of these numbers lies ahead of the last one that a stream has taken. -/
def Continues (stream : UartStreamBuffer) (sequences : List UInt32) : Prop :=
  ∀ last ∈ stream.remembered, ∀ sequence ∈ sequences.head?, Ahead last sequence

/-- The event at a place of a list, which carries this number, is discarded by a stream that takes
the list. -/
def Discards (stream : UartStreamBuffer) (inputs : List StreamInput) (index : ℕ)
    (sequence : UInt32) : Prop :=
  ∃ payload, inputs[index]? = some (.event sequence payload) ∧
    (uartStream.outcomes stream inputs)[index]? = some .discarded

/-- None of these events is discarded for what the stream has taken before them: an event that is
discarded would be discarded by a new stream too. -/
def NoneStale (stream : UartStreamBuffer) (inputs : List StreamInput) : Prop :=
  ∀ index sequence, Discards stream inputs index sequence → Discards .empty inputs index sequence

/-- Of these events, one is discarded only if it repeats the one that has been received just before
it. -/
def OnlyRepetitionsDiscarded (stream : UartStreamBuffer) (inputs : List StreamInput) : Prop :=
  ∀ index sequence, Discards stream inputs index sequence →
    (sequencesOf (inputs.take index)).getLast? = some sequence

/-- An event that is taken is appended, and the stream remembers what it did when it had taken the
number. -/
theorem event_taken {stream stream' : UartStreamBuffer} {sequence : UInt32}
    (haccept : stream.acceptSequence sequence = (true, stream')) (payload : List UInt8) :
    (uartStream.step stream (.event sequence payload)).2 ≠ .discarded ∧
      (uartStream.step stream (.event sequence payload)).1.remembered = stream'.remembered := by
  have hresult : uartStream.step stream (.event sequence payload) =
      (payload.foldl UartStreamBuffer.push stream', .appended payload) := by
    unfold uartStream
    dsimp only
    rw [haccept]
    rfl
  obtain ⟨-, hlast, hinitialized⟩ := stream'.pushAll_keeps payload
  rw [hresult]
  constructor
  · simp
  · unfold UartStreamBuffer.remembered
    dsimp only
    rw [hlast, hinitialized]

/-- An event without a number is taken, and the stream does not remember it. -/
theorem event_unnumbered (stream : UartStreamBuffer) {sequence : UInt32} (hzero : sequence = 0)
    (payload : List UInt8) :
    (uartStream.step stream (.event sequence payload)).2 ≠ .discarded ∧
      (uartStream.step stream (.event sequence payload)).1.remembered = stream.remembered :=
  event_taken (if_pos hzero) payload

/-- An event whose number lies ahead of the last one taken is taken too, and is remembered. -/
theorem event_ahead {stream : UartStreamBuffer} {sequence : UInt32} (hsequence : sequence ≠ 0)
    (hahead : ∀ last ∈ stream.remembered, Ahead last sequence) (payload : List UInt8) :
    (uartStream.step stream (.event sequence payload)).2 ≠ .discarded ∧
      (uartStream.step stream (.event sequence payload)).1.remembered = some sequence := by
  cases hinitialized : stream.sequenceInitialized with
  | false =>
    exact event_taken (UartStreamBuffer.acceptSequence_first hsequence hinitialized) payload
  | true =>
    have hnew : Ahead stream.lastSequence sequence := by
      apply hahead
      unfold UartStreamBuffer.remembered
      rw [hinitialized]
      rfl
    exact event_taken (UartStreamBuffer.acceptSequence_ahead hsequence hinitialized hnew) payload

/-- Any other event is discarded, and leaves the stream as it is. -/
theorem event_behind {stream : UartStreamBuffer} {sequence : UInt32} (hsequence : sequence ≠ 0)
    (hbehind : ¬∀ last ∈ stream.remembered, Ahead last sequence) (payload : List UInt8) :
    uartStream.step stream (.event sequence payload) = (stream, .discarded) := by
  unfold UartStreamBuffer.remembered at hbehind
  cases hinitialized : stream.sequenceInitialized with
  | false =>
    rw [hinitialized] at hbehind
    exact absurd (by simp) hbehind
  | true =>
    have hold : ¬Ahead stream.lastSequence sequence := by
      intro hahead
      rw [hinitialized] at hbehind
      exact hbehind fun last hlast => Option.some.inj hlast ▸ hahead
    unfold uartStream
    dsimp only
    rw [UartStreamBuffer.acceptSequence_behind hsequence hinitialized hold]
    rfl

/-- What holds of every event that is discarded holds of the first one of the list if it is
discarded, and of those that are discarded later. -/
theorem forall_discards_cons {stream : UartStreamBuffer} {input : StreamInput}
    {inputs : List StreamInput} {P : ℕ → UInt32 → Prop} :
    (∀ index sequence, Discards stream (input :: inputs) index sequence → P index sequence) ↔
      (∀ sequence payload, input = .event sequence payload →
        (uartStream.step stream input).2 = .discarded → P 0 sequence) ∧
      ∀ index sequence, Discards (uartStream.step stream input).1 inputs index sequence →
        P (index + 1) sequence := by
  constructor
  · intro h
    constructor
    · intro sequence payload hinput hdiscarded
      exact h 0 sequence ⟨payload, congrArg some hinput, congrArg some hdiscarded⟩
    · intro index sequence hdiscards
      exact h (index + 1) sequence hdiscards
  · rintro ⟨hfirst, hlater⟩ index sequence hdiscards
    cases index with
    | zero =>
      obtain ⟨payload, hinput, hdiscarded⟩ := hdiscards
      exact hfirst sequence payload (Option.some.inj hinput) (Option.some.inj hdiscarded)
    | succ index => exact hlater index sequence hdiscards

/-- Whether an event is discarded depends on the number that the stream remembers, and on nothing
else of it. -/
theorem discards_congr {stream stream' : UartStreamBuffer} {inputs : List StreamInput}
    (halike : stream.remembered = stream'.remembered) (index : ℕ) (sequence : UInt32)
    (h : Discards stream inputs index sequence) : Discards stream' inputs index sequence := by
  revert index sequence
  induction inputs generalizing stream stream' with
  | nil =>
    rintro index sequence ⟨payload, hnone, -⟩
    cases hnone
  | cons input inputs ih =>
    rw [forall_discards_cons]
    constructor
    · rintro sequence payload rfl hdiscarded
      refine ⟨payload, rfl, congrArg some ?_⟩
      by_cases hzero : sequence = 0
      · exact absurd hdiscarded (event_unnumbered stream hzero payload).1
      by_cases hahead : ∀ last ∈ stream.remembered, Ahead last sequence
      · exact absurd hdiscarded (event_ahead hzero hahead payload).1
      · rw [event_behind hzero (halike ▸ hahead)]
    · intro index sequence hdiscards
      refine ih ?_ index sequence hdiscards
      cases input with
      | read maximumLength => exact halike
      | event sequence payload =>
        by_cases hzero : sequence = 0
        · rw [(event_unnumbered stream hzero payload).2, halike,
            (event_unnumbered stream' hzero payload).2]
        by_cases hahead : ∀ last ∈ stream.remembered, Ahead last sequence
        · rw [(event_ahead hzero hahead payload).2, (event_ahead hzero (halike ▸ hahead) payload).2]
        · rw [event_behind hzero hahead, event_behind hzero (halike ▸ hahead)]
          exact halike

/-- No event is taken for an old one if and only if the first number goes on from the last one that
the stream has taken. -/
theorem noneStale_iff {stream fresh : UartStreamBuffer} {inputs : List StreamInput}
    (hfresh : fresh.remembered = none) :
    (∀ index sequence, Discards stream inputs index sequence →
        Discards fresh inputs index sequence) ↔ Continues stream (sequencesOf inputs) := by
  induction inputs generalizing stream fresh with
  | nil => simp [Discards, Continues, sequencesOf]
  | cons input inputs ih =>
    rw [forall_discards_cons]
    cases input with
    | read maximumLength =>
      refine (and_iff_right fun sequence payload hinput => ?_).trans (ih hfresh)
      cases hinput
    | event sequence payload =>
      by_cases hzero : sequence = 0
      · -- The event carries no number: both streams take it, and remember what they did.
        obtain ⟨htaken, hremembered⟩ := event_unnumbered stream hzero payload
        have hrest := @ih (uartStream.step stream (.event sequence payload)).1 _
          ((event_unnumbered fresh hzero payload).2.trans hfresh)
        rw [sequencesOf_zero hzero]
        unfold Continues at hrest ⊢
        rw [hremembered] at hrest
        exact (and_iff_right fun _ _ _ h => absurd h htaken).trans hrest
      rw [sequencesOf_event hzero]
      have hfirst : ∀ last ∈ fresh.remembered, Ahead last sequence := by simp [hfresh]
      have hfreshTaken := event_ahead hzero hfirst payload
      by_cases hahead : ∀ last ∈ stream.remembered, Ahead last sequence
      · -- Both streams take the event, and can no longer be told apart.
        obtain ⟨htaken, hremembered⟩ := event_ahead hzero hahead payload
        have halike := hremembered.trans hfreshTaken.2.symm
        refine iff_of_true ⟨fun _ _ _ h => absurd h htaken, ?_⟩ ?_
        · exact fun index sequence hdiscards => discards_congr halike index sequence hdiscards
        · intro last hlast first hfirst
          rw [← Option.some.inj hfirst]
          exact hahead last hlast
      · -- The event is discarded for what the stream remembers.
        refine iff_of_false (fun h => ?_) fun h => hahead fun last hlast => h last hlast _ rfl
        have hdiscarded : (uartStream.step stream (.event sequence payload)).2 = .discarded := by
          rw [event_behind hzero hahead]
        obtain ⟨_, _, hfreshDiscards⟩ := h.1 sequence payload rfl hdiscarded
        exact hfreshTaken.1 (Option.some.inj hfreshDiscards)

/-- Only repetitions are discarded if and only if the first number goes on from the last one that
the stream has taken, or repeats the one before it, and so does each further number from the one
before it. -/
theorem onlyRepetitions_iff {stream : UartStreamBuffer} {inputs : List StreamInput}
    {earlier : List UInt32} (hlast : ∀ last ∈ earlier.getLast?, stream.remembered = some last) :
    (∀ index sequence, Discards stream inputs index sequence →
        (earlier ++ sequencesOf (inputs.take index)).getLast? = some sequence) ↔
      (∀ first ∈ (sequencesOf inputs).head?,
        (∀ last ∈ stream.remembered, Ahead last first) ∨ earlier.getLast? = some first) ∧
      (sequencesOf inputs).IsChain fun m n => m = n ∨ Ahead m n := by
  induction inputs generalizing stream earlier with
  | nil => simp [Discards, sequencesOf]
  | cons input inputs ih =>
    rw [forall_discards_cons]
    cases input with
    | read maximumLength =>
      refine (and_iff_right fun sequence payload hinput => ?_).trans (ih hlast)
      cases hinput
    | event sequence payload =>
      by_cases hzero : sequence = 0
      · -- The event carries no number: it is taken, and nothing is remembered of it.
        obtain ⟨htaken, hremembered⟩ := event_unnumbered stream hzero payload
        have hrest := @ih (uartStream.step stream (.event sequence payload)).1 earlier
          (by rw [hremembered]; exact hlast)
        rw [hremembered] at hrest
        rw [sequencesOf_zero hzero, ← hrest, and_iff_right fun _ _ _ h => absurd h htaken]
        -- From an event on that is remembered, the rest has to go on from its number.
        simp only [List.take_succ_cons, sequencesOf_zero hzero]
      have hnext : ∀ stream' : UartStreamBuffer, stream'.remembered = some sequence →
          ((∀ index sequence', Discards stream' inputs index sequence' →
              (earlier ++ sequencesOf ((StreamInput.event sequence payload :: inputs).take
                (index + 1))).getLast? = some sequence') ↔
            (sequence :: sequencesOf inputs).IsChain fun m n => m = n ∨ Ahead m n) := by
        intro stream' hremembered
        have hrest := @ih stream' (earlier ++ [sequence]) (by simp [hremembered])
        simp only [List.take_succ_cons, sequencesOf_event hzero]
        simp only [List.append_assoc, List.singleton_append] at hrest
        rw [hrest, List.isChain_cons, hremembered]
        simp [or_comm]
      rw [sequencesOf_event hzero]
      by_cases hahead : ∀ last ∈ stream.remembered, Ahead last sequence
      · obtain ⟨htaken, hremembered⟩ := event_ahead hzero hahead payload
        rw [hnext _ hremembered, and_iff_right fun _ _ _ h => absurd h htaken]
        refine (and_iff_right fun first hfirst => .inl ?_).symm
        rw [← Option.some.inj hfirst]
        exact hahead
      · -- The event is discarded, which it may be if it repeats the one before it.
        rw [event_behind hzero hahead]
        constructor
        · rintro ⟨hrepeats, hlater⟩
          have hrepeats := hrepeats sequence payload rfl rfl
          rw [List.take_zero] at hrepeats
          have hearlier : earlier.getLast? = some sequence := by simpa [sequencesOf] using hrepeats
          refine ⟨?_, (hnext stream (hlast sequence hearlier)).1 hlater⟩
          intro first hfirst
          exact .inr (hearlier.trans hfirst)
        · rintro ⟨hfirst, hchain⟩
          have hearlier := (hfirst sequence rfl).resolve_left hahead
          refine ⟨?_, (hnext stream (hlast sequence hearlier)).2 hchain⟩
          rintro sequence' payload' hinput -
          obtain ⟨rfl, -⟩ := StreamInput.event.inj hinput
          simpa [sequencesOf] using hearlier

/-- A stream remembers a number once an event has carried one. -/
theorem remembered_run_eq_none_iff (stream : UartStreamBuffer) (inputs : List StreamInput) :
    (uartStream.run stream inputs).remembered = none ↔
      stream.remembered = none ∧ sequencesOf inputs = [] := by
  induction inputs generalizing stream with
  | nil => exact (and_iff_left rfl).symm
  | cons input inputs ih =>
    rw [Machine.run, ih]
    cases input with
    | read maximumLength => exact Iff.rfl
    | event sequence payload =>
      by_cases hzero : sequence = 0
      · rw [(event_unnumbered stream hzero payload).2, sequencesOf_zero hzero]
      have hsome : (uartStream.step stream (.event sequence payload)).1.remembered ≠ none := by
        by_cases hahead : ∀ last ∈ stream.remembered, Ahead last sequence
        · rw [(event_ahead hzero hahead payload).2]
          exact Option.some_ne_none sequence
        · rw [event_behind hzero hahead]
          exact fun hnone => hahead (by simp [hnone])
      rw [sequencesOf_event hzero]
      exact iff_of_false (fun h => hsome h.1) fun h => List.cons_ne_nil _ _ h.2

/-- Whatever the daemon has been through, and whether or not it has seen that the node was reset:
of the events that arrive after the client has created its object again, none is taken for an old
one of the object's predecessor if and only if the first number goes on from the last one that the
stream took before, if an event of the predecessor has carried one. Every event but for repetitions
is appended if and only if, besides, each further number repeats the one before it or goes on from
it, as those of a node do that counts its events. -/
theorem restarted_stream_taken (mode : CanMode) (sessionId : UInt32) (hsession : sessionId ≠ 0)
    (before after : List HostOp) (nodeId objectId : UInt32) :
    let host := Host.threads.run (.start mode sessionId hsession) before
    let earlier := ((Host.streams nodeId objectId).outcomes (.start mode sessionId hsession)
      before).flatMap Prod.fst
    let inputs := ((Host.streams nodeId objectId).outcomes host after).flatMap Prod.fst
    let old := host.daemon.stream nodeId objectId
    (Host.threads.run host after).daemon.stream nodeId objectId = uartStream.run old inputs ∧
      (old.remembered = none ↔ sequencesOf earlier = []) ∧
      (NoneStale old inputs ↔ Continues old (sequencesOf inputs)) ∧
      (OnlyRepetitionsDiscarded old inputs ↔ Continues old (sequencesOf inputs) ∧
        (sequencesOf inputs).IsChain fun m n => m = n ∨ Ahead m n) ∧
      ∀ numbers : List ℕ, sequencesOf inputs = numbers.map UInt32.ofNat → InOrder numbers →
        (OnlyRepetitionsDiscarded old inputs ↔ Continues old (sequencesOf inputs)) := by
  intro host earlier inputs old
  have hafter := (Host.stream_run nodeId objectId host after).1
  have hbefore := (Host.stream_run nodeId objectId (.start mode sessionId hsession) before).1
  rw [Host.run_streams] at hafter hbefore
  have hnumbered : old.remembered = none ↔ sequencesOf earlier = [] := by
    change (host.daemon.stream nodeId objectId).remembered = none ↔ _
    rw [hbefore, Host.stream_start, remembered_run_eq_none_iff]
    exact and_iff_right rfl
  have hrepetitions : OnlyRepetitionsDiscarded old inputs ↔ Continues old (sequencesOf inputs) ∧
      (sequencesOf inputs).IsChain fun m n => m = n ∨ Ahead m n := by
    -- Before the first event there is none that it could repeat.
    have hiff := @onlyRepetitions_iff old inputs [] (by simp)
    simp only [List.nil_append, List.getLast?_nil, reduceCtorEq, or_false] at hiff
    rw [OnlyRepetitionsDiscarded, hiff, Continues]
    exact and_congr_left' ⟨fun h last hlast first hfirst => h first hfirst last hlast,
      fun h first hfirst last hlast => h last hlast first hfirst⟩
  refine ⟨hafter, hnumbered, noneStale_iff rfl, hrepetitions, fun numbers hnumbers horder => ?_⟩
  rw [hrepetitions]
  refine and_iff_left ?_
  rw [hnumbers, List.isChain_map]
  apply horder.imp
  rintro m n ⟨hle, hdistance⟩
  rcases hle.eq_or_lt with heq | hlt
  · exact .inl (congrArg UInt32.ofNat heq)
  · exact .inr (ahead_ofNat hlt hdistance)

/-- Messages from a node at some time. -/
def hears (now : ℤ) (messages : List CanMessage) : List HostOp := messages.map (.hear · now)

/-- The node answers discovery, is assigned the node ID 1, and confirms it. -/
def joins (now : ℤ) (requestId : UInt32) : List HostOp :=
  .discover :: hears now (nodeMessages 0x481 1 (discoveryResponse 1 requestId) ++
    nodeMessages 0x501 2 (heartbeat 1 1))

/-- A client's request for a streaming object for port 0. -/
def createRequest : Packet := ⟨{ command := Command.uartCreate }, [0, 0, 0xC2, 1, 0, 8, 1, 0, 1]⟩

/-- The node has created its object 1. -/
def createResponse (requestId : UInt32) : Packet :=
  ⟨{ messageType := .response, command := Command.uartCreate, sessionId := 1,
     requestId := requestId, objectId := 1 }, [0]⟩

/-- A client creates a streaming object, which is object 1 of the node. -/
def creates (now : ℤ) (index : ℕ) (requestId : UInt32) : List HostOp :=
  [.connect 1 createRequest now, .client index .sent] ++
    hears now (nodeMessages 0x581 3 (createResponse requestId)) ++ [.client index .sent]

/-- The node joins, sends an event of its object 1, is reset, and joins again after a second, and
the client creates the object again. -/
def restartOps : List HostOp :=
  joins 0 0x80000000 ++ creates 1000000 0 1 ++
    hears 2000000 (nodeMessages 0x501 4 (rxEvent 1 [7])) ++ joins 1000000000 0x80000002 ++
    creates 1001000000 1 2

/-- The new object's first event is lost on the bus, the second one arrives twice, and then the
third one. -/
def laterEventOps : List HostOp :=
  hears 1002000000 (nodeMessages 0x501 4 (rxEvent 2 [8]) ++ nodeMessages 0x501 5 (rxEvent 2 [8]) ++
    nodeMessages 0x501 6 (rxEvent 3 [9]))

/-- The numbers of these events go on from the one that was taken before the reset, and both events
are appended. -/
theorem restarted_stream_taken_lossy :
    OnlyRepetitionsDiscarded ((Host.threads.run freshHost restartOps).daemon.stream 1 1)
        (((Host.streams 1 1).outcomes (Host.threads.run freshHost restartOps)
          laterEventOps).flatMap Prod.fst) ∧
      ((Host.threads.run freshHost (restartOps ++ laterEventOps)).daemon.stream 1 1).bytes =
        [7, 8, 9] := by
  obtain ⟨-, -, -, -, htaken⟩ := restarted_stream_taken .flexibleDataRate 1 (by decide) restartOps
    laterEventOps 1 1
  have hremembered : ((Host.threads.run freshHost restartOps).daemon.stream 1 1).remembered =
      some 1 := by decide +kernel
  have hsequences : sequencesOf (((Host.streams 1 1).outcomes
      (Host.threads.run freshHost restartOps) laterEventOps).flatMap Prod.fst) = [2, 2, 3] := by
    decide +kernel
  have hcontinues : Continues ((Host.threads.run freshHost restartOps).daemon.stream 1 1)
      (sequencesOf (((Host.streams 1 1).outcomes (Host.threads.run freshHost restartOps)
        laterEventOps).flatMap Prod.fst)) := by
    rw [Continues, hremembered, hsequences]
    intro last hlast sequence hsequence
    obtain rfl : 1 = last := Option.some.inj hlast
    obtain rfl : 2 = sequence := Option.some.inj hsequence
    decide
  exact ⟨(htaken [2, 2, 3] hsequences (by unfold InOrder; decide)).2 hcontinues,
    by decide +kernel⟩

/-- The first event of the new object arrives. -/
def newEventOps : List HostOp := hears 1002000000 (nodeMessages 0x501 4 (rxEvent 1 [9]))

/-- It is discarded, and a stream without a past would have taken it. -/
theorem new_event_discarded :
    ¬∀ before after : List HostOp,
      NoneStale ((Host.threads.run freshHost before).daemon.stream 1 1)
        (((Host.streams 1 1).outcomes (Host.threads.run freshHost before) after).flatMap
          Prod.fst) := by
  intro h
  have hstale := h restartOps newEventOps 0 1
    ⟨[9], by decide +kernel, by decide +kernel⟩
  obtain ⟨payload, -, hdiscarded⟩ := hstale
  revert hdiscarded
  decide +kernel

end RemoteBSP.Toolbusd
