import Mathlib.Data.Nat.Bitwise
import Mathlib.Tactic

/-!
# Little-endian fields

Every module of the protocol, and the firmware's `core.c`, writes and reads integers with its own
copy of the same helpers: `put_u16`, `append_u16`, `read_u16`, `get_u16`, and so on. They are
modelled once here. A writer returns its bytes in order, and a reader takes the bytes at an offset.
The writers and the readers are inverse to each other, in both directions; both follow from the
fact that the shifted bytes of a value do not overlap.
-/

namespace RemoteBSP

/-- `data[index]`. The code reads only behind a check of the length, so the default value is never
seen. -/
def byteAt (data : List UInt8) (index : ℕ) : UInt8 := data.getD index 0

/-- `put_u16`: the two bytes of a value, the low one first. -/
def putU16 (value : UInt16) : List UInt8 := [value.toUInt8, (value >>> 8).toUInt8]

/-- `put_u32`: the four bytes of a value, the low one first. -/
def putU32 (value : UInt32) : List UInt8 :=
  [value.toUInt8, (value >>> 8).toUInt8, (value >>> 16).toUInt8, (value >>> 24).toUInt8]

/-- `put_u64`: the eight bytes of a value, the low one first. -/
def putU64 (value : UInt64) : List UInt8 :=
  [value.toUInt8, (value >>> 8).toUInt8, (value >>> 16).toUInt8, (value >>> 24).toUInt8,
    (value >>> 32).toUInt8, (value >>> 40).toUInt8, (value >>> 48).toUInt8,
    (value >>> 56).toUInt8]

/-- `get_u16`: the value of the two bytes at `offset`. -/
def getU16 (data : List UInt8) (offset : ℕ) : UInt16 :=
  (byteAt data offset).toUInt16 ||| ((byteAt data (offset + 1)).toUInt16 <<< 8)

/-- `get_u32`: the value of the four bytes at `offset`. -/
def getU32 (data : List UInt8) (offset : ℕ) : UInt32 :=
  (byteAt data offset).toUInt32 ||| ((byteAt data (offset + 1)).toUInt32 <<< 8) |||
    ((byteAt data (offset + 2)).toUInt32 <<< 16) ||| ((byteAt data (offset + 3)).toUInt32 <<< 24)

/-- `get_u64`: the value of the eight bytes at `offset`. -/
def getU64 (data : List UInt8) (offset : ℕ) : UInt64 :=
  (byteAt data offset).toUInt64 ||| ((byteAt data (offset + 1)).toUInt64 <<< 8) |||
    ((byteAt data (offset + 2)).toUInt64 <<< 16) |||
    ((byteAt data (offset + 3)).toUInt64 <<< 24) |||
    ((byteAt data (offset + 4)).toUInt64 <<< 32) |||
    ((byteAt data (offset + 5)).toUInt64 <<< 40) |||
    ((byteAt data (offset + 6)).toUInt64 <<< 48) |||
    ((byteAt data (offset + 7)).toUInt64 <<< 56)

/-! ## Bytes of a list -/

/-- The first byte of a list. -/
@[simp]
theorem byteAt_cons_zero (b : UInt8) (data : List UInt8) : byteAt (b :: data) 0 = b := rfl

/-- A later byte of a list. -/
@[simp]
theorem byteAt_cons_succ (b : UInt8) (data : List UInt8) (i : ℕ) :
    byteAt (b :: data) (i + 1) = byteAt data i := by
  simp [byteAt]

/-- A byte of the second of two lists. -/
theorem byteAt_append_right (xs ys : List UInt8) (i : ℕ) :
    byteAt (xs ++ ys) (xs.length + i) = byteAt ys i := by
  simp only [byteAt, List.getD_eq_getElem?_getD, List.getElem?_append_right (Nat.le_add_right _ _),
    Nat.add_sub_cancel_left]

/-! ## Writers -/

/-- A 16-bit field takes two bytes. -/
@[simp]
theorem length_putU16 (value : UInt16) : (putU16 value).length = 2 := rfl

/-- A 32-bit field takes four bytes. -/
@[simp]
theorem length_putU32 (value : UInt32) : (putU32 value).length = 4 := rfl

/-- A 64-bit field takes eight bytes. -/
@[simp]
theorem length_putU64 (value : UInt64) : (putU64 value).length = 8 := rfl

/-! ## Readers -/

/-- A byte shifted above a word below `2^k`, inside a register of `2^w`, adds to the word. -/
theorem lor_byte_eq_add {a b k w : ℕ} (ha : a < 2^k) (hb : b < 2^8) (hw : k + 8 ≤ w) :
    a ||| (b <<< k % 2^w) = a + 2^k * b := by
  have hlt : 2^k * b < 2^w := by
    calc 2^k * b < 2^k * 2^8 := Nat.mul_lt_mul_of_pos_left hb (by positivity)
      _ = 2^(k + 8) := (pow_add 2 k 8).symm
      _ ≤ 2^w := Nat.pow_le_pow_right (by norm_num) hw
  rw [Nat.shiftLeft_eq, mul_comm b, Nat.mod_eq_of_lt hlt, Nat.or_comm,
    ← Nat.two_pow_add_eq_or_of_lt ha, Nat.add_comm]

/-- The number that `get_u16` puts together from two bytes. -/
theorem toNat_getU16 (data : List UInt8) (i : ℕ) :
    (getU16 data i).toNat = (byteAt data i).toNat + 2^8 * (byteAt data (i + 1)).toNat := by
  have h0 := (byteAt data i).toNat_lt
  have h1 := (byteAt data (i + 1)).toNat_lt
  simp only [getU16, UInt16.toNat_or, UInt16.toNat_shiftLeft, UInt8.toNat_toUInt16,
    UInt16.reduceToNat, Nat.reduceMod]
  exact lor_byte_eq_add h0 h1 (by norm_num)

/-- The number that `get_u32` puts together from four bytes. -/
theorem toNat_getU32 (data : List UInt8) (i : ℕ) :
    (getU32 data i).toNat = (byteAt data i).toNat + 2^8 * (byteAt data (i + 1)).toNat +
      2^16 * (byteAt data (i + 2)).toNat + 2^24 * (byteAt data (i + 3)).toNat := by
  have h0 := (byteAt data i).toNat_lt
  have h1 := (byteAt data (i + 1)).toNat_lt
  have h2 := (byteAt data (i + 2)).toNat_lt
  have h3 := (byteAt data (i + 3)).toNat_lt
  simp only [getU32, UInt32.toNat_or, UInt32.toNat_shiftLeft, UInt8.toNat_toUInt32,
    UInt32.reduceToNat, Nat.reduceMod]
  rw [lor_byte_eq_add h0 h1 (by norm_num), lor_byte_eq_add (by omega) h2 (by norm_num),
    lor_byte_eq_add (by omega) h3 (by norm_num)]

/-- The number that `get_u64` puts together from eight bytes. -/
theorem toNat_getU64 (data : List UInt8) (i : ℕ) :
    (getU64 data i).toNat = (byteAt data i).toNat + 2^8 * (byteAt data (i + 1)).toNat +
      2^16 * (byteAt data (i + 2)).toNat + 2^24 * (byteAt data (i + 3)).toNat +
      2^32 * (byteAt data (i + 4)).toNat + 2^40 * (byteAt data (i + 5)).toNat +
      2^48 * (byteAt data (i + 6)).toNat + 2^56 * (byteAt data (i + 7)).toNat := by
  have h0 := (byteAt data i).toNat_lt
  have h1 := (byteAt data (i + 1)).toNat_lt
  have h2 := (byteAt data (i + 2)).toNat_lt
  have h3 := (byteAt data (i + 3)).toNat_lt
  have h4 := (byteAt data (i + 4)).toNat_lt
  have h5 := (byteAt data (i + 5)).toNat_lt
  have h6 := (byteAt data (i + 6)).toNat_lt
  have h7 := (byteAt data (i + 7)).toNat_lt
  simp only [getU64, UInt64.toNat_or, UInt64.toNat_shiftLeft, UInt8.toNat_toUInt64,
    UInt64.reduceToNat, Nat.reduceMod]
  rw [lor_byte_eq_add h0 h1 (by norm_num), lor_byte_eq_add (by omega) h2 (by norm_num),
    lor_byte_eq_add (by omega) h3 (by norm_num), lor_byte_eq_add (by omega) h4 (by norm_num),
    lor_byte_eq_add (by omega) h5 (by norm_num), lor_byte_eq_add (by omega) h6 (by norm_num),
    lor_byte_eq_add (by omega) h7 (by norm_num)]

/-! ## Round trips -/

/-- A 16-bit field reads back as it was written. -/
theorem getU16_eq_of_bytes {data : List UInt8} {i : ℕ} {value : UInt16}
    (h0 : byteAt data i = value.toUInt8) (h1 : byteAt data (i + 1) = (value >>> 8).toUInt8) :
    getU16 data i = value := by
  apply UInt16.toNat_inj.1
  rw [toNat_getU16, h0, h1]
  have := value.toNat_lt
  simp only [UInt16.toNat_toUInt8, UInt16.toNat_shiftRight, UInt16.reduceToNat, Nat.reduceMod,
    Nat.shiftRight_eq_div_pow]
  omega

/-- Four bytes that are those of a 32-bit value are read as this value. -/
theorem getU32_eq_of_bytes {data : List UInt8} {i : ℕ} {value : UInt32}
    (h0 : byteAt data i = value.toUInt8) (h1 : byteAt data (i + 1) = (value >>> 8).toUInt8)
    (h2 : byteAt data (i + 2) = (value >>> 16).toUInt8)
    (h3 : byteAt data (i + 3) = (value >>> 24).toUInt8) : getU32 data i = value := by
  apply UInt32.toNat_inj.1
  rw [toNat_getU32, h0, h1, h2, h3]
  have := value.toNat_lt
  simp only [UInt32.toNat_toUInt8, UInt32.toNat_shiftRight, UInt32.reduceToNat, Nat.reduceMod,
    Nat.shiftRight_eq_div_pow]
  omega

/-- Eight bytes that are those of a 64-bit value are read as this value. -/
theorem getU64_eq_of_bytes {data : List UInt8} {i : ℕ} {value : UInt64}
    (h0 : byteAt data i = value.toUInt8) (h1 : byteAt data (i + 1) = (value >>> 8).toUInt8)
    (h2 : byteAt data (i + 2) = (value >>> 16).toUInt8)
    (h3 : byteAt data (i + 3) = (value >>> 24).toUInt8)
    (h4 : byteAt data (i + 4) = (value >>> 32).toUInt8)
    (h5 : byteAt data (i + 5) = (value >>> 40).toUInt8)
    (h6 : byteAt data (i + 6) = (value >>> 48).toUInt8)
    (h7 : byteAt data (i + 7) = (value >>> 56).toUInt8) : getU64 data i = value := by
  apply UInt64.toNat_inj.1
  rw [toNat_getU64, h0, h1, h2, h3, h4, h5, h6, h7]
  have := value.toNat_lt
  simp only [UInt64.toNat_toUInt8, UInt64.toNat_shiftRight, UInt64.reduceToNat, Nat.reduceMod,
    Nat.shiftRight_eq_div_pow]
  omega

/-! ## Reading from the parts of a list

These take a field behind the parts of a list down to the part that it lies in. The side condition
is an equation, which `simp` proves by computing. -/

/-- A place behind the first part of a message is one in the second part. -/
@[simp]
theorem byteAt_skip {xs ys : List UInt8} {i : ℕ} (h : xs.length - i = 0) :
    byteAt (xs ++ ys) i = byteAt ys (i - xs.length) := by
  rw [← byteAt_append_right xs ys, Nat.add_sub_cancel' (Nat.le_of_sub_eq_zero h)]

/-- A 16-bit field behind a part. -/
@[simp]
theorem getU16_skip {xs ys : List UInt8} {i : ℕ} (h : xs.length - i = 0) :
    getU16 (xs ++ ys) i = getU16 ys (i - xs.length) := by
  have hle := Nat.le_of_sub_eq_zero h
  rw [getU16, getU16, byteAt_skip h, byteAt_skip (by omega), Nat.sub_add_comm hle]

/-- A 32-bit field behind a part. -/
@[simp]
theorem getU32_skip {xs ys : List UInt8} {i : ℕ} (h : xs.length - i = 0) :
    getU32 (xs ++ ys) i = getU32 ys (i - xs.length) := by
  have hle := Nat.le_of_sub_eq_zero h
  rw [getU32, getU32, byteAt_skip h, byteAt_skip (by omega), byteAt_skip (by omega),
    byteAt_skip (by omega), Nat.sub_add_comm hle, Nat.sub_add_comm hle, Nat.sub_add_comm hle]

/-- A 64-bit field behind a part. -/
@[simp]
theorem getU64_skip {xs ys : List UInt8} {i : ℕ} (h : xs.length - i = 0) :
    getU64 (xs ++ ys) i = getU64 ys (i - xs.length) := by
  have hle := Nat.le_of_sub_eq_zero h
  rw [getU64, getU64, byteAt_skip h, byteAt_skip (by omega), byteAt_skip (by omega),
    byteAt_skip (by omega), byteAt_skip (by omega), byteAt_skip (by omega), byteAt_skip (by omega),
    byteAt_skip (by omega), Nat.sub_add_comm hle, Nat.sub_add_comm hle, Nat.sub_add_comm hle,
    Nat.sub_add_comm hle, Nat.sub_add_comm hle, Nat.sub_add_comm hle, Nat.sub_add_comm hle]

/-- A 16-bit field behind a byte. -/
@[simp]
theorem getU16_cons_succ (b : UInt8) (data : List UInt8) (i : ℕ) :
    getU16 (b :: data) (i + 1) = getU16 data i := by
  simp only [getU16, byteAt_cons_succ]

/-- A 32-bit field behind a byte. -/
@[simp]
theorem getU32_cons_succ (b : UInt8) (data : List UInt8) (i : ℕ) :
    getU32 (b :: data) (i + 1) = getU32 data i := by
  simp only [getU32, byteAt_cons_succ, Nat.add_right_comm i 1]

/-- A 64-bit field behind a byte. -/
@[simp]
theorem getU64_cons_succ (b : UInt8) (data : List UInt8) (i : ℕ) :
    getU64 (b :: data) (i + 1) = getU64 data i := by
  simp only [getU64, byteAt_cons_succ, Nat.add_right_comm i 1]

/-- A 16-bit field at the beginning. -/
@[simp]
theorem getU16_putU16_append (value : UInt16) (data : List UInt8) :
    getU16 (putU16 value ++ data) 0 = value := getU16_eq_of_bytes rfl rfl

/-- A 32-bit field at the beginning. -/
@[simp]
theorem getU32_putU32_append (value : UInt32) (data : List UInt8) :
    getU32 (putU32 value ++ data) 0 = value := getU32_eq_of_bytes rfl rfl rfl rfl

/-- A 64-bit field at the beginning. -/
@[simp]
theorem getU64_putU64_append (value : UInt64) (data : List UInt8) :
    getU64 (putU64 value ++ data) 0 = value :=
  getU64_eq_of_bytes rfl rfl rfl rfl rfl rfl rfl rfl

/-- A message that is a 16-bit field reads back as its value. -/
@[simp]
theorem getU16_putU16 (value : UInt16) : getU16 (putU16 value) 0 = value :=
  getU16_eq_of_bytes rfl rfl

/-- A message that is a 32-bit field reads back as its value. -/
@[simp]
theorem getU32_putU32 (value : UInt32) : getU32 (putU32 value) 0 = value :=
  getU32_eq_of_bytes rfl rfl rfl rfl

/-- The bytes of a value stand at an offset. -/
def StandsAt (data : List UInt8) (offset : ℕ) (bytes : List UInt8) : Prop :=
  ∀ i < bytes.length, byteAt data (offset + i) = byteAt bytes i

/-- A 32-bit field that stands somewhere in a message is read there. -/
theorem StandsAt.readU32 {data : List UInt8} {offset : ℕ} {value : UInt32}
    (h : StandsAt data offset (putU32 value)) : getU32 data offset = value :=
  getU32_eq_of_bytes (h 0 (by simp)) (h 1 (by simp)) (h 2 (by simp)) (h 3 (by simp))

/-- A 64-bit field that stands somewhere in a message is read there. -/
theorem StandsAt.readU64 {data : List UInt8} {offset : ℕ} {value : UInt64}
    (h : StandsAt data offset (putU64 value)) : getU64 data offset = value :=
  getU64_eq_of_bytes (h 0 (by simp)) (h 1 (by simp)) (h 2 (by simp)) (h 3 (by simp))
    (h 4 (by simp)) (h 5 (by simp)) (h 6 (by simp)) (h 7 (by simp))

/-- A part of what stands at an offset. -/
theorem StandsAt.part {data bytes before part after : List UInt8} {offset : ℕ}
    (h : StandsAt data offset bytes) (hbytes : bytes = before ++ part ++ after) :
    StandsAt data (offset + before.length) part := by
  intro i hi
  have hlt : before.length + i < bytes.length := by
    rw [hbytes, List.length_append, List.length_append]
    omega
  rw [Nat.add_assoc, h _ hlt, hbytes, List.append_assoc, byteAt_append_right]
  rw [byteAt, byteAt, List.getD_append _ _ _ _ hi]

/-- The bytes of the second of two lists. -/
theorem standsAt_append (xs ys : List UInt8) : StandsAt (xs ++ ys) xs.length ys :=
  fun i _ => byteAt_append_right xs ys i

/-- Records of one length that follow each other. -/
theorem standsAt_flatMap {α : Type} {record : α → List UInt8} {size : ℕ}
    (hsize : ∀ x, (record x).length = size) (before : List UInt8) (xs : List α) {k : ℕ}
    (hk : k < xs.length) :
    StandsAt (before ++ xs.flatMap record) (before.length + k * size) (record xs[k]) := by
  induction xs generalizing before k with
  | nil => exact absurd hk (Nat.not_lt_zero k)
  | cons x xs ih =>
    rw [List.flatMap_cons]
    cases k with
    | zero =>
      have hall := standsAt_append before (record x ++ xs.flatMap record)
      have hfirst : record x ++ xs.flatMap record = [] ++ record x ++ xs.flatMap record := rfl
      rw [Nat.zero_mul, List.getElem_cons_zero]
      exact hall.part hfirst
    | succ k =>
      have hnext := ih (before ++ record x) (k := k) (Nat.lt_of_succ_lt_succ hk)
      rw [List.append_assoc, List.length_append, hsize] at hnext
      rw [List.getElem_cons_succ, Nat.succ_mul, Nat.add_comm (k * size), ← Nat.add_assoc]
      exact hnext

end RemoteBSP
