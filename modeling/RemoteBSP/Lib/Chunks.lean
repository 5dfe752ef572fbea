import Mathlib.Data.List.Basic
import Mathlib.Data.List.Flatten
import Mathlib.Algebra.Order.Floor.Div

/-!
# Splitting a list into chunks

The chunks of a list at a capacity `c`: chunk `i` is the part from position `i c` on, at most `c`
long. All chunks but the last are full, and put one after the other they are the list.
-/

namespace List

variable {α : Type}

/-- Chunk `i` of a list, at capacity `c`. -/
def chunk (c : ℕ) (xs : List α) (i : ℕ) : List α := (xs.drop (i * c)).take c

/-- The number of chunks of `n` elements, at capacity `c`. -/
def chunkCount (c n : ℕ) : ℕ := (n + c - 1) / c

/-- The length of a chunk. -/
theorem length_chunk (c : ℕ) (xs : List α) (i : ℕ) :
    (xs.chunk c i).length = min c (xs.length - i * c) := by
  simp [chunk]

/-- No chunk exceeds the capacity. -/
theorem length_chunk_le (c : ℕ) (xs : List α) (i : ℕ) : (xs.chunk c i).length ≤ c := by
  rw [length_chunk]; exact min_le_left _ _

/-- A chunk of a positive capacity lies inside the list exactly when its index is below the
number of chunks. -/
theorem mul_lt_iff_lt_chunkCount {c n i : ℕ} (hc : 0 < c) : i * c < n ↔ i < chunkCount c n := by
  rw [chunkCount, Nat.lt_div_iff_mul_lt hc]
  omega

/-- The chunks below the number of chunks are not empty. -/
theorem length_chunk_pos {c : ℕ} (hc : 0 < c) (xs : List α) {i : ℕ}
    (hi : i < chunkCount c xs.length) : 0 < (xs.chunk c i).length := by
  have := (mul_lt_iff_lt_chunkCount hc).2 hi
  rw [length_chunk]
  omega

/-- The first `n` chunks are the first `n c` elements. -/
theorem flatMap_chunk_range (c : ℕ) (xs : List α) (n : ℕ) :
    (List.range n).flatMap (xs.chunk c) = xs.take (n * c) := by
  induction n with
  | zero => simp
  | succ n ih =>
    rw [List.range_succ, List.flatMap_append, ih, List.flatMap_singleton, chunk,
      Nat.add_mul, one_mul, List.take_add]

/-- The list is its chunks, one after the other. -/
theorem flatMap_chunk {c : ℕ} (hc : 0 < c) (xs : List α) :
    (List.range (chunkCount c xs.length)).flatMap (xs.chunk c) = xs := by
  rw [flatMap_chunk_range]
  apply List.take_of_length_le
  by_contra hlt
  have hcount := (mul_lt_iff_lt_chunkCount (c := c) hc).1 (not_le.1 hlt)
  exact lt_irrefl _ hcount

variable {β : Type} {record : β → List α} {size : ℕ}

/-- The length of records of one length, one after the other. -/
theorem length_flatMap_of_length (hsize : ∀ x, (record x).length = size) (xs : List β) :
    (xs.flatMap record).length = xs.length * size := by
  rw [length_flatMap, map_congr_left fun x _ => hsize x, map_const', sum_replicate_nat]

/-- Each chunk of records of one length is a record. -/
theorem chunk_flatMap_of_length (hsize : ∀ x, (record x).length = size) (xs : List β) {k : ℕ}
    (hk : k < xs.length) : (xs.flatMap record).chunk size k = record xs[k] := by
  induction xs generalizing k with
  | nil => exact absurd hk (Nat.not_lt_zero k)
  | cons x xs ih =>
    rw [flatMap_cons]
    cases k with
    | zero => rw [chunk, Nat.zero_mul, drop_zero, getElem_cons_zero, take_left' (hsize x)]
    | succ k =>
      have hskip : (k + 1) * size = (record x).length + k * size := by
        rw [hsize, Nat.succ_mul, Nat.add_comm]
      rw [chunk, hskip, drop_length_add_append, getElem_cons_succ]
      exact ih (Nat.lt_of_succ_lt_succ hk)

end List
