import Mathlib.Tactic
import RemoteBSP.Lib.Machine

/-!
# Bounded queues and rings of cells

`Fifo.machine` is a queue that holds at most a given number of elements: what a producer and a
consumer may ask of it, and what it answers. `Stands` relates a queue to a ring of cells, in which
the elements stand one after the other from some cell on and go on with the first cell behind the
last one. An element is put in with `Stands.push` and taken out with `Stands.pop`.
-/

namespace Fifo

variable {α : Type}

/-- What is asked of a queue. -/
inductive Call (α : Type)
  /-- Put one element in behind the others. -/
  | push (a : α)
  /-- Take out the element that has been there longest. -/
  | pop
  /-- Put a whole block in, or nothing. -/
  | writeExact (block : List α)
  /-- Take at most this many elements out. -/
  | read (count : ℕ)
  /-- Drop all elements at once. -/
  | clear
  /-- Ask for the number of elements. -/
  | size
  /-- Ask how many elements could still be put in. -/
  | free

/-- What a queue answers to a call. -/
inductive Result (α : Type)
  /-- Whether it has taken what was to be put in. -/
  | accepted (success : Bool)
  /-- The element taken out, if there was one. -/
  | popped (a : Option α)
  /-- The elements taken out, the oldest one first. -/
  | elements (block : List α)
  /-- The room that was asked for, or how many elements have been taken. -/
  | number (n : ℕ)
  /-- There is nothing to answer. -/
  | done
deriving DecidableEq

/-- One call, for a queue with room for `capacity` elements. -/
def step (capacity : ℕ) (queue : List α) : Call α → List α × Result α
  | .push a =>
    if queue.length < capacity then (queue ++ [a], .accepted true) else (queue, .accepted false)
  | .pop => (queue.tail, .popped queue.head?)
  | .writeExact block =>
    if queue.length + block.length ≤ capacity then (queue ++ block, .accepted true)
    else (queue, .accepted false)
  | .read count => (queue.drop count, .elements (queue.take count))
  | .clear => ([], .done)
  | .size => (queue, .number queue.length)
  | .free => (queue, .number (capacity - queue.length))

/-- A queue with room for `capacity` elements. -/
def machine (α : Type) (capacity : ℕ) : Machine (List α) (Call α) (Result α) := ⟨step capacity⟩

/-! ## Rings of cells -/

/-- The place of a cell that is `k` cells behind the cell `t` of a ring of `n`. -/
theorem add_mod_eq_ite {n t k : ℕ} (ht : t < n) (hk : k ≤ n) :
    (t + k) % n = if t + k < n then t + k else t + k - n := by
  split_ifs with h
  · exact Nat.mod_eq_of_lt h
  · rw [Nat.mod_eq_sub_mod (by omega), Nat.mod_eq_of_lt (by omega)]

/-- The elements of `queue` stand in the cells one after the other, from the cell `t` on and around
the end. -/
def Stands (cells : List α) (t : ℕ) (queue : List α) : Prop :=
  ∀ i < queue.length, cells[(t + i) % cells.length]? = queue[i]?

/-- The empty sequence stands at every place of the storage. -/
theorem stands_nil (cells : List α) (t : ℕ) : Stands cells t [] :=
  fun _ hi => absurd hi (Nat.not_lt_zero _)

/-- An element is put into the cell behind the others. -/
theorem Stands.push {cells queue : List α} {t : ℕ} (h : Stands cells t queue)
    (ht : t < cells.length) (hroom : queue.length < cells.length) (a : α) :
    Stands (cells.set ((t + queue.length) % cells.length) a) t (queue ++ [a]) := by
  intro i hi
  have hplace := add_mod_eq_ite ht hroom.le
  rw [List.length_append, List.length_singleton] at hi
  rw [List.length_set]
  by_cases hlast : i = queue.length
  · subst hlast
    have hlt : (t + queue.length) % cells.length < cells.length := Nat.mod_lt _ (by omega)
    rw [List.getElem?_set_self hlt, List.getElem?_concat_length]
  · -- The other elements stand in other cells.
    have hbefore : i < queue.length := by omega
    have hother := add_mod_eq_ite ht (k := i) (by omega)
    have hne : (t + queue.length) % cells.length ≠ (t + i) % cells.length := by
      rw [hplace, hother]
      split_ifs <;> omega
    rw [List.getElem?_set_ne hne, h i hbefore, List.getElem?_append_left hbefore]

/-- The first element is taken out of its cell. -/
theorem Stands.pop {cells queue : List α} {t : ℕ} {a : α} (h : Stands cells t (a :: queue))
    (ht : t < cells.length) :
    cells[t]? = some a ∧ Stands cells ((t + 1) % cells.length) queue := by
  constructor
  · have hfirst := h 0 (by simp)
    rwa [Nat.add_zero, Nat.mod_eq_of_lt ht] at hfirst
  · intro i hi
    have hnext := h (i + 1) (by simpa using hi)
    rwa [List.getElem?_cons_succ, ← Nat.add_assoc, Nat.add_right_comm, ← Nat.mod_add_mod] at hnext

end Fifo
