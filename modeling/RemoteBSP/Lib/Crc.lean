import Mathlib.Data.List.Basic
import Mathlib.Logic.Function.Iterate
import Mathlib.Tactic

/-!
# Cyclic redundancy checks

A reflected checksum over a register of `w` bits, one bit at a time (`Crc.bit`). The register shifts
to the right, and the polynomial is added if a one falls out. A polynomial with its highest bit set
makes this injective (`bit_injective`). As it is linear too, bytes that fit into the register side
by side are the same as one word (`bytes_eq_iterate`), so that two such blocks of bytes leave
different registers behind if they differ (`bytes_injective`).
-/

namespace Crc

variable {w : ℕ}

/-- The register after one bit: it is shifted, and the polynomial is added if a one falls out. -/
def bit (poly r : BitVec w) : BitVec w := (r >>> 1) ^^^ (if r.getLsbD 0 then poly else 0)

/-- The register after one byte, whose bits go in from the lowest one on. -/
def byte (poly r : BitVec w) (b : BitVec 8) : BitVec w := (bit poly)^[8] (r ^^^ b.setWidth w)

/-- The register after a sequence of bytes. -/
def bytes (poly r : BitVec w) (bs : List (BitVec 8)) : BitVec w := bs.foldl (byte poly) r

/-- The bytes of a word, the low one first. -/
def word : List (BitVec 8) → BitVec w
  | [] => 0
  | b :: bs => b.setWidth w ^^^ (word bs <<< 8)

variable (poly : BitVec w)

/-- Each bit of the register comes from its neighbour and from the bit that falls out. -/
theorem getLsbD_bit (r : BitVec w) (i : ℕ) :
    (bit poly r).getLsbD i = (r.getLsbD (i + 1) ^^ (r.getLsbD 0 && poly.getLsbD i)) := by
  rw [bit, BitVec.getLsbD_xor, BitVec.getLsbD_ushiftRight, Nat.add_comm 1]
  cases r.getLsbD 0 <;> simp

/-- One bit of the checksum is linear over the sum of two registers. -/
theorem bit_xor (r s : BitVec w) : bit poly (r ^^^ s) = bit poly r ^^^ bit poly s := by
  refine BitVec.eq_of_getLsbD_eq fun i _ => ?_
  simp only [getLsbD_bit, BitVec.getLsbD_xor, Bool.and_xor_distrib_right, Bool.xor_assoc]
  rw [Bool.xor_left_comm (s.getLsbD (i + 1))]

/-- The checksum is linear over several bits. -/
theorem iterate_xor (n : ℕ) (r s : BitVec w) :
    (bit poly)^[n] (r ^^^ s) = (bit poly)^[n] r ^^^ (bit poly)^[n] s := by
  induction n generalizing r s with
  | zero => rfl
  | succ n ih => rw [Function.iterate_succ_apply, bit_xor, ih]; rfl

variable {poly}

/-- As long as zeros fall out, the register only shifts. -/
theorem iterate_eq_ushiftRight {n : ℕ} {r : BitVec w} (h : ∀ i < n, r.getLsbD i = false) :
    (bit poly)^[n] r = r >>> n := by
  induction n with
  | zero => exact (BitVec.ushiftRight_zero r).symm
  | succ n ih =>
    rw [Function.iterate_succ_apply', ih fun i hi => h i (Nat.lt_succ_of_lt hi), bit,
      BitVec.getLsbD_ushiftRight, Nat.add_zero, h n (Nat.lt_succ_self n), BitVec.shiftRight_add]
    simp

/-- Only zeros become zeros, as the polynomial has its highest bit set. -/
theorem eq_zero_of_bit (hpoly : poly.msb = true) {r : BitVec w} (h : bit poly r = 0) : r = 0 := by
  have hbits : ∀ i, (r.getLsbD (i + 1) ^^ (r.getLsbD 0 && poly.getLsbD i)) = false := by
    intro i
    rw [← getLsbD_bit, h]
    exact BitVec.getLsbD_zero
  -- Nothing is shifted into the highest bit, so the polynomial has not been added.
  have hlow : r.getLsbD 0 = false := by
    have htop := hbits (w - 1)
    rw [BitVec.msb_eq_getLsbD_last] at hpoly
    rw [hpoly, BitVec.getLsbD_of_ge r _ (by omega)] at htop
    simpa using htop
  refine BitVec.eq_of_getLsbD_eq fun i _ => Eq.trans ?_ BitVec.getLsbD_zero.symm
  cases i with
  | zero => exact hlow
  | succ i => simpa [hlow] using hbits i

/-- One bit of the checksum can be undone, since the polynomial has its highest bit. -/
theorem bit_injective (hpoly : poly.msb = true) : Function.Injective (bit poly) := by
  intro r s h
  have hzero : bit poly (r ^^^ s) = 0 := by
    rw [bit_xor, h]
    exact BitVec.xor_self
  exact BitVec.xor_eq_zero_iff.1 (eq_zero_of_bit hpoly hzero)

/-! ## Bytes -/

/-- Different registers stay different over the same bytes. -/
theorem bytes_left_injective (hpoly : poly.msb = true) (bs : List (BitVec 8)) :
    Function.Injective fun r => bytes poly r bs := by
  intro r s h
  induction bs generalizing r s with
  | nil => exact h
  | cons b bs ih =>
    have hbyte := (bit_injective hpoly).iterate 8 (ih h)
    exact (BitVec.xor_left_inj _).1 hbyte

/-- A word of `n` bytes takes `8 n` bits. -/
theorem getLsbD_word {bs : List (BitVec 8)} {i : ℕ} (h : 8 * bs.length ≤ i) :
    (word bs : BitVec w).getLsbD i = false := by
  induction bs generalizing i with
  | nil => exact BitVec.getLsbD_zero
  | cons b bs ih =>
    rw [List.length_cons] at h
    rw [word, BitVec.getLsbD_xor, BitVec.getLsbD_setWidth, BitVec.getLsbD_shiftLeft,
      ih (by omega), BitVec.getLsbD_of_ge b i (by omega)]
    simp

/-- Bytes that fit into the register are the same as their word. -/
theorem bytes_eq_iterate (r : BitVec w) {bs : List (BitVec 8)} (h : 8 * bs.length ≤ w) :
    bytes poly r bs = (bit poly)^[8 * bs.length] (r ^^^ word bs) := by
  induction bs generalizing r with
  | nil => simp [bytes, word]
  | cons b bs ih =>
    rw [List.length_cons] at h
    -- The other bytes can be put beside the first one before its bits are shifted out.
    have hshifted : (bit poly)^[8] (word bs <<< 8) = word bs := by
      rw [iterate_eq_ushiftRight fun i hi => by
        rw [BitVec.getLsbD_shiftLeft]
        simp [hi]]
      refine BitVec.eq_of_getLsbD_eq fun i hi => ?_
      rw [BitVec.getLsbD_ushiftRight, BitVec.getLsbD_shiftLeft]
      by_cases hfits : 8 + i < w
      · simp [hfits]
      · have htop : (word bs : BitVec w).getLsbD i = false := getLsbD_word (by omega)
        simp [hfits, htop]
    calc bytes poly r (b :: bs)
        = (bit poly)^[8 * bs.length] (byte poly r b ^^^ word bs) := ih _ (by omega)
      _ = (bit poly)^[8 * bs.length] ((bit poly)^[8] (r ^^^ word (b :: bs))) := by
        rw [word, ← BitVec.xor_assoc, iterate_xor poly 8, hshifted, byte]
      _ = (bit poly)^[8 * (b :: bs).length] (r ^^^ word (b :: bs)) := by
        rw [← Function.iterate_add_apply]
        rfl

/-- The bytes of a word that fits into the register can be read back. -/
theorem word_injective {bs cs : List (BitVec 8)} (h : 8 * bs.length ≤ w)
    (hlength : cs.length = bs.length) (hword : (word bs : BitVec w) = word cs) : bs = cs := by
  induction bs generalizing cs with
  | nil => exact (List.length_eq_zero_iff.1 hlength).symm
  | cons b bs ih =>
    cases cs with
    | nil => cases hlength
    | cons c cs =>
      rw [List.length_cons] at h
      have hlength' : cs.length = bs.length := Nat.succ.inj hlength
      have hbits : ∀ i, (word (b :: bs) : BitVec w).getLsbD i = (word (c :: cs)).getLsbD i :=
        fun i => congrArg (BitVec.getLsbD · i) hword
      simp only [word, BitVec.getLsbD_xor, BitVec.getLsbD_setWidth, BitVec.getLsbD_shiftLeft]
        at hbits
      have hfirst : b = c := by
        refine BitVec.eq_of_getLsbD_eq fun i hi => ?_
        have hbit := hbits i
        simpa [hi, show i < w by omega] using hbit
      have hrest : (word bs : BitVec w) = word cs := by
        refine BitVec.eq_of_getLsbD_eq fun i _ => ?_
        by_cases hfits : 8 + i < w
        · have hbit := hbits (8 + i)
          simpa [hfits] using hbit
        · rw [getLsbD_word (by omega), getLsbD_word (by omega)]
      rw [hfirst, ih (by omega) hlength' hrest]

/-- Blocks of bytes that fit into the register leave different registers behind if they differ. -/
theorem bytes_injective (hpoly : poly.msb = true) (r : BitVec w) {bs cs : List (BitVec 8)}
    (h : 8 * bs.length ≤ w) (hlength : cs.length = bs.length)
    (heq : bytes poly r bs = bytes poly r cs) : bs = cs := by
  rw [bytes_eq_iterate r h, bytes_eq_iterate r (hlength.symm ▸ h), hlength] at heq
  exact word_injective h hlength
    ((BitVec.xor_right_inj r).1 ((bit_injective hpoly).iterate _ heq))

end Crc
