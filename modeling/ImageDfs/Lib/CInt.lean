/-
  File:      ImageDfs/Lib/CInt.lean
  Subject:   `int32_t` ARITHMETIC AS C COMPUTES IT: sums that stay in range, sums that wrap, and
             `%` (C's remainder, `Int.tmod`) on operands that are not negative.

  Lean's `Int32` adds modulo `2^32` and takes the remainder with the sign of the dividend, as the
  machine does. A program's reasoning about its counters holds exactly where no sum leaves
  `[-2^31, 2^31)`:

  * `toInt_add_of_range`, `toInt_sub_of_range` -- in range, `+` and `-` are the integers';
  * `toInt_add_of_overflow` -- a sum of `2^31` or more comes back `2^32` lower;
  * `toInt_add_add_of_range` -- a sum of three is the integers' when the total is in range,
    whatever the sum of the first two;
  * `toNat_toUInt32_of_nonneg` -- a value that is not negative keeps its size as a `uint32_t`;
  * `toInt_neg_ofNat` -- the negation of a count below `2^31` is the integer's;
  * `toInt_mod_of_nonneg` -- `%` of a non-negative value by a positive one is `Int.emod`;
  * `toInt_mod_nonpos` -- `%` of a value that is not positive is not positive either;
  * `mul_tdiv_near` -- C's `/` (`Int.tdiv`) leaves `b * (a / b)` less than `b` away from `a`;
  * `bmod_of_range` -- what `Int.bmod` makes of a value below `2^32 + 2^31`;
  * `toNatClampNeg_eq` -- `toNatClampNeg` is `toInt.toNat`, the spelling the lemmas use.
-/
import Mathlib

namespace CInt

theorem toNatClampNeg_eq (x : Int32) : x.toNatClampNeg = x.toInt.toNat :=
  (Int32.toNat_toInt x).symm

theorem toInt_add_of_range (a b : Int32) (h1 : -2 ^ 31 ≤ a.toInt + b.toInt)
    (h2 : a.toInt + b.toInt < 2 ^ 31) : (a + b).toInt = a.toInt + b.toInt := by
  rw [Int32.toInt_add]
  exact Int.bmod_eq_of_le (by omega) (by omega)

theorem toInt_sub_of_range (a b : Int32) (h1 : -2 ^ 31 ≤ a.toInt - b.toInt)
    (h2 : a.toInt - b.toInt < 2 ^ 31) : (a - b).toInt = a.toInt - b.toInt := by
  rw [Int32.toInt_sub]
  exact Int.bmod_eq_of_le (by omega) (by omega)

/-- The sum of three wraps only as its total does: the first sum may leave the range. -/
theorem toInt_add_add_of_range (a b c : Int32) (h1 : -2 ^ 31 ≤ a.toInt + b.toInt + c.toInt)
    (h2 : a.toInt + b.toInt + c.toInt < 2 ^ 31) :
    (a + b + c).toInt = a.toInt + b.toInt + c.toInt := by
  rw [Int32.toInt_add, Int32.toInt_add, Int.bmod_add_bmod]
  exact Int.bmod_eq_of_le (by omega) (by omega)

theorem toNat_toUInt32_of_nonneg {x : Int32} (h : 0 ≤ x.toInt) :
    x.toUInt32.toNat = x.toInt.toNat := by
  rw [← Int32.toNat_toBitVec, ← Int32.toInt_toBitVec] at *
  rw [BitVec.toInt_eq_toNat_of_msb]
  · simp
  · -- the sign bit is clear, as the value is not negative
    rw [BitVec.msb_eq_false_iff_two_mul_lt]
    rw [BitVec.toInt_eq_toNat_cond] at h
    split at h <;> omega

/-- A sum past the largest `int32_t` wraps to a negative value. -/
theorem toInt_add_of_overflow (a b : Int32) (h : 2 ^ 31 ≤ a.toInt + b.toInt) :
    (a + b).toInt = a.toInt + b.toInt - 2 ^ 32 := by
  have ha := Int32.toInt_lt a
  have hb := Int32.toInt_lt b
  have hsub : (a.toInt + b.toInt).bmod (2 ^ 32) = (a.toInt + b.toInt - 2 ^ 32).bmod (2 ^ 32) :=
    (Int.sub_bmod_right (a.toInt + b.toInt) (2 ^ 32)).symm
  rw [Int32.toInt_add, hsub]
  exact Int.bmod_eq_of_le (by omega) (by omega)

/-- A value in `[-2^31, 2^31)` is its own `bmod 2^32`; one of `2^31` or more comes back `2^32`
    lower. -/
theorem bmod_of_range {x : Int} (h1 : -2 ^ 31 ≤ x) (h2 : x < 2 ^ 32 + 2 ^ 31) :
    x.bmod (2 ^ 32) = if x < 2 ^ 31 then x else x - 2 ^ 32 := by
  split
  · exact Int.bmod_eq_of_le (by omega) (by omega)
  · rw [← Int.sub_bmod_right]
    exact Int.bmod_eq_of_le (by omega) (by omega)

theorem toInt_neg_ofNat {n : Nat} (h : n < 2 ^ 31) : (-Int32.ofNat n).toInt = -n := by
  rw [Int32.toInt_neg, Int32.toInt_ofNat_of_lt h]
  exact Int.bmod_eq_of_le (by omega) (by omega)

theorem toInt_mod_of_nonneg (a b : Int32) (ha : 0 ≤ a.toInt) :
    (a % b).toInt = a.toInt % b.toInt := by
  rw [Int32.toInt_mod]
  exact Int.tmod_eq_emod_of_nonneg ha

/-- C's `%` takes the sign of the dividend: a dividend that is not positive leaves a remainder
    that is not positive, whatever the divisor. -/
theorem toInt_mod_nonpos (a b : Int32) (ha : a.toInt ≤ 0) : (a % b).toInt ≤ 0 := by
  have hneg := Int.tmod_nonneg b.toInt (show 0 ≤ -a.toInt by omega)
  rw [Int.neg_tmod] at hneg
  rw [Int32.toInt_mod]
  omega

/-- C's `/` truncates toward zero, so `b * (a / b)` is less than `b` away from `a`, on either
    side as `a` is negative or not. -/
theorem mul_tdiv_near (a b : Int) (hb : 0 < b) : a - b < b * a.tdiv b ∧ b * a.tdiv b < a + b := by
  have hlt := Int.tmod_lt_of_pos a hb
  have hgt := Int.lt_tmod_of_pos a hb
  rw [Int.tmod_def] at hlt hgt
  constructor <;> omega

end CInt
