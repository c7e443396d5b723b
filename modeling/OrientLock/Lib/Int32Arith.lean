import Mathlib

set_option autoImplicit false

/- Two's complement 32-bit arithmetic against the integers: an `Int32` sum or difference
is the exact one when the exact one fits, and the cast of an `unsigned int` to `int`
keeps values below `2^31` and wraps the others. A floating value converted to an integer
is truncated toward zero, which keeps it inside any interval of integers around zero. -/
namespace Int32Arith

theorem toInt_add_of_bounds (a b : Int32) (lower : -2 ^ 31 ≤ a.toInt + b.toInt)
    (upper : a.toInt + b.toInt < 2 ^ 31) : (a + b).toInt = a.toInt + b.toInt := by
  rw [Int32.toInt_add]
  exact Int.bmod_eq_of_le (by omega) (by omega)

theorem toInt_sub_of_bounds (a b : Int32) (lower : -2 ^ 31 ≤ a.toInt - b.toInt)
    (upper : a.toInt - b.toInt < 2 ^ 31) : (a - b).toInt = a.toInt - b.toInt := by
  rw [Int32.toInt_sub]
  exact Int.bmod_eq_of_le (by omega) (by omega)

theorem toInt_toInt32 (r : UInt32) :
    r.toInt32.toInt = if r.toNat < 2 ^ 31 then (r.toNat : Int) else r.toNat - 2 ^ 32 := by
  have below := r.toNat_lt
  rw [Int32.toInt, UInt32.toBitVec_toInt32, BitVec.toInt_eq_toNat_cond, UInt32.toNat_toBitVec]
  split <;> split <;> omega

theorem toInt_toInt32_of_lt (r : UInt32) (small : r.toNat < 2 ^ 31) :
    r.toInt32.toInt = r.toNat := by
  rw [toInt_toInt32, if_pos small]

theorem toInt32_eq_zero_iff (r : UInt32) : r.toInt32 = 0 ↔ r = 0 := by
  constructor
  · intro zero
    have back := congrArg Int32.toUInt32 zero
    rw [UInt32.toUInt32_toInt32] at back
    exact back.trans (by decide)
  · intro zero
    rw [zero]
    rfl

/-- C's conversion of a finite floating value to an integer type (C99 6.3.1.4): the fractional
part is discarded, so the value is truncated toward zero. A finite float is given by its value. -/
def truncate (value : ℚ) : Int := value.num.tdiv value.den

theorem truncate_of_nonneg {value : ℚ} (nonneg : 0 ≤ value) : truncate value = ⌊value⌋ := by
  rw [truncate, Int.tdiv_eq_ediv_of_nonneg (Rat.num_nonneg.mpr nonneg), Rat.floor_def']

theorem truncate_neg (value : ℚ) : truncate (-value) = -truncate value := by
  rw [truncate, truncate, Rat.neg_num, Rat.neg_den, Int.neg_tdiv]

theorem truncate_of_nonpos {value : ℚ} (nonpos : value ≤ 0) : truncate value = ⌈value⌉ := by
  have flipped := truncate_of_nonneg (neg_nonneg.mpr nonpos)
  rw [truncate_neg, Int.floor_neg] at flipped
  exact neg_inj.mp flipped

theorem truncate_le_max (value : ℚ) : (truncate value : ℚ) ≤ max value 0 := by
  rcases le_total 0 value with nonneg | nonpos
  · rw [truncate_of_nonneg nonneg]
    exact (Int.floor_le value).trans (le_max_left _ _)
  · rw [truncate_of_nonpos nonpos]
    have ceilNonpos : ⌈value⌉ ≤ 0 := Int.ceil_le.mpr (by exact_mod_cast nonpos)
    exact (Int.cast_nonpos.mpr ceilNonpos).trans (le_max_right _ _)

theorem min_le_truncate (value : ℚ) : min value 0 ≤ (truncate value : ℚ) := by
  rcases le_total 0 value with nonneg | nonpos
  · rw [truncate_of_nonneg nonneg]
    exact (min_le_right _ _).trans (Int.cast_nonneg (Int.floor_nonneg.mpr nonneg))
  · rw [truncate_of_nonpos nonpos]
    exact (min_le_left _ _).trans (Int.le_ceil value)

/-- Truncation keeps a value inside a closed interval of integers around zero. -/
theorem truncate_mem_Icc {value : ℚ} (low high : Int) (lowNonpos : low ≤ 0) (highNonneg : 0 ≤ high)
    (lower : (low : ℚ) ≤ value) (upper : value ≤ high) :
    low ≤ truncate value ∧ truncate value ≤ high := by
  have above : (low : ℚ) ≤ truncate value :=
    (le_min lower (by exact_mod_cast lowNonpos)).trans (min_le_truncate value)
  have below : (truncate value : ℚ) ≤ high :=
    (truncate_le_max value).trans (max_le upper (by exact_mod_cast highNonneg))
  exact ⟨by exact_mod_cast above, by exact_mod_cast below⟩

theorem truncate_mem_Ico {value : ℚ} (low high : Int) (lowNonpos : low ≤ 0) (highPos : 0 < high)
    (lower : (low : ℚ) ≤ value) (upper : value < high) :
    low ≤ truncate value ∧ truncate value < high := by
  have above : (low : ℚ) ≤ truncate value :=
    (le_min lower (by exact_mod_cast lowNonpos)).trans (min_le_truncate value)
  have below : (truncate value : ℚ) < high :=
    (truncate_le_max value).trans_lt (max_lt upper (by exact_mod_cast highPos))
  exact ⟨by exact_mod_cast above, by exact_mod_cast below⟩

example : truncate (-7 / 2) = -3 ∧ truncate (359.9) = 359 := by decide +kernel

end Int32Arith
