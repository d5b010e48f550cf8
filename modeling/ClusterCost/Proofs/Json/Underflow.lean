import ClusterCost.Proofs.Json.Magnitude

/-!
# Number tokens near zero

A token that divides out more than the 307th power of ten is far below a thousandth (`value_le_of_low`). Two divisions are
made for it then, and the first of them loses no more than three digits. So floats keep some of the number from the least
float on, and nothing from a quarter of that down (`value_pos_of_low`, `value_of_low_eq_zero`).
-/
namespace ClusterCost.Json

open Binary64

theorem two_zpow_le_nearest_tenPow : 2 ^ (1023 : ℤ) ≤ nearest (10 ^ 308) :=
  two_zpow_le_nearest (by exact_mod_cast (by decide +kernel : 2 ^ 1023 ≤ 10 ^ 308))

theorem nearest_tenPow_le_two_zpow : nearest (10 ^ 308) ≤ 2 ^ (1024 : ℤ) :=
  nearest_le_two_zpow (by exact_mod_cast (by decide +kernel : 10 ^ 308 ≤ 2 ^ 1024))

/-- A division by the 308th power of ten takes 1023 binary places off. -/
theorem div_tenPow_le {x : ℚ} {e : ℤ} (le : x ≤ 2 ^ e) : x / nearest (10 ^ 308) ≤ 2 ^ (e - 1023) := by
  rw [div_le_iff₀ (nearest_tenPow_pos 308)]
  calc x ≤ 2 ^ e := le
    _ = 2 ^ (e - 1023) * 2 ^ (1023 : ℤ) := by rw [← two_zpow_add, sub_add_cancel]
    _ ≤ 2 ^ (e - 1023) * nearest (10 ^ 308) := mul_le_mul_of_nonneg_left two_zpow_le_nearest_tenPow (two_zpow_pos _).le

section Scaled

variable {m : Nat} {power : Int}

theorem gradual_first_bounds (pos : 0 < m) (small : m ≤ maxUnsigned) :
    0 ≤ gradual (nearest m / nearest (10 ^ 308)) ∧ gradual (nearest m / nearest (10 ^ 308)) ≤ 2 ^ (-959 : ℤ) := by
  have quotient_pos := div_pos (zero_lt_one.trans_le (nearest_natCast_bounds pos small).1) (nearest_tenPow_pos 308)
  have quotient_le := div_tenPow_le (nearest_natCast_bounds pos small).2
  exact ⟨gradual_nonneg quotient_pos.le, gradual_le_two_zpow quotient_pos quotient_le (by norm_num)⟩

theorem scaledValue_le_of_low (pos : 0 < m) (small : m ≤ maxUnsigned) (low : power < -307) :
    scaledValue m power ≤ 2 ^ (-959 : ℤ) := by
  obtain ⟨nonneg, le⟩ := gradual_first_bounds pos small
  rw [scaledValue, if_pos (by omega), dividedValue]
  split
  · next bounded =>
    have last : power.natAbs = 308 := by omega
    rw [last]
    exact le
  · exact (dividedValue_bounds nonneg le (by norm_num) _).2

/-- Below the 616th power of ten the second division leaves nothing. -/
theorem scaledValue_of_lowest (pos : 0 < m) (small : m ≤ maxUnsigned) (low : power < -616) : scaledValue m power = 0 := by
  obtain ⟨nonneg, le⟩ := gradual_first_bounds pos small
  have lost : gradual (gradual (nearest m / nearest (10 ^ 308)) / nearest (10 ^ 308)) = 0 := by
    rw [gradual_eq_zero_iff (div_nonneg nonneg (nearest_tenPow_pos 308).le)]
    exact (div_tenPow_le le).trans (zpow_le_zpow_right₀ (by norm_num) (by norm_num))
  rw [scaledValue, if_pos (by omega), dividedValue, if_neg (by omega), dividedValue, if_neg (by omega), lost]
  exact dividedValue_zero _ _

/-- The factor by which a number can change until the last rounding: two powers of ten, the digits, and the first of two
divisions. -/
def lowFactor : ℚ :=
  gradualRoundoff * (roundoff * roundoff) * roundoff

theorem lowFactor_nonneg : 0 ≤ lowFactor :=
  mul_nonneg (mul_nonneg gradualRoundoff_nonneg (mul_nonneg roundoff_nonneg roundoff_nonneg)) roundoff_nonneg

/-- What is rounded last is near the digits times the power. -/
theorem exists_quotient_of_low (pos : 0 < m) (small : m ≤ maxUnsigned) (low : power < -307) (high : -616 ≤ power) :
    ∃ b, Near lowFactor b (m * 10 ^ power) ∧ scaledValue m power = gradual b := by
  have both_nonneg := mul_nonneg roundoff_nonneg roundoff_nonneg
  have digits := near_nearest (Nat.cast_nonneg (α := ℚ) m)
  have first := digits.div (near_nearest (ten_pow_pos 308).le) (nearest_tenPow_pos 308) (ten_pow_pos 308)
  rw [scaledValue, if_pos (by omega), dividedValue]
  by_cases last : power.natAbs ≤ 308
  · have power_eq : power = -308 := by omega
    have value_eq : (m : ℚ) * 10 ^ power = m / 10 ^ 308 := by
      rw [power_eq, div_eq_mul_inv, ← zpow_natCast, ← zpow_neg]
      rfl
    have exact_last : power.natAbs = 308 := by omega
    rw [if_pos last, exact_last, value_eq]
    refine ⟨_, first.mono ?_, rfl⟩
    unfold lowFactor gradualRoundoff roundoff
    norm_num
  · have value_eq : (m : ℚ) * 10 ^ power = m / 10 ^ 308 / 10 ^ (power.natAbs - 308) := by
      rw [ten_zpow_of_neg (by omega), div_div, ← pow_add, div_eq_mul_inv, Nat.add_sub_cancel' (by omega)]
    have large : (2 : ℚ) ^ (-1025 : ℤ) ≤ nearest m / nearest (10 ^ 308) := by
      rw [le_div_iff₀ (nearest_tenPow_pos 308)]
      calc (2 : ℚ) ^ (-1025 : ℤ) * nearest (10 ^ 308) ≤ 2 ^ (-1025 : ℤ) * 2 ^ (1024 : ℤ) :=
            mul_le_mul_of_nonneg_left nearest_tenPow_le_two_zpow (two_zpow_pos _).le
        _ = 2 ^ (-1 : ℤ) := (two_zpow_add _ _).symm
        _ ≤ 1 := zpow_le_one_of_nonpos₀ (by norm_num) (by norm_num)
        _ ≤ nearest m := (nearest_natCast_bounds pos small).1
    have second := near_nearest (ten_pow_pos (power.natAbs - 308)).le
    rw [if_neg last, dividedValue, if_pos (by omega), value_eq]
    exact ⟨_, ((near_gradual large).trans first gradualRoundoff_nonneg both_nonneg).div second (nearest_tenPow_pos _)
      (ten_pow_pos _), rfl⟩

end Scaled

namespace Numeral

variable {n : Numeral}

theorem value_nonneg (decimal : n.IsDecimal) : 0 ≤ n.value := by
  unfold value
  split
  · exact le_refl 0
  · unfold scaledValue
    split
    · have le := (nearest_natCast_le (taken_le decimal))
      exact (dividedValue_bounds (nearest_nonneg (Nat.cast_nonneg _)) le (by norm_num) _).1
    · exact nearest_nonneg (mul_nonneg (nearest_nonneg (Nat.cast_nonneg _)) (nearest_tenPow_pos _).le)

/-- What is left of a token that loses digits is next to nothing. -/
theorem value_le_of_low (decimal : n.IsDecimal) (loses : ¬n.KeepsDigits) : n.value ≤ 2 ^ (-959 : ℤ) := by
  rcases Nat.eq_zero_or_pos n.taken.digits with zero | pos
  · rw [value_of_zero zero]
    exact (two_zpow_pos _).le
  · unfold KeepsDigits at loses
    unfold value
    split
    · exact (two_zpow_pos _).le
    · exact scaledValue_le_of_low pos (taken_le decimal) (by omega)

/-- Until the last rounding a token changes by far less than a half. -/
theorem near_of_low (decimal : n.IsDecimal) {b : ℚ} (near : Near lowFactor b (n.taken.digits * 10 ^ n.power)) :
    Near (3 / 2) b n.magnitude := by
  have all := near.trans (near_taken decimal) lowFactor_nonneg (mul_nonneg leftOut_nonneg leftOut_nonneg)
  apply all.mono
  unfold lowFactor gradualRoundoff roundoff leftOut
  norm_num

theorem magnitude_lt_of_lowest (decimal : n.IsDecimal) (low : n.power < -616) : n.magnitude < 2 ^ (-1074 : ℤ) := by
  have taken := (near_taken decimal).ge
  have digits : (n.taken.digits : ℚ) ≤ 2 ^ (64 : ℤ) := by
    have small := taken_le decimal
    have word : n.taken.digits ≤ 2 ^ 64 := small.trans (by decide)
    exact_mod_cast word
  have power_le : (10 : ℚ) ^ n.power ≤ 2 ^ (-1148 : ℤ) := by
    have tenth : (10 : ℚ) ^ (-(574 : ℤ)) ≤ 2 ^ (-(1148 : ℤ)) := by
      rw [zpow_neg, zpow_neg]
      exact inv_anti₀ (two_zpow_pos _) (by exact_mod_cast (by decide +kernel : 2 ^ 1148 ≤ 10 ^ 574))
    exact (zpow_le_zpow_right₀ (by norm_num) (by omega)).trans tenth
  have product : (n.taken.digits : ℚ) * 10 ^ n.power ≤ 2 ^ (64 : ℤ) * 2 ^ (-1148 : ℤ) :=
    mul_le_mul digits power_le (zpow_nonneg (by norm_num) _) (two_zpow_pos _).le
  have factor_le : leftOut * leftOut ≤ 2 := by
    unfold leftOut
    norm_num
  calc n.magnitude ≤ leftOut * leftOut * (n.taken.digits * 10 ^ n.power) := taken
    _ ≤ 2 * (2 ^ (64 : ℤ) * 2 ^ (-1148 : ℤ)) :=
      mul_le_mul factor_le product (mul_nonneg (Nat.cast_nonneg _) (zpow_nonneg (by norm_num) _)) (by norm_num)
    _ = 2 ^ (1 : ℤ) * 2 ^ (-1084 : ℤ) := by rw [← two_zpow_add, zpow_one]; norm_num
    _ = 2 ^ (-1083 : ℤ) := (two_zpow_add _ _).symm
    _ < 2 ^ (-1074 : ℤ) := zpow_lt_zpow_right₀ (by norm_num) (by norm_num)

/-- Floats keep some of a number from the least float on. -/
theorem value_pos_of_low (decimal : n.IsDecimal) (written : -(maxPower : Int) ≤ n.written) (low : n.power < -307)
    (large : 2 ^ (-1074 : ℤ) ≤ n.magnitude) : 0 < n.value := by
  have high : -616 ≤ n.power := by
    by_contra lowest
    exact absurd large (not_le.mpr (magnitude_lt_of_lowest decimal (not_le.mp lowest)))
  have pos : 0 < n.taken.digits := by
    rw [Nat.pos_iff_ne_zero]
    intro zero
    have bound := (near_taken decimal).ge
    rw [zero, Nat.cast_zero, zero_mul, mul_zero] at bound
    exact absurd ((two_zpow_pos _).trans_le large) (not_lt.mpr bound)
  obtain ⟨b, near, value_eq⟩ := exists_quotient_of_low pos (taken_le decimal) low high
  have bound := (near_of_low decimal near).ge
  have halves : (2 : ℚ) ^ (-1074 : ℤ) = 2 * 2 ^ (-1075 : ℤ) := by
    rw [mul_comm, ← zpow_add_one₀ two_ne_zero]
    rfl
  have least_pos := two_zpow_pos (-1075)
  have strict : (2 : ℚ) ^ (-1075 : ℤ) < b := by
    rw [halves] at large
    linarith
  rw [value_of_le written, value_eq]
  exact gradual_pos strict

/-- Floats keep nothing of a number from a quarter of the least float down. -/
theorem value_of_low_eq_zero (decimal : n.IsDecimal) (loses : ¬n.KeepsDigits) (small : n.magnitude ≤ 2 ^ (-1076 : ℤ)) :
    n.value = 0 := by
  rcases Nat.eq_zero_or_pos n.taken.digits with zero | pos
  · exact value_of_zero zero
  unfold KeepsDigits at loses
  unfold value
  split
  · rfl
  have within := taken_le decimal
  have low : n.power < -307 := by omega
  rcases lt_or_ge n.power (-616) with lowest | high
  · exact scaledValue_of_lowest pos within lowest
  · obtain ⟨b, near, value_eq⟩ := exists_quotient_of_low pos within low high
    have bound := near_of_low decimal near
    have half : 2 * (2 : ℚ) ^ (-1076 : ℤ) = 2 ^ (-1075 : ℤ) := by
      rw [mul_comm, ← zpow_add_one₀ two_ne_zero]
      rfl
    have least_pos := two_zpow_pos (-1076)
    rw [value_eq, gradual_eq_zero_iff bound.left_nonneg, ← half]
    linarith [bound.le]

end Numeral

end ClusterCost.Json
