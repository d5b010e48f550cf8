import ClusterCost.Proofs.Binary64.Gradual
import Mathlib.Algebra.Order.Field.Basic

/-!
# Numbers that are nearly the same

Two numbers that are not negative are near each other up to a factor if neither is more than the other times the factor.
Factors multiply along chains, products and quotients, so the error of a few roundings is the product of their factors.
-/
namespace ClusterCost.Binary64

structure Near (r x y : ℚ) : Prop where
  left_nonneg : 0 ≤ x
  right_nonneg : 0 ≤ y
  le : x ≤ r * y
  ge : y ≤ r * x

variable {r s x y z x' y' : ℚ}

theorem Near.refl (nonneg : 0 ≤ x) : Near 1 x x :=
  ⟨nonneg, nonneg, (one_mul x).ge, (one_mul x).ge⟩

theorem Near.mono (near : Near r x y) (le : r ≤ s) : Near s x y where
  left_nonneg := near.left_nonneg
  right_nonneg := near.right_nonneg
  le := near.le.trans (mul_le_mul_of_nonneg_right le near.right_nonneg)
  ge := near.ge.trans (mul_le_mul_of_nonneg_right le near.left_nonneg)

theorem Near.trans (first : Near r x y) (second : Near s y z) (r_nonneg : 0 ≤ r) (s_nonneg : 0 ≤ s) :
    Near (r * s) x z where
  left_nonneg := first.left_nonneg
  right_nonneg := second.right_nonneg
  le :=
    calc x ≤ r * y := first.le
      _ ≤ r * (s * z) := mul_le_mul_of_nonneg_left second.le r_nonneg
      _ = r * s * z := (mul_assoc r s z).symm
  ge :=
    calc z ≤ s * y := second.ge
      _ ≤ s * (r * x) := mul_le_mul_of_nonneg_left first.ge s_nonneg
      _ = r * s * x := by ring

theorem Near.mul (first : Near r x y) (second : Near s x' y') : Near (r * s) (x * x') (y * y') where
  left_nonneg := mul_nonneg first.left_nonneg second.left_nonneg
  right_nonneg := mul_nonneg first.right_nonneg second.right_nonneg
  le :=
    calc x * x' ≤ r * y * (s * y') :=
          mul_le_mul first.le second.le second.left_nonneg (first.left_nonneg.trans first.le)
      _ = r * s * (y * y') := by ring
  ge :=
    calc y * y' ≤ r * x * (s * x') :=
          mul_le_mul first.ge second.ge second.right_nonneg (first.right_nonneg.trans first.ge)
      _ = r * s * (x * x') := by ring

theorem Near.inv (near : Near r x y) (pos : 0 < x) (pos' : 0 < y) : Near r x⁻¹ y⁻¹ where
  left_nonneg := (inv_pos.mpr pos).le
  right_nonneg := (inv_pos.mpr pos').le
  le := by
    rw [← div_eq_mul_inv, le_div_iff₀ pos', inv_mul_le_iff₀ pos, mul_comm]
    exact near.ge
  ge := by
    rw [← div_eq_mul_inv, le_div_iff₀ pos, inv_mul_le_iff₀ pos', mul_comm]
    exact near.le

theorem Near.div (first : Near r x y) (second : Near s x' y') (pos : 0 < x') (pos' : 0 < y') :
    Near (r * s) (x / x') (y / y') := by
  rw [div_eq_mul_inv, div_eq_mul_inv]
  exact first.mul (second.inv pos pos')

/-- The difference is at most the part of the number by which the factor is more than one. -/
theorem Near.abs_sub_le (near : Near r x y) (one_le : 1 ≤ r) : |x - y| ≤ (r - 1) * y := by
  have nonneg := near.right_nonneg
  have le := near.le
  have ge := near.ge
  rw [abs_le]
  constructor
  · rcases le_total x y with below | above
    · have part := mul_le_mul_of_nonneg_left below (sub_nonneg.mpr one_le)
      linarith
    · have part := mul_nonneg (sub_nonneg.mpr one_le) nonneg
      linarith
  · linarith

/-- The factor by which rounding to 53 digits can change a number. -/
def roundoff : ℚ :=
  2 ^ 53 / (2 ^ 53 - 1)

theorem roundoff_nonneg : 0 ≤ roundoff := by
  unfold roundoff
  norm_num

theorem nearest_nonneg (nonneg : 0 ≤ x) : 0 ≤ nearest x := by
  rw [← nearest_zero]
  exact nearest_mono nonneg

theorem near_nearest (nonneg : 0 ≤ x) : Near roundoff (nearest x) x := by
  have error := abs_le.mp (nearest_error x)
  rw [abs_of_nonneg nonneg] at error
  have rounded_nonneg := nearest_nonneg nonneg
  unfold roundoff
  refine ⟨rounded_nonneg, nonneg, ?_, ?_⟩
  · norm_num at error ⊢
    linarith
  · norm_num at error ⊢
    linarith

/-- The factor by which rounding can change a number that loses no more than three digits. -/
def gradualRoundoff : ℚ :=
  2 ^ 50 / (2 ^ 50 - 1)

theorem gradualRoundoff_nonneg : 0 ≤ gradualRoundoff := by
  unfold gradualRoundoff
  norm_num

theorem near_gradual (low : 2 ^ (-1025 : ℤ) ≤ x) : Near gradualRoundoff (gradual x) x := by
  have pos := (two_zpow_pos _).trans_le low
  have digit_le : (2 : ℚ) ^ grid x / 2 ≤ x / 2 ^ 50 := by
    rcases (grid_bounds pos).2 with full | least
    · rw [le_div_iff₀ (two_zpow_pos _)] at full
      norm_num at full ⊢
      linarith
    · have few : (2 : ℚ) ^ (-1074 : ℤ) / 2 = 2 ^ (-1025 : ℤ) / 2 ^ 50 := by
        rw [div_eq_div_iff two_ne_zero (by positivity), ← zpow_natCast, ← two_zpow_add, ← zpow_add_one₀ two_ne_zero]
        rfl
      rw [least, few]
      exact div_le_div_of_nonneg_right low (by positivity)
  have error := abs_le.mp ((gradual_error x).trans digit_le)
  unfold gradualRoundoff
  refine ⟨gradual_nonneg pos.le, pos.le, ?_, ?_⟩
  · norm_num at error ⊢
    linarith
  · norm_num at error ⊢
    linarith

end ClusterCost.Binary64
