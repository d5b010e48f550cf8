import ClusterCost.Proofs.Binary64.Nearest

/-!
# Digits lost near zero

A float keeps 53 digits only as long as the last of them stands for no less than the least exponent does. Closer to
zero, numbers are rounded to the multiples of the least float: `gradual` is `nearest` down to there
(`gradual_of_normal`), and what is at most half of the least float is lost (`gradual_eq_zero_iff`). A mantissa and an
exponent are `Canonical` if they are the form that floats have for their number, and the number determines them
(`Canonical.unique`).
-/
namespace ClusterCost.Binary64

/-- The exponent of the last digit that a float has room for. -/
def grid (x : ℚ) : ℤ :=
  max (exponent x) (-1074)

/-- The nearest number that floats have room for, if it is not too great. -/
def gradual (x : ℚ) : ℚ :=
  roundEven (x / 2 ^ grid x) * 2 ^ grid x

theorem grid_neg (x : ℚ) : grid (-x) = grid x := by
  rw [grid, exponent_neg, grid]

theorem gradual_neg (x : ℚ) : gradual (-x) = -gradual x := by
  rw [gradual, gradual, grid_neg, neg_div, roundEven_neg, Int.cast_neg, neg_mul]

theorem gradual_zero : gradual 0 = 0 := by
  have round_zero := roundEven_intCast 0
  rw [Int.cast_zero] at round_zero
  rw [gradual, zero_div, round_zero, Int.cast_zero, zero_mul]

/-- Where no digits are lost, rounding to what floats have room for is rounding to 53 digits. -/
theorem gradual_of_normal {x : ℚ} (normal : -1074 ≤ exponent x) : gradual x = nearest x := by
  have same : grid x = exponent x := max_eq_left normal
  rw [gradual, same, nearest]

theorem exponent_of_normal {x : ℚ} (least : 2 ^ (-1022 : ℤ) ≤ x) : -1074 ≤ exponent x := by
  have exponent_eq : exponent (2 ^ (-1022 : ℤ)) = -1074 := by
    apply exponent_of_bounds
    · norm_num
    · exact zpow_lt_zpow_right₀ (by norm_num) (by norm_num)
  rw [← exponent_eq]
  exact exponent_mono (two_zpow_pos _) least

theorem gradual_of_least {x : ℚ} (least : 2 ^ (-1022 : ℤ) ≤ |x|) : gradual x = nearest x := by
  apply gradual_of_normal
  have normal := exponent_of_normal least
  rw [exponent, abs_abs] at normal
  exact normal

/-! ## The mantissa on the grid -/

/-- On the grid a number has no more than 53 digits before the point, and fewer only at the least exponent. -/
theorem grid_bounds {x : ℚ} (pos : 0 < x) : x / 2 ^ grid x < 2 ^ 53 ∧ (2 ^ 52 ≤ x / 2 ^ grid x ∨ grid x = -1074) := by
  obtain ⟨low, high⟩ := mantissa_bounds pos
  rcases le_total (-1074) (exponent x) with normal | tiny
  · have same : grid x = exponent x := max_eq_left normal
    rw [same]
    exact ⟨high, .inl low⟩
  · have same : grid x = -1074 := max_eq_right tiny
    have shrunk : x / 2 ^ grid x ≤ x / 2 ^ exponent x :=
      div_le_div_of_nonneg_left pos.le (two_zpow_pos _) (zpow_le_zpow_right₀ (by norm_num) (le_max_left _ _))
    exact ⟨shrunk.trans_lt high, .inr same⟩

theorem roundEven_grid_bounds {x : ℚ} (pos : 0 < x) : 0 ≤ roundEven (x / 2 ^ grid x) ∧
    roundEven (x / 2 ^ grid x) ≤ 2 ^ 53 ∧ (2 ^ 52 ≤ roundEven (x / 2 ^ grid x) ∨ grid x = -1074) := by
  obtain ⟨high, low⟩ := grid_bounds pos
  have mantissa_nonneg : ((0 : ℤ) : ℚ) ≤ x / 2 ^ grid x := by
    rw [Int.cast_zero]
    exact (div_pos pos (two_zpow_pos _)).le
  have nonneg := roundEven_mono mantissa_nonneg
  have above := roundEven_mono (b := ((2 ^ 53 : ℤ) : ℚ)) (by exact_mod_cast high.le)
  rw [roundEven_intCast] at nonneg above
  refine ⟨nonneg, above, low.imp_left fun full => ?_⟩
  have below := roundEven_mono (a := ((2 ^ 52 : ℤ) : ℚ)) (by exact_mod_cast full)
  rw [roundEven_intCast] at below
  exact below

theorem gradual_nonneg {x : ℚ} (nonneg : 0 ≤ x) : 0 ≤ gradual x := by
  rcases nonneg.eq_or_lt with rfl | pos
  · exact gradual_zero.ge
  · exact mul_nonneg (Int.cast_nonneg (roundEven_grid_bounds pos).1) (two_zpow_pos _).le

/-- What is at most half of the least float is lost. -/
theorem gradual_eq_zero_iff {x : ℚ} (nonneg : 0 ≤ x) : gradual x = 0 ↔ x ≤ 2 ^ (-1075 : ℤ) := by
  rcases nonneg.eq_or_lt with rfl | pos
  · exact iff_of_true gradual_zero (two_zpow_pos _).le
  have half_iff : x / 2 ^ grid x ≤ 1 / 2 ↔ x ≤ 2 ^ (-1075 : ℤ) := by
    rcases (grid_bounds pos).2 with full | least
    · have large : (2 : ℚ) ^ (-1075 : ℤ) < x := by
        rw [le_div_iff₀ (two_zpow_pos _)] at full
        calc (2 : ℚ) ^ (-1075 : ℤ) < 2 ^ (-1074 : ℤ) := zpow_lt_zpow_right₀ (by norm_num) (by norm_num)
          _ ≤ 2 ^ grid x := zpow_le_zpow_right₀ (by norm_num) (le_max_right _ _)
          _ ≤ 2 ^ 52 * 2 ^ grid x := le_mul_of_one_le_left (two_zpow_pos _).le (by norm_num)
          _ ≤ x := full
      exact iff_of_false (by linarith) (not_le.mpr large)
    · have half_eq : 1 / 2 * (2 : ℚ) ^ (-1074 : ℤ) = 2 ^ (-1075 : ℤ) := by
        rw [show (-1075 : ℤ) = -1 + -1074 by norm_num, two_zpow_add]
        norm_num
      rw [least, div_le_iff₀ (two_zpow_pos _), half_eq]
  have mantissa_nonneg : 0 ≤ x / 2 ^ grid x := (div_pos pos (two_zpow_pos _)).le
  rw [← half_iff, gradual, mul_eq_zero, or_iff_left (two_zpow_pos _).ne', Int.cast_eq_zero]
  constructor
  · intro lost
    by_contra large
    have kept := lt_roundEven_of_half_lt (a := 0) (not_le.mp large)
    rw [Int.cast_zero, zero_add] at kept
    omega
  · intro small
    have lost := roundEven_of_le_half (a := 0) rfl mantissa_nonneg small
    rw [Int.cast_zero, zero_add] at lost
    exact lost

theorem gradual_pos {x : ℚ} (kept : 2 ^ (-1075 : ℤ) < x) : 0 < gradual x := by
  have nonneg := (two_zpow_pos _).le.trans kept.le
  exact (gradual_nonneg nonneg).lt_of_ne' (mt (gradual_eq_zero_iff nonneg).mp (not_le.mpr kept))

theorem le_exponent_of_two_zpow_le {x : ℚ} {k : ℤ} (le : (2 : ℚ) ^ k ≤ x) : k - 52 ≤ exponent x := by
  have pos : 0 < x := (two_zpow_pos k).trans_le le
  have log_le := (Int.zpow_le_iff_le_log (b := 2) (by norm_num) pos).mp (by exact_mod_cast le)
  rw [exponent, abs_of_pos pos]
  omega

/-- Rounding moves no number up past a power of two that is a float. -/
theorem gradual_le_two_zpow {x : ℚ} {k : ℤ} (pos : 0 < x) (le : x ≤ 2 ^ k) (least : -1074 ≤ k) :
    gradual x ≤ 2 ^ k := by
  have exponent_le : exponent x ≤ k := by
    have mono := exponent_mono pos le
    have exponent_eq : exponent (2 ^ k) = k - 52 := by
      apply exponent_of_bounds
      · rw [show 52 + (k - 52) = k by omega]
      · exact zpow_lt_zpow_right₀ (by norm_num) (by omega)
    omega
  have grid_le : grid x ≤ k := max_le exponent_le least
  obtain ⟨d, power_eq⟩ := Int.eq_ofNat_of_zero_le (sub_nonneg.mpr grid_le)
  have power_eq' : (2 : ℚ) ^ k = 2 ^ d * 2 ^ grid x := by
    rw [← zpow_natCast, ← two_zpow_add]
    congr 1
    omega
  have rounded := roundEven_mono (a := x / 2 ^ grid x) (b := ((2 ^ d : ℤ) : ℚ)) (by
    rw [div_le_iff₀ (two_zpow_pos _), Int.cast_pow, Int.cast_ofNat, ← power_eq']
    exact le)
  rw [roundEven_intCast] at rounded
  rw [gradual, power_eq']
  exact mul_le_mul_of_nonneg_right (by exact_mod_cast rounded) (two_zpow_pos _).le

/-- Rounding is off by no more than half of the last digit on the grid. -/
theorem gradual_error (x : ℚ) : |gradual x - x| ≤ 2 ^ grid x / 2 := by
  have unit_pos := two_zpow_pos (grid x)
  have scaled : gradual x - x = (roundEven (x / 2 ^ grid x) - x / 2 ^ grid x) * 2 ^ grid x := by
    rw [sub_mul, div_mul_cancel₀ _ unit_pos.ne', gradual]
  have half := mul_le_mul_of_nonneg_right (abs_roundEven_sub_le (x / 2 ^ grid x)) unit_pos.le
  rw [scaled, abs_mul, abs_of_pos unit_pos]
  linarith

/-! ## The form of a float -/

/-- A mantissa has at most 53 digits, and fewer only at the least exponent. -/
structure Canonical (m : Nat) (e : ℤ) : Prop where
  lt : m < 2 ^ 53
  least : -1074 ≤ e
  full : 2 ^ 52 ≤ m ∨ e = -1074

theorem two_zpow_log2_bounds {m : Nat} (pos : 0 < m) (e : ℤ) :
    (2 : ℚ) ^ (m.log2 + e) ≤ m * 2 ^ e ∧ (m : ℚ) * 2 ^ e < 2 ^ (m.log2 + 1 + e) := by
  have low : (2 : ℚ) ^ (m.log2 : ℤ) ≤ m := by exact_mod_cast Nat.log2_self_le pos.ne'
  have high : (m : ℚ) < 2 ^ ((m.log2 : ℤ) + 1) := by exact_mod_cast Nat.lt_log2_self (n := m)
  rw [two_zpow_add, two_zpow_add _ e]
  exact ⟨mul_le_mul_of_nonneg_right low (two_zpow_pos e).le, mul_lt_mul_of_pos_right high (two_zpow_pos e)⟩

theorem exponent_mul_two_zpow {m : Nat} (pos : 0 < m) (e : ℤ) : exponent (m * 2 ^ e) = m.log2 + e - 52 := by
  obtain ⟨low, high⟩ := two_zpow_log2_bounds pos e
  apply exponent_of_bounds
  · rw [show 52 + ((m.log2 : ℤ) + e - 52) = m.log2 + e by omega]
    exact low
  · rw [show 53 + ((m.log2 : ℤ) + e - 52) = m.log2 + 1 + e by omega]
    exact high

section Canonical

variable {m m' : Nat} {e e' : ℤ}

theorem Canonical.max_log2_add (positive : 0 < m) (canonical : Canonical m e) :
    max (m.log2 + e - 52) (-1074) = e := by
  have least := canonical.least
  rcases canonical.full with full | tiny
  · have log : m.log2 = 52 := (Nat.log2_eq_iff positive.ne').mpr ⟨full, canonical.lt⟩
    omega
  · have few : m.log2 < 53 := (Nat.log2_lt positive.ne').mpr canonical.lt
    omega

theorem Canonical.grid_eq (positive : 0 < m) (canonical : Canonical m e) : grid (m * 2 ^ e) = e := by
  rw [grid, exponent_mul_two_zpow positive]
  exact canonical.max_log2_add positive

/-- The mantissa and the exponent of a float are determined by its number. -/
theorem Canonical.unique (positive : 0 < m) (positive' : 0 < m') (canonical : Canonical m e)
    (canonical' : Canonical m' e') (same : (m : ℚ) * 2 ^ e = m' * 2 ^ e') : m = m' ∧ e = e' := by
  have exponents : e = e' := by
    calc e = grid (m * 2 ^ e) := (canonical.grid_eq positive).symm
      _ = grid (m' * 2 ^ e') := congrArg grid same
      _ = e' := canonical'.grid_eq positive'
  subst exponents
  exact ⟨by exact_mod_cast mul_right_cancel₀ (two_zpow_pos e).ne' same, rfl⟩

end Canonical

end ClusterCost.Binary64
