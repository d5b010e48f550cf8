import ClusterCost.Proofs.Binary64.Near
import ClusterCost.Proofs.Binary64.Whole
import ClusterCost.Proofs.Quantity.Grammar
import ClusterCost.Quantity.FromJson

/-!
# Floats as quantities

A float that denotes a number of whole units is taken as a quantity by multiplying it to milli-units, which rounds once
more, and rounding away from zero (`ofFloat?_of_denotes`). What is beyond the range, or beyond all floats after the
multiplication, is no quantity.
-/
namespace ClusterCost.Quantity

open Binary64
open Text (Sign)

theorem ofMilli?_eq_none {n : Int} (outside : ¬(minMilli ≤ n ∧ n ≤ maxMilli)) : ofMilli? n = none :=
  dif_neg outside

theorem awayFromZero_of_nonneg {x : ℚ} (nonneg : 0 ≤ x) : awayFromZero x = ⌈x⌉ :=
  if_neg (not_lt.mpr nonneg)

theorem awayFromZero_neg (x : ℚ) : awayFromZero (-x) = -awayFromZero x := by
  unfold awayFromZero
  rcases lt_trichotomy x 0 with neg | rfl | pos
  · rw [if_neg (by linarith), if_pos neg, Int.ceil_neg]
  · simp
  · rw [if_pos (by linarith), if_neg (by linarith), Int.floor_neg]

theorem awayFromZero_signed (sign : Sign) {v : ℚ} (nonneg : 0 ≤ v) :
    awayFromZero (if sign = .minus then -v else v) = sign.apply ⌈v⌉ := by
  rw [Sign.apply_eq]
  split
  · rw [awayFromZero_neg, awayFromZero_of_nonneg nonneg]
  · exact awayFromZero_of_nonneg nonneg

theorem abs_le_awayFromZero (x : ℚ) : |x| ≤ |(awayFromZero x : ℚ)| := by
  unfold awayFromZero
  split
  · next neg =>
    have floor_le := Int.floor_le x
    rw [abs_of_neg neg, abs_of_neg (by linarith)]
    exact neg_le_neg floor_le
  · next nonneg =>
    have le_ceil := Int.le_ceil x
    rw [abs_of_nonneg (not_lt.mp nonneg), abs_of_nonneg ((not_lt.mp nonneg).trans le_ceil)]
    exact le_ceil

/-- What is beyond the range is no quantity after it is rounded away from zero. -/
theorem ofMilli?_of_large {y : ℚ} (large : 2 ^ (63 : ℤ) < |y|) : ofMilli? (awayFromZero y) = none := by
  have beyond : (2 ^ 63 : ℤ) < |awayFromZero y| := by exact_mod_cast large.trans_le (abs_le_awayFromZero y)
  apply ofMilli?_eq_none
  rintro ⟨low, high⟩
  rw [lt_abs] at beyond
  simp only [minMilli, maxMilli] at low high
  omega

theorem ofMilli?_apply_of_large (sign : Sign) {y : ℚ} (large : 2 ^ (63 : ℤ) < y) :
    ofMilli? (sign.apply ⌈y⌉) = none := by
  have nonneg := (two_zpow_pos 63).le.trans large.le
  rw [← awayFromZero_signed sign nonneg]
  apply ofMilli?_of_large
  split
  · rw [abs_neg, abs_of_nonneg nonneg]
    exact large
  · rw [abs_of_nonneg nonneg]
    exact large

theorem denotes_thousand : Denotes 1000.0 1000 := by
  have thousand_eq : (1000.0 : Float) = Float.ofNat 1000 := by decide +kernel
  have denotes := denotes_ofNat (n := 1000) (.inr (inRange_natCast (by norm_num) (by norm_num)))
  rw [nearest_natCast (by norm_num)] at denotes
  rw [thousand_eq]
  exact denotes

/-- A float is a quantity if its milli-units, rounded as floats are and then away from zero, are in the range. -/
theorem ofFloat?_of_denotes {x : Float} {q : ℚ} (denotes : Denotes x q) (nonzero : q ≠ 0) :
    ofFloat? x = ofMilli? (awayFromZero (gradual (1000 * q))) := by
  have magnitude_eq : |q * 1000| = 1000 * |q| := by
    rw [mul_comm, abs_mul, abs_of_nonneg (by norm_num : (0 : ℚ) ≤ 1000)]
  have least : (2 : ℚ) ^ (-1074 : ℤ) ≤ |q * 1000| := by
    have kept := denotes.least_le nonzero
    have nonneg := abs_nonneg q
    linarith
  have product := denotes.mul_gradual_or_infinite denotes_thousand least
  rw [mul_comm q 1000] at product
  unfold ofFloat?
  dsimp only
  rcases product with product | ⟨large, infinite⟩
  · obtain ⟨b, read, value⟩ := product.exact
    rw [read, Option.bind_some, floor_of_fraction value, ceil_of_fraction value]
    simp only [product.lt_zero_iff, awayFromZero]
  · have normal : gradual (1000 * q) = nearest (1000 * q) :=
      gradual_of_least ((zpow_le_zpow_right₀ (by norm_num) (by norm_num)).trans large.le)
    have rounded := two_zpow_le_nearest large.le
    rw [← abs_nearest] at rounded
    have beyond := (zpow_lt_zpow_right₀ one_lt_two (by norm_num : (63 : ℤ) < 1023)).trans_le rounded
    rw [infinite.ofFloat?_eq_none, normal, ofMilli?_of_large beyond]
    rfl

theorem ofFloat?_zero : ofFloat? (Float.ofNat 0) = some 0 ∧ ofFloat? (-Float.ofNat 0) = some 0 := by
  decide +kernel

theorem toOption_ofNumber_float (x : Float) : (ofNumber (Json.Number.float x)).toOption = ofFloat? x := by
  unfold ofNumber
  dsimp only
  cases ofFloat? x with
  | none => rfl
  | some q => rfl

theorem toOption_ofNumber_integer (n : Int) : (ofNumber (.integer n)).toOption =
    if minMilli ≤ n ∧ n ≤ maxMilli then some (ofUnits n) else ofFloat? (Float.ofInt n) := by
  unfold ofNumber
  dsimp only
  split
  · rfl
  · cases ofFloat? (Float.ofInt n) with
    | none => rfl
    | some q => rfl

/-- Unsigned numbers that are not signed 64-bit numbers are beyond the range as whole units. -/
theorem ofFloat?_ofInt_of_large {n : Int} (large : 2 ^ 63 ≤ n) (small : n ≤ 2 ^ 64) :
    ofFloat? (Float.ofInt n) = none := by
  have large' : (2 : ℚ) ^ (63 : ℤ) ≤ n := by exact_mod_cast large
  have pos : (0 : ℚ) < n := (two_zpow_pos 63).trans_le large'
  have range : InRange |(n : ℚ)| := by
    rw [abs_of_pos pos]
    constructor
    · exact (zpow_le_zpow_right₀ (by norm_num) (by norm_num)).trans large'
    · have small' : (n : ℚ) ≤ 2 ^ (64 : ℤ) := by exact_mod_cast small
      exact small'.trans (zpow_le_zpow_right₀ (by norm_num) (by norm_num))
  have rounded := two_zpow_le_nearest large'
  have thousandfold : (2 : ℚ) ^ (64 : ℤ) ≤ 1000 * nearest n := by
    norm_num at rounded ⊢
    linarith
  have milli := two_zpow_le_nearest thousandfold
  have normal : gradual (1000 * nearest n) = nearest (1000 * nearest n) := by
    apply gradual_of_least
    rw [abs_of_pos ((two_zpow_pos 64).trans_le thousandfold)]
    exact (zpow_le_zpow_right₀ (by norm_num) (by norm_num)).trans thousandfold
  rw [ofFloat?_of_denotes (denotes_ofInt (.inr range)) (nearest_pos pos).ne', normal]
  apply ofMilli?_of_large
  rw [abs_of_pos ((two_zpow_pos 64).trans_le milli)]
  exact (zpow_lt_zpow_right₀ one_lt_two (by norm_num)).trans_le milli

end ClusterCost.Quantity
