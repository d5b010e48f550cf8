import ClusterCost.Proofs.Binary64.Gradual

/-!
# Rounding of unpacked floats

An operation on unpacked floats hands a mantissa, an exponent and an accuracy to `roundWithAccuracy`. Where these
describe a positive number, the result is the nearest float, which may be zero: `roundWithAccuracy_eq` gives it in
canonical form. The invariant is `Describes`, which a shift of the mantissa keeps.
-/
namespace ClusterCost.Binary64

open Float.Model
open Float.Model.UnpackedFloat

/-! ## What a mantissa and an accuracy say of a number -/

/-- A mantissa and an accuracy describe a number: its floor, and the side of the half on which it is. -/
def Describes (m : Nat) (y : ℚ) : Accuracy → Prop
  | .exact => y = m
  | .inexact side => m < y ∧ y < m + 1 ∧ compare y (m + 1 / 2) = side

section Describes

variable {m : Nat} {y : ℚ} {a : Accuracy}

theorem Describes.le (described : Describes m y a) : m ≤ y := by
  cases a with
  | exact => exact (Eq.symm described).le
  | inexact side => exact described.1.le

theorem Describes.lt (described : Describes m y a) : y < m + 1 := by
  cases a with
  | exact =>
    rw [show y = m from described]
    linarith
  | inexact side => exact described.2.1

theorem Describes.floor_eq (described : Describes m y a) : ⌊y⌋ = m :=
  Int.floor_eq_iff.mpr ⟨described.le, described.lt⟩

/-- The accuracy is what is needed to round. -/
theorem Describes.roundEven_eq (described : Describes m y a) : roundEven y = a.roundToNearestEven m := by
  have fract_eq : Int.fract y = y - m := by
    rw [Int.fract, described.floor_eq]
    rfl
  cases a with
  | exact =>
    rw [show y = m from described]
    exact roundEven_intCast m
  | inexact side =>
    have same_side : compare (Int.fract y) (1 / 2) = side := by
      rw [← described.2.2, fract_eq]
      exact compare_congr sub_lt_iff_lt_add' lt_sub_iff_add_lt'
    unfold roundEven
    rw [same_side, described.floor_eq]
    cases side with
    | lt => rfl
    | eq =>
      simp only [Accuracy.roundToNearestEven]
      push_cast
      rfl
    | gt =>
      simp only [Accuracy.roundToNearestEven]
      push_cast
      rfl

end Describes

/-- An extended mantissa describes a number with the accuracy of its two residual bits. -/
def ExtendedDescribes (em : ExtendedMantissa) (y : ℚ) : Prop :=
  Describes em.mantissa y em.accuracy

theorem extendedDescribes_of_describes {m : Nat} {y : ℚ} {a : Accuracy} (described : Describes m y a) :
    ExtendedDescribes (.ofMantissaAndAccuracy m a) y := by
  cases a with
  | exact => exact described
  | inexact side =>
    cases side with
    | lt | eq | gt => exact described

theorem ExtendedDescribes.eq_of_exact {m : Nat} {half rest : Bool} {y : ℚ}
    (described : ExtendedDescribes ⟨m, half, rest⟩ y) (exact_bits : (half || rest) = false) : y = m := by
  obtain ⟨rfl, rfl⟩ := Bool.or_eq_false_iff.mp exact_bits
  exact described

theorem ExtendedDescribes.lt_of_inexact {m : Nat} {half rest : Bool} {y : ℚ}
    (described : ExtendedDescribes ⟨m, half, rest⟩ y) (inexact_bits : (half || rest) = true) : m < y ∧ y < m + 1 := by
  cases half with
  | false =>
    cases rest with
    | false => cases inexact_bits
    | true => exact ⟨described.1, described.2.1⟩
  | true =>
    cases rest with
    | false | true => exact ⟨described.1, described.2.1⟩

/-- Shifting out the last digit describes the half. What is left of the residual bits is only whether both were zero. -/
theorem ExtendedDescribes.shiftRightOne {em : ExtendedMantissa} {y : ℚ} (described : ExtendedDescribes em y) :
    ExtendedDescribes em.shiftRightOne (y / 2) := by
  obtain ⟨m, half, rest⟩ := em
  have halves : ((m / 2 : Nat) : ℚ) * 2 + (m % 2 : Nat) = m := by exact_mod_cast Nat.div_add_mod' m 2
  unfold ExtendedMantissa.shiftRightOne ExtendedDescribes
  dsimp only
  rcases Nat.mod_two_eq_zero_or_one m with even | odd
  · rw [even, Nat.cast_zero] at halves
    rw [even]
    cases inexact_bits : half || rest with
    | false =>
      have same := described.eq_of_exact inexact_bits
      change y / 2 = (m / 2 : Nat)
      linarith
    | true =>
      obtain ⟨above, below⟩ := described.lt_of_inexact inexact_bits
      refine ⟨by linarith, by linarith, ?_⟩
      rw [compare_lt_iff_lt]
      linarith
  · rw [odd, Nat.cast_one] at halves
    rw [odd]
    cases inexact_bits : half || rest with
    | false =>
      have same := described.eq_of_exact inexact_bits
      refine ⟨by linarith, by linarith, ?_⟩
      rw [compare_eq_iff_eq]
      linarith
    | true =>
      obtain ⟨above, below⟩ := described.lt_of_inexact inexact_bits
      refine ⟨by linarith, by linarith, ?_⟩
      rw [compare_gt_iff_gt]
      linarith

theorem ExtendedDescribes.shiftRight {em : ExtendedMantissa} {y : ℚ} (described : ExtendedDescribes em y) (n : Nat) :
    ExtendedDescribes (em >>> n) (y / 2 ^ n) := by
  change ExtendedDescribes (n.repeat ExtendedMantissa.shiftRightOne em) (y / 2 ^ n)
  induction n with
  | zero =>
    rw [pow_zero, div_one]
    exact described
  | succ n ih =>
    rw [pow_succ, ← div_div]
    exact ih.shiftRightOne

/-! ## The rounded float -/

/-- The exponent that the model aims at leaves 53 digits to the mantissa, down to the least exponent. -/
theorem targetExponent_eq_max (total : ℤ) : Format.binary64.targetExponent total = max (total - 53) (-1074) := by
  have least : Format.binary64.minExponent = -1074 := by decide
  have bits : Format.binary64.mantissaBits = 53 := by decide
  unfold Format.targetExponent
  rw [least, bits]
  omega

/-- The exponent that the model aims at is the grid of the number, if the mantissa has digits enough. -/
theorem targetExponent_eq {m : Nat} {e : ℤ} {x : ℚ} (pos : 0 < x) (low : m ≤ x / 2 ^ e) (high : x / 2 ^ e < m + 1)
    (digits : e ≤ grid x) : Format.binary64.targetExponent (totalExponent m e) = grid x := by
  rw [targetExponent_eq_max, totalExponent]
  rcases Nat.eq_zero_or_pos m with rfl | mantissa_pos
  · -- A mantissa of zero says that the number is below the grid, which only the least exponent is.
    have least : grid x = -1074 := by
      by_contra normal
      have large := (grid_bounds pos).2.resolve_right normal
      have shrunk : x / 2 ^ grid x ≤ x / 2 ^ e :=
        div_le_div_of_nonneg_left pos.le (two_zpow_pos e) (zpow_le_zpow_right₀ (by norm_num) digits)
      norm_num at high large
      linarith
    rw [Nat.log2_zero]
    omega
  · have below : (2 : ℚ) ^ (m.log2 : ℤ) ≤ m := by exact_mod_cast Nat.log2_self_le mantissa_pos.ne'
    have above : (m : ℚ) + 1 ≤ 2 ^ ((m.log2 : ℤ) + 1) := by exact_mod_cast Nat.lt_log2_self (n := m)
    have exponent_eq : exponent x = m.log2 + e - 52 := by
      apply exponent_of_bounds
      · rw [show 52 + ((m.log2 : ℤ) + e - 52) = m.log2 + e by omega, two_zpow_add, ← le_div_iff₀ (two_zpow_pos e)]
        exact below.trans low
      · rw [show 53 + ((m.log2 : ℤ) + e - 52) = m.log2 + 1 + e by omega, two_zpow_add, ← div_lt_iff₀ (two_zpow_pos e)]
        exact high.trans_le above
    rw [grid, exponent_eq]
    omega

theorem shiftToTargetExponent_self {m : Nat} {e : ℤ} (target : Format.binary64.targetExponent (totalExponent m e) = e) :
    shiftToTargetExponent Format.binary64 m e .exact = (⟨m, false, false⟩, e) := by
  unfold shiftToTargetExponent shiftToExponent
  simp [target, ExtendedMantissa.ofMantissaAndAccuracy, HShiftRight.hShiftRight, Nat.repeat]

/-- A mantissa that rounding carried to the next power of two is shifted once more. -/
theorem shiftToTargetExponent_carry {e : ℤ} (normal : -1074 ≤ e) :
    shiftToTargetExponent Format.binary64 (2 ^ 53) e .exact = (⟨2 ^ 52, false, false⟩, e + 1) := by
  have target : Format.binary64.targetExponent (totalExponent (2 ^ 53) e) = e + 1 := by
    rw [targetExponent_eq_max, totalExponent, Nat.log2_two_pow]
    omega
  unfold shiftToTargetExponent shiftToExponent
  rw [target]
  simp [ExtendedMantissa.ofMantissaAndAccuracy, HShiftRight.hShiftRight, Nat.repeat, ExtendedMantissa.shiftRightOne]

/-- Rounding is two shifts: the first one drops the digits that are too many, the second one those of a carry. -/
theorem roundWithAccuracy_of_shifts {m : Nat} {e : ℤ} {a : Accuracy} {first second : ExtendedMantissa × ℤ} (s : Sign)
    (drop : shiftToTargetExponent Format.binary64 m e a = first)
    (carry : shiftToTargetExponent Format.binary64 first.1.roundedMantissa first.2 .exact = second)
    (positive : 0 < second.1.mantissa) :
    roundWithAccuracy Format.binary64 s m e a = .finite s second.1.mantissa second.2 positive := by
  subst drop
  subst carry
  exact dif_neg positive.ne'

theorem roundWithAccuracy_of_nothing {m : Nat} {e : ℤ} {a : Accuracy} {first : ExtendedMantissa × ℤ} (s : Sign)
    (drop : shiftToTargetExponent Format.binary64 m e a = first) (nothing : first.1.roundedMantissa = 0)
    (least : first.2 = -1074) : roundWithAccuracy Format.binary64 s m e a = .zero s := by
  have second : shiftToTargetExponent Format.binary64 0 (-1074) .exact = (⟨0, false, false⟩, -1074) := by
    apply shiftToTargetExponent_self
    decide
  subst drop
  unfold roundWithAccuracy
  dsimp only
  rw [nothing, least, second]
  rfl

/-- Rounding gives the nearest float in canonical form, or zero if nothing is left. -/
theorem roundWithAccuracy_eq {m : Nat} {e : ℤ} {a : Accuracy} {x : ℚ} (s : Sign) (pos : 0 < x)
    (described : Describes m (x / 2 ^ e) a) (digits : e ≤ grid x) :
    (roundWithAccuracy Format.binary64 s m e a = .zero s ∧ gradual x = 0) ∨
      ∃ M E positive, roundWithAccuracy Format.binary64 s m e a = .finite s M E positive ∧ Canonical M E ∧
        (M : ℚ) * 2 ^ E = gradual x := by
  have target := targetExponent_eq pos described.le described.lt digits
  let k := (grid x - e).toNat
  have k_eq : e + (k : ℤ) = grid x := by omega
  let em := ExtendedMantissa.ofMantissaAndAccuracy m a >>> k
  let r := em.roundedMantissa
  have shifted : ExtendedDescribes em (x / 2 ^ grid x) := by
    have all := (extendedDescribes_of_describes described).shiftRight k
    rw [div_div, ← zpow_natCast, ← two_zpow_add, k_eq] at all
    exact all
  have rounded : roundEven (x / 2 ^ grid x) = r := shifted.roundEven_eq
  have first : shiftToTargetExponent Format.binary64 m e a = (em, grid x) := by
    unfold shiftToTargetExponent shiftToExponent
    rw [target]
    exact Prod.ext rfl k_eq
  have result {M : Nat} {E : ℤ} (positive : 0 < M)
      (second : shiftToTargetExponent Format.binary64 em.roundedMantissa (grid x) .exact =
        (⟨M, false, false⟩, E)) : roundWithAccuracy Format.binary64 s m e a = .finite s M E positive :=
    roundWithAccuracy_of_shifts s first second positive
  have gradual_eq : gradual x = r * 2 ^ grid x := by
    rw [gradual, rounded, Int.cast_natCast]
  have least : -1074 ≤ grid x := le_max_right _ _
  obtain ⟨-, high, low⟩ := roundEven_grid_bounds pos
  rw [rounded] at high low
  have low_nat : 2 ^ 52 ≤ r ∨ grid x = -1074 := low.imp_left fun full => by exact_mod_cast full
  rcases Nat.eq_zero_or_pos r with nothing | positive
  · refine .inl ⟨roundWithAccuracy_of_nothing s first nothing (by dsimp only; omega), ?_⟩
    rw [gradual_eq, nothing, Nat.cast_zero, zero_mul]
  right
  rcases high.lt_or_eq with within | carried
  · have canonical : Canonical r (grid x) := ⟨by exact_mod_cast within, least, low_nat⟩
    have kept : Format.binary64.targetExponent (totalExponent r (grid x)) = grid x := by
      have form := canonical.max_log2_add positive
      rw [targetExponent_eq_max, totalExponent]
      omega
    exact ⟨r, grid x, positive, result positive (shiftToTargetExponent_self kept), canonical, gradual_eq.symm⟩
  · have carried_nat : r = 2 ^ 53 := by exact_mod_cast carried
    have canonical : Canonical (2 ^ 52) (grid x + 1) := ⟨by decide, by omega, .inl (le_refl _)⟩
    refine ⟨2 ^ 52, grid x + 1, by decide, result (by decide) ?_, canonical, ?_⟩
    · rw [show em.roundedMantissa = 2 ^ 53 from carried_nat]
      exact shiftToTargetExponent_carry least
    · rw [gradual_eq, carried_nat, two_zpow_add]
      norm_num
      ring

end ClusterCost.Binary64
