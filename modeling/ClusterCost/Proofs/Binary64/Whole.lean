import ClusterCost.Decimal.Binary
import ClusterCost.Proofs.Binary64.Operations

/-!
# Floats next to whole numbers

The bits of a float that denotes a number are taken apart into the exact number (`Denotes.exact`), so the floor and the
ceiling of the float are those of the number, and the float is below zero exactly if the number is. An infinity has
no exact value. A ceiling that is not too great is a float again (`Denotes.ceil`), since floats with digits after the
point are small.
-/
namespace ClusterCost.Binary64

open Float.Model
open Float.Model.UnpackedFloat

/-- The bits of a float are its sign, its exponent with the bias, and the mantissa without the leading digit. -/
theorem toNat_packComponents (s : Sign) {biased m : Nat} (bounded : biased < 2 ^ 11) :
    (packComponents Format.binary64 s (BitVec.ofNat 11 biased) (BitVec.ofNat 52 m)).toNat =
      s.toBitVec.toNat * 2 ^ 63 + biased * 2 ^ 52 + m % 2 ^ 52 := by
  have sign_lt := s.toBitVec.isLt
  have power : (BitVec.ofNat 11 biased).toNat = biased := by
    rw [BitVec.toNat_ofNat]
    omega
  have rest : (BitVec.ofNat 52 m).toNat = m % 2 ^ 52 := BitVec.toNat_ofNat _ _
  have upper : (s.toBitVec ++ BitVec.ofNat 11 biased).toNat = s.toBitVec.toNat * 2 ^ 11 + biased := by
    rw [BitVec.toNat_append, ← Nat.shiftLeft_add_eq_or_of_lt (BitVec.isLt _), power, Nat.shiftLeft_eq]
  change (s.toBitVec ++ BitVec.ofNat 11 biased ++ BitVec.ofNat 52 m).toNat = _
  rw [BitVec.toNat_append, ← Nat.shiftLeft_add_eq_or_of_lt (BitVec.isLt _), upper, rest, Nat.shiftLeft_eq]
  ring

/-! ## The exact number of a float -/

/-- A mantissa in normal form and its exponent, put together again as whole numbers. -/
theorem signed_div_divisor (negative : Bool) (m : Nat) (e : ℤ) :
    let b : Decimal.Binary := ⟨negative, m, e⟩
    (b.signed / b.divisor : ℚ) = (if negative then -1 else 1) * (m * 2 ^ e) := by
  intro b
  have power : (2 : ℚ) ^ e = 2 ^ e.toNat / 2 ^ (-e).toNat := by
    rw [← zpow_natCast, ← zpow_natCast, ← zpow_sub₀ (by norm_num)]
    congr 1
    omega
  have numerator_eq : (b.numerator : ℚ) = m * 2 ^ e.toNat := by
    change ((m * 2 ^ e.toNat : Nat) : ℚ) = m * 2 ^ e.toNat
    push_cast
    rfl
  have divisor_eq : (b.divisor : ℚ) = 2 ^ (-e).toNat := by
    change ((2 ^ (-e).toNat : Nat) : ℚ) = 2 ^ (-e).toNat
    push_cast
    rfl
  unfold Decimal.Binary.signed
  cases negative with
  | false =>
    rw [if_neg Bool.false_ne_true, if_neg Bool.false_ne_true, Int.cast_natCast, numerator_eq, divisor_eq, power]
    ring
  | true =>
    rw [if_pos rfl, if_pos rfl, Int.cast_neg, Int.cast_natCast, numerator_eq, divisor_eq, power]
    ring

/-- A sign as it is written into the bits. -/
def isNegative : Sign → Bool
  | .negative => true
  | .positive => false

/-- Sign, exponent and mantissa do not overlap, so division and remainder take the bits apart again. -/
theorem ofFloat?_of_bits {x : Float} {negative : Bool} {biased low : Nat}
    (bits_eq : x.toBits.toNat = negative.toNat * 2 ^ 63 + biased * 2 ^ 52 + low) (finite : biased < 2047)
    (few : low < 2 ^ 52) : Decimal.Binary.ofFloat? x =
      some (if biased = 0 then ⟨negative, low, -1074⟩ else ⟨negative, 2 ^ 52 + low, (biased : ℤ) + -1074 - 1⟩) := by
  have power52 : Nat.pow 2 52 = 2 ^ 52 := rfl
  have power63 : Nat.pow 2 63 = 2 ^ 63 := rfl
  have power11 : Nat.pow 2 11 = 2 ^ 11 := rfl
  have bit_le := negative.toNat_le
  have power_eq : (negative.toNat * 2 ^ 63 + biased * 2 ^ 52 + low) / 2 ^ 52 % 2 ^ 11 = biased := by omega
  have low_eq : (negative.toNat * 2 ^ 63 + biased * 2 ^ 52 + low) % 2 ^ 52 = low := by omega
  have negative_eq : decide (2 ^ 63 ≤ negative.toNat * 2 ^ 63 + biased * 2 ^ 52 + low) = negative := by
    cases negative with
    | false =>
      rw [Bool.toNat_false]
      exact decide_eq_false (by omega)
    | true =>
      rw [Bool.toNat_true]
      exact decide_eq_true (by omega)
  have not_huge : ¬biased = 2047 := by omega
  unfold Decimal.Binary.ofFloat? Decimal.Binary.minNormal Decimal.Binary.minExponent
  simp only [bits_eq, power52, power63, power11, power_eq, low_eq, negative_eq, if_neg not_huge]
  split <;> rfl

theorem toNat_toBitVec (s : Sign) : s.toBitVec.toNat = (isNegative s).toNat := by
  cases s with
  | negative | positive => rfl

theorem ofFloat?_finite (s : Sign) {m : Nat} {e : ℤ} (positive : 0 < m) (canonical : Canonical m e)
    (greatest : e ≤ 971) :
    Decimal.Binary.ofFloat? (.ofModel (.pack (.finite s m e positive))) = some ⟨isNegative s, m, e⟩ := by
  have least := canonical.least
  have high := canonical.lt
  rcases le_or_gt (2 ^ 52) m with full | short
  · have bits_eq : (Float.ofModel (.pack (.finite s m e positive))).toBits.toNat =
        (isNegative s).toNat * 2 ^ 63 + (e + 1023 + 52).toNat * 2 ^ 52 + m % 2 ^ 52 := by
      change (UnpackedFloat.pack Format.binary64 (.finite s m e positive)).toNat = _
      rw [pack_finite s positive full high greatest, toNat_packComponents s (by omega), toNat_toBitVec]
    have mantissa_eq : 2 ^ 52 + m % 2 ^ 52 = m := by omega
    have exponent_eq : ((e + 1023 + 52).toNat : ℤ) + -1074 - 1 = e := by omega
    rw [ofFloat?_of_bits bits_eq (by omega) (by omega), if_neg (by omega), mantissa_eq, exponent_eq]
  · obtain rfl := canonical.full.resolve_left (not_le.mpr short)
    have bits_eq : (Float.ofModel (.pack (.finite s m (-1074) positive))).toBits.toNat =
        (isNegative s).toNat * 2 ^ 63 + 0 * 2 ^ 52 + m % 2 ^ 52 := by
      change (UnpackedFloat.pack Format.binary64 (.finite s m (-1074) positive)).toNat = _
      rw [pack_short s positive short, toNat_packComponents s (show 0 < 2 ^ 11 by decide), toNat_toBitVec]
    rw [ofFloat?_of_bits bits_eq (by decide) (by omega), if_pos rfl, Nat.mod_eq_of_lt short]

/-- The bits of a float that denotes a number are those of the number. -/
theorem Denotes.exact {x : Float} {q : ℚ} (denotes : Denotes x q) :
    ∃ b, Decimal.Binary.ofFloat? x = some b ∧ (b.signed / b.divisor : ℚ) = q := by
  obtain ⟨u, holds, rfl⟩ := denotes
  cases holds with
  | zero =>
    have read : Decimal.Binary.ofFloat? (.ofModel (.pack (.zero .positive))) = some ⟨false, 0, -1074⟩ := by
      decide +kernel
    have value := signed_div_divisor false 0 (-1074)
    rw [Nat.cast_zero, MulZeroClass.zero_mul, mul_zero] at value
    exact ⟨_, read, value⟩
  | finite s m e positive canonical greatest =>
    refine ⟨_, ofFloat?_finite s positive canonical greatest, ?_⟩
    rw [signed_div_divisor]
    cases s with
    | negative => exact neg_one_mul _
    | positive => exact one_mul _

/-- An infinity has no exact number. -/
theorem IsInfinite.ofFloat?_eq_none {x : Float} (infinite : IsInfinite x) : Decimal.Binary.ofFloat? x = none := by
  obtain ⟨s, rfl⟩ := infinite
  cases s with
  | negative | positive => decide +kernel

/-! ## Whole numbers next to it -/

theorem floor_of_fraction {b : Decimal.Binary} {q : ℚ} (value : (b.signed / b.divisor : ℚ) = q) : b.floor = ⌊q⌋ := by
  have divisor_pos : (0 : ℚ) < b.divisor := Nat.cast_pos.mpr b.divisor_pos
  refine eq_of_forall_le_iff fun n => ?_
  rw [b.le_floor_iff, Int.le_floor, ← value, le_div_iff₀ divisor_pos]
  exact_mod_cast Iff.rfl

theorem ceil_of_fraction {b : Decimal.Binary} {q : ℚ} (value : (b.signed / b.divisor : ℚ) = q) : b.ceil = ⌈q⌉ := by
  have divisor_pos : (0 : ℚ) < b.divisor := Nat.cast_pos.mpr b.divisor_pos
  refine eq_of_forall_ge_iff fun n => ?_
  rw [b.ceil_le_iff, Int.ceil_le, ← value, div_le_iff₀ divisor_pos]
  exact_mod_cast Iff.rfl

/-- A float is compared with zero as its number is. -/
theorem Holds.compare_zero {u : UnpackedFloat} {q : ℚ} (holds : Holds u q) :
    UnpackedFloat.compare u (.zero .positive) = some (compare q 0) := by
  cases holds with
  | zero =>
    rw [compare_eq_iff_eq.mpr rfl]
    rfl
  | finite s m e positive =>
    have magnitude_pos : (0 : ℚ) < m * 2 ^ e := mul_pos (Nat.cast_pos.mpr positive) (two_zpow_pos e)
    cases s with
    | negative =>
      have below : compare (signed .negative (m * 2 ^ e)) 0 = .lt :=
        compare_lt_iff_lt.mpr (neg_lt_zero.mpr magnitude_pos)
      rw [below]
      rfl
    | positive =>
      have above : compare (signed .positive (m * 2 ^ e)) 0 = .gt := compare_gt_iff_gt.mpr magnitude_pos
      rw [above]
      rfl

theorem Denotes.lt_zero_iff {x : Float} {q : ℚ} (denotes : Denotes x q) : x < 0.0 ↔ q < 0 := by
  have lt_iff : x < 0.0 ↔ (UnpackedFloat.compare x.toModel.unpack (.zero .positive) == some .lt) = true := by
    change decide (UnpackedFloat.lt x.toModel.unpack (.zero .positive) = true) = true ↔ _
    exact decide_eq_true_iff
  rw [lt_iff, denotes.holds_unpack.compare_zero, beq_iff_eq, Option.some.injEq, compare_lt_iff_lt]

theorem Denotes.beq_zero_iff {x : Float} {q : ℚ} (denotes : Denotes x q) : (x == 0.0) = true ↔ q = 0 := by
  have beq_eq : (x == 0.0) = (UnpackedFloat.compare x.toModel.unpack (.zero .positive) == some .eq) := rfl
  rw [beq_eq, denotes.holds_unpack.compare_zero, beq_iff_eq, Option.some.injEq, compare_eq_iff_eq]

/-- A float that denotes a number other than zero is at least the least one. -/
theorem Denotes.least_le {x : Float} {q : ℚ} (denotes : Denotes x q) (nonzero : q ≠ 0) : 2 ^ (-1074 : ℤ) ≤ |q| := by
  obtain ⟨u, holds, -⟩ := denotes
  cases holds with
  | zero => exact absurd rfl nonzero
  | finite s m e positive canonical =>
    have one_le : (1 : ℚ) ≤ m := by exact_mod_cast positive
    rw [abs_signed, abs_of_pos (mul_pos (Nat.cast_pos.mpr positive) (two_zpow_pos e))]
    calc (2 : ℚ) ^ (-1074 : ℤ) ≤ 2 ^ e := zpow_le_zpow_right₀ (by norm_num) canonical.least
      _ ≤ m * 2 ^ e := le_mul_of_one_le_left (two_zpow_pos e).le one_le

theorem Denotes.isFinite {x : Float} {q : ℚ} (denotes : Denotes x q) : x.isFinite = true := by
  have held := denotes.holds_unpack
  change x.toModel.unpack.isFinite = true
  generalize x.toModel.unpack = u at held
  cases held with
  | zero | finite => rfl

theorem IsInfinite.isFinite {x : Float} (infinite : IsInfinite x) : x.isFinite = false := by
  obtain ⟨s, rfl⟩ := infinite
  cases s with
  | negative | positive => decide +kernel

theorem toNat_unpackExponent (b : BitVec 64) :
    (@unpackExponent Format.binary64 b).toNat = b.toNat / 2 ^ 52 % 2 ^ 11 := by
  change (b.extractLsb 62 52).toNat = _
  rw [BitVec.extractLsb_toNat, Nat.shiftRight_eq_div_pow]

theorem isFinite_unpack_iff (b : BitVec 64) :
    (UnpackedFloat.unpack Format.binary64 b).isFinite = true ↔ b.toNat / 2 ^ 52 % 2 ^ 11 ≠ 2047 := by
  have ones_iff : @unpackExponent Format.binary64 b = -1#11 ↔ b.toNat / 2 ^ 52 % 2 ^ 11 = 2047 := by
    rw [← toNat_unpackExponent, ← BitVec.toNat_inj]
    rfl
  by_cases ones : @unpackExponent Format.binary64 b = -1#11
  · refine iff_of_false ?_ (not_not.mpr (ones_iff.mp ones))
    unfold UnpackedFloat.unpack
    dsimp only
    rw [if_pos ones]
    split <;> exact Bool.false_ne_true
  · refine iff_of_true ?_ (mt ones_iff.mpr ones)
    by_cases tiny : @unpackExponent Format.binary64 b = 0#11
    · by_cases nothing : @unpackMantissa Format.binary64 b = 0#52
      · have zero_eq : UnpackedFloat.unpack Format.binary64 b = .zero (Sign.ofBitVec (@unpackSign Format.binary64 b)) := by
          unfold UnpackedFloat.unpack
          dsimp only
          rw [if_neg ones, if_pos tiny]
          exact dif_pos nothing
        rw [zero_eq]
        rfl
      · have positive : 0 < (@unpackMantissa Format.binary64 b).toNat :=
          Nat.pos_of_ne_zero fun zero => nothing (BitVec.toNat_inj.mp zero)
        rw [unpack_short tiny nothing positive]
        rfl
    · have positive : 0 < (1#1 ++ @unpackMantissa Format.binary64 b).toNat := by
        rw [BitVec.toNat_append]
        exact Nat.lt_of_lt_of_le (show 0 < (1#1).toNat <<< 52 by decide) Nat.left_le_or
      rw [unpack_normal ones tiny positive]
      rfl

/-- Exactly the finite floats have an exact number. -/
theorem isFinite_iff {x : Float} : x.isFinite = true ↔ ∃ b, Decimal.Binary.ofFloat? x = some b := by
  have finite_iff : x.isFinite = true ↔ x.toBits.toNat / 2 ^ 52 % 2 ^ 11 ≠ 2047 := isFinite_unpack_iff x.toBits.toBitVec
  have power52 : Nat.pow 2 52 = 2 ^ 52 := rfl
  have power11 : Nat.pow 2 11 = 2 ^ 11 := rfl
  rw [finite_iff]
  unfold Decimal.Binary.ofFloat?
  simp only [power52, power11]
  split
  · next ones => exact iff_of_false (not_not.mpr ones) nofun
  · next other =>
    refine iff_of_true other ?_
    split
    · exact ⟨_, rfl⟩
    · exact ⟨_, rfl⟩

/-! ## The ceiling as a float -/

/-- A float from the fifty-second power of two on denotes a whole number. -/
theorem Denotes.exists_intCast {x : Float} {q : ℚ} (denotes : Denotes x q) (large : 2 ^ 52 ≤ |q|) :
    ∃ n : ℤ, q = n := by
  obtain ⟨u, holds, -⟩ := denotes
  cases holds with
  | zero => norm_num at large
  | finite s m e positive canonical =>
    have below : (m : ℚ) < 2 ^ 53 := by exact_mod_cast canonical.lt
    rw [abs_signed, abs_of_pos (mul_pos (Nat.cast_pos.mpr positive) (two_zpow_pos e))] at large
    have whole : 0 ≤ e := by
      by_contra negative
      have half : (2 : ℚ) ^ e ≤ 2 ^ (-1 : ℤ) := zpow_le_zpow_right₀ (by norm_num) (by omega)
      have small := mul_lt_mul_of_pos_right below (two_zpow_pos e)
      norm_num at half small large
      linarith
    obtain ⟨k, rfl⟩ := Int.eq_ofNat_of_zero_le whole
    rw [zpow_natCast]
    cases s with
    | negative => exact ⟨-(m * 2 ^ k), by push_cast; rfl⟩
    | positive => exact ⟨m * 2 ^ k, by push_cast; rfl⟩

/-- A float denotes a number that floats have room for. -/
theorem Denotes.gradual_eq {x : Float} {q : ℚ} (denotes : Denotes x q) : gradual q = q := by
  obtain ⟨u, holds, -⟩ := denotes
  cases holds with
  | zero => exact gradual_zero
  | finite s m e positive canonical =>
    have mantissa := roundEven_intCast m
    rw [Int.cast_natCast] at mantissa
    rw [gradual_signed, gradual, canonical.grid_eq positive, mul_div_cancel_right₀ _ (two_zpow_pos e).ne', mantissa,
      Int.cast_natCast]

/-- The least whole number not below a float is a float again, if it is not too great. -/
theorem Denotes.ceil {x : Float} {q : ℚ} (denotes : Denotes x q) (nonneg : 0 ≤ q) (small : q ≤ 2 ^ 64) :
    Denotes (Decimal.ceil x) ⌈q⌉ := by
  rcases nonneg.eq_or_lt with rfl | pos
  · rw [denotes.unique denotes_zero, Int.ceil_zero, Int.cast_zero]
    have kept : Decimal.ceil (Float.ofNat 0) = Float.ofNat 0 := by decide +kernel
    rw [kept]
    exact denotes_zero
  · obtain ⟨b, read, value⟩ := denotes.exact
    have positive : b.negative = false := by
      by_contra negative
      have signed_nonpos : b.signed ≤ 0 := by
        rw [Decimal.Binary.signed, if_pos (eq_true_of_ne_false negative)]
        omega
      have quotient_nonpos : (b.signed / b.divisor : ℚ) ≤ 0 :=
        div_nonpos_of_nonpos_of_nonneg (Int.cast_nonpos.mpr signed_nonpos) (Nat.cast_nonneg _)
      linarith
    have ceil_pos : 0 < ⌈q⌉ := Int.ceil_pos.mpr pos
    have ceil_small : ⌈q⌉ ≤ 2 ^ 64 := Int.ceil_le.mpr (by exact_mod_cast small)
    obtain ⟨n, ceil_eq⟩ := Int.eq_ofNat_of_zero_le ceil_pos.le
    have rounded : nearest (n : ℚ) = n := by
      rcases lt_or_ge q (2 ^ 52) with short | long
      · have short' : ⌈q⌉ ≤ 2 ^ 52 := Int.ceil_le.mpr (by exact_mod_cast short.le)
        exact nearest_natCast (by omega)
      · obtain ⟨k, rfl⟩ := denotes.exists_intCast (by rwa [abs_of_pos pos])
        rw [Int.ceil_intCast] at ceil_eq
        have least : (2 : ℚ) ^ (-1022 : ℤ) ≤ |(k : ℚ)| := by
          rw [abs_of_pos pos]
          exact (zpow_le_one_of_nonpos₀ (by norm_num) (by norm_num)).trans (by linarith)
        have same := denotes.gradual_eq
        rw [gradual_of_least least] at same
        rw [ceil_eq] at same
        exact same
    have magnitude := denotes_ofNat (.inr (inRange_natCast (n := n) (by omega) (by omega)))
    rw [rounded] at magnitude
    unfold Decimal.ceil
    rw [read]
    dsimp only
    rw [positive, if_neg Bool.false_ne_true, ceil_of_fraction value, ceil_eq]
    exact magnitude

end ClusterCost.Binary64
