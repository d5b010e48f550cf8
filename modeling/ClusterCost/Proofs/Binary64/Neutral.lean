import ClusterCost.Proofs.Binary64.Packing
import ClusterCost.Proofs.Binary64.Rounding
import Mathlib

/-!
# Factors and summands that change nothing

A float times one is the float itself, and so is minus zero plus a float. Both hold of all floats: of infinities and of
not-a-number, of both zeros, and of the numbers near zero whose mantissa has lost digits.

For the numbers this rests on the mantissas that unpacking gives (`canonical_of_unpack`). The product with one has the
same digits and zeros behind them, and rounding drops exactly these zeros (`roundWithAccuracy_scaled`).
-/
namespace ClusterCost.Binary64

open Float.Model
open Float.Model.UnpackedFloat

/-- What is unpacked with a leading digit has all 53 of them. -/
theorem canonical_of_normal {exponent : BitVec 11} (mantissa : BitVec 52) (normal : ¬exponent = 0#11) :
    Canonical (1#1 ++ mantissa).toNat (exponent.toNat - (1023 + 52)) := by
  have digits : (1#1 ++ mantissa).toNat = 2 ^ 52 + mantissa.toNat := by
    have rest : BitVec.ofNat 52 (2 ^ 52 + mantissa.toNat) = mantissa := by
      apply BitVec.eq_of_toNat_eq
      rw [BitVec.toNat_ofNat, Nat.add_mod_left, Nat.mod_eq_of_lt mantissa.isLt]
    have low := toNat_implicit_append (2 ^ 52 + mantissa.toNat) (by omega) (by omega)
    rwa [rest] at low
  have positive : 0 < exponent.toNat := by
    apply Nat.pos_of_ne_zero
    intro zero
    exact normal (BitVec.eq_of_toNat_eq zero)
  have few := mantissa.isLt
  exact ⟨by omega, by omega, .inl (by omega)⟩

theorem canonical_of_unpack {b : BitVec 64} {s : Sign} {m : Nat} {e : ℤ} {positive : 0 < m}
    (unpacked : UnpackedFloat.unpack Format.binary64 b = .finite s m e positive) : Canonical m e := by
  unfold UnpackedFloat.unpack at unpacked
  dsimp only at unpacked
  split at unpacked
  · split at unpacked <;> cases unpacked
  · split at unpacked
    · next tiny =>
      split at unpacked
      · cases unpacked
      · rw [finite.injEq, tiny] at unpacked
        obtain ⟨-, rfl, rfl⟩ := unpacked
        have few : (@unpackMantissa Format.binary64 b).toNat < 2 ^ 52 := BitVec.isLt _
        exact ⟨by omega, by decide, .inr (by decide)⟩
    · next normal =>
      rw [finite.injEq] at unpacked
      obtain ⟨-, rfl, rfl⟩ := unpacked
      exact canonical_of_normal (@unpackMantissa Format.binary64 b) normal

/-! ## Rounding digits with zeros behind them -/

/-- Rounding aims at the exponent that the mantissa has without the zeros. -/
theorem targetExponent_scaled {m : Nat} {e : ℤ} (positive : 0 < m) (canonical : Canonical m e) (k : Nat) :
    Format.binary64.targetExponent (totalExponent (m * 2 ^ k) (e - k)) = e := by
  have log : (m * 2 ^ k).log2 = m.log2 + k := by
    rw [Nat.log2_eq_iff (by positivity), Nat.add_right_comm, Nat.pow_add, Nat.pow_add]
    exact ⟨Nat.mul_le_mul_right _ (Nat.log2_self_le positive.ne'),
      Nat.mul_lt_mul_of_pos_right Nat.lt_log2_self (Nat.two_pow_pos k)⟩
  have form := canonical.max_log2_add positive
  rw [targetExponent_eq_max, totalExponent, log]
  omega

/-- Zeros are shifted out without a trace. -/
theorem shiftRight_scaled (m k : Nat) : (⟨m * 2 ^ k, false, false⟩ : ExtendedMantissa) >>> k = ⟨m, false, false⟩ := by
  change k.repeat ExtendedMantissa.shiftRightOne _ = _
  induction k generalizing m with
  | zero => simp [Nat.repeat]
  | succ k ih =>
    have even : m * 2 ^ (k + 1) = m * 2 * 2 ^ k := by
      rw [Nat.pow_succ]
      ring
    rw [Nat.repeat, even, ih (m * 2)]
    simp [ExtendedMantissa.shiftRightOne]

theorem roundWithAccuracy_scaled (s : Sign) {m : Nat} {e : ℤ} (positive : 0 < m) (canonical : Canonical m e) (k : Nat) :
    roundWithAccuracy Format.binary64 s (m * 2 ^ k) (e - k) .exact = .finite s m e positive := by
  have first : shiftToTargetExponent Format.binary64 (m * 2 ^ k) (e - k) .exact = (⟨m, false, false⟩, e) := by
    have shift : (e - (e - k)).toNat = k := by omega
    unfold shiftToTargetExponent shiftToExponent
    rw [targetExponent_scaled positive canonical]
    dsimp only
    rw [shift]
    exact Prod.ext (shiftRight_scaled m k) (sub_add_cancel e (k : ℤ))
  have second : shiftToTargetExponent Format.binary64 m e .exact = (⟨m, false, false⟩, e) := by
    apply shiftToTargetExponent_self
    simpa using targetExponent_scaled positive canonical 0
  exact roundWithAccuracy_of_shifts s first second positive

/-! ## Floats -/

theorem unpack_one : (1.0 : Float).toModel.unpack = .finite .positive (2 ^ 52) (-52) (by decide) := by
  have packed : (1.0 : Float) = .ofModel (.pack (.finite .positive (2 ^ 52) (-52) (by decide))) := by decide
  rw [packed]
  exact (Holds.finite .positive (2 ^ 52) (-52) (by decide) ⟨by decide, by decide, by decide⟩ (by decide)).unpack_pack

theorem unpack_negZero : (-0.0 : Float).toModel.unpack = .zero .negative := by
  have packed : (-0.0 : Float) = .ofModel (.pack (.zero .negative)) := by decide
  rw [packed]
  rfl

theorem mul_positive (s : Sign) : s * .positive = s := by
  cases s with
  | negative | positive => rfl

/-- One is neutral on the right of all floats. -/
theorem float_mul_one (x : Float) : x * 1.0 = x := by
  have product : mul Format.binary64 x.toModel.unpack (1.0 : Float).toModel.unpack = x.toModel.unpack := by
    rw [unpack_one]
    cases unpacked : x.toModel.unpack with
    | notANumber => rfl
    | infinity s => exact congrArg infinity (mul_positive s)
    | zero s => exact congrArg zero (mul_positive s)
    | finite s m e positive =>
      have scaled := roundWithAccuracy_scaled s positive (canonical_of_unpack unpacked) 52
      change roundWithAccuracy Format.binary64 (s * .positive) (m * 2 ^ 52) (e + -52) .exact = _
      rw [mul_positive]
      exact scaled
  calc x * 1.0 = .ofModel (.pack (mul Format.binary64 x.toModel.unpack (1.0 : Float).toModel.unpack)) := rfl
    _ = .ofModel (.pack x.toModel.unpack) := by rw [product]
    _ = x := Float.ofBits_toBits x

/-- Minus zero is neutral on the left of all floats. -/
theorem negZero_add (x : Float) : -0.0 + x = x := by
  have sum : add Format.binary64 (-0.0 : Float).toModel.unpack x.toModel.unpack = x.toModel.unpack := by
    rw [unpack_negZero]
    cases x.toModel.unpack with
    | notANumber => rfl
    | infinity s => rfl
    | zero s =>
      cases s with
      | negative | positive => rfl
    | finite s m e positive => rfl
  calc -0.0 + x = .ofModel (.pack (add Format.binary64 (-0.0 : Float).toModel.unpack x.toModel.unpack)) := rfl
    _ = .ofModel (.pack x.toModel.unpack) := by rw [sum]
    _ = x := Float.ofBits_toBits x

end ClusterCost.Binary64
