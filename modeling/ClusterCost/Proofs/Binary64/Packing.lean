import ClusterCost.Proofs.Binary64.Gradual

/-!
# Packed floats and the numbers they hold

`Holds u q` says that an unpacked float in canonical form holds the rational number `q`. Packing such a float and
unpacking it again gives it back (`unpack_pack`), and the number determines the float (`Holds.unique`). `Denotes` is
the same for packed floats. Infinities, not-a-number and negative zero hold nothing here.
-/
namespace ClusterCost.Binary64

open Float.Model
open Float.Model.UnpackedFloat

def signed : Sign → ℚ → ℚ
  | .negative, x => -x
  | .positive, x => x

theorem signed_eq_zero_iff {s : Sign} {x : ℚ} : signed s x = 0 ↔ x = 0 := by
  cases s with
  | negative => exact neg_eq_zero
  | positive => exact Iff.rfl

/-- An unpacked float holds a number: zero without a sign, or a mantissa and an exponent in canonical form. -/
inductive Holds : UnpackedFloat → ℚ → Prop where
  | zero : Holds (.zero .positive) 0
  | finite (s : Sign) (m : Nat) (e : ℤ) (positive : 0 < m) (canonical : Canonical m e) (greatest : e ≤ 971) :
      Holds (.finite s m e positive) (signed s (m * 2 ^ e))

theorem Holds.unique {u v : UnpackedFloat} {q : ℚ} (left : Holds u q) (right : Holds v q) : u = v := by
  cases left with
  | zero =>
    generalize zero_eq : (0 : ℚ) = z at right
    cases right with
    | zero => rfl
    | finite s m e positive =>
      have value_pos : (0 : ℚ) < m * 2 ^ e := mul_pos (Nat.cast_pos.mpr positive) (two_zpow_pos e)
      exact absurd (signed_eq_zero_iff.mp zero_eq.symm) value_pos.ne'
  | finite s m e positive canonical =>
    generalize value_eq : signed s (m * 2 ^ e) = z at right
    have value_pos : (0 : ℚ) < m * 2 ^ e := mul_pos (Nat.cast_pos.mpr positive) (two_zpow_pos e)
    cases right with
    | zero => exact absurd (signed_eq_zero_iff.mp value_eq) value_pos.ne'
    | finite s' m' e' positive' canonical' =>
      have value_pos' : (0 : ℚ) < m' * 2 ^ e' := mul_pos (Nat.cast_pos.mpr positive') (two_zpow_pos e')
      cases s with
      | negative =>
        cases s' with
        | negative =>
          obtain ⟨rfl, rfl⟩ := canonical.unique positive positive' canonical' (neg_inj.mp value_eq)
          rfl
        | positive =>
          simp only [signed] at value_eq
          linarith
      | positive =>
        cases s' with
        | negative =>
          simp only [signed] at value_eq
          linarith
        | positive =>
          obtain ⟨rfl, rfl⟩ := canonical.unique positive positive' canonical' value_eq
          rfl

/-! ## Packing -/

theorem unpackSign_packComponents (s : Sign) (e : BitVec 11) (m : BitVec 52) :
    unpackSign (packComponents Format.binary64 s e m) = s.toBitVec := by
  have top : ((s.toBitVec ++ e ++ m).extractLsb' 63 1) = s.toBitVec := by
    rw [BitVec.extractLsb'_append_eq_of_le (by decide), BitVec.extractLsb'_append_eq_of_le (by decide)]
    exact BitVec.extractLsb'_eq_self
  exact top

theorem ofBitVec_toBitVec (s : Sign) : Sign.ofBitVec s.toBitVec = s := by
  cases s with
  | negative | positive => rfl

/-- The implicit leading digit is put back before the others. -/
theorem toNat_implicit_append (m : Nat) (low : 2 ^ 52 ≤ m) (high : m < 2 ^ 53) :
    (1#1 ++ BitVec.ofNat 52 m).toNat = m := by
  have rest : (BitVec.ofNat 52 m).toNat = m - 2 ^ 52 := by
    rw [BitVec.toNat_ofNat]
    omega
  rw [BitVec.toNat_append, ← Nat.shiftLeft_add_eq_or_of_lt (BitVec.isLt _), rest]
  simp only [Nat.shiftLeft_eq]
  change 1 * 2 ^ 52 + (m - 2 ^ 52) = m
  omega

/-- A number in normal form is packed as its exponent with the bias and its mantissa without the leading digit. -/
theorem pack_finite (s : Sign) {m : Nat} {e : ℤ} (positive : 0 < m) (low : 2 ^ 52 ≤ m) (high : m < 2 ^ 53)
    (greatest : e ≤ 971) : UnpackedFloat.pack Format.binary64 (.finite s m e positive) =
      packComponents Format.binary64 s (BitVec.ofNat 11 (e + 1023 + 52).toNat) (BitVec.ofNat 52 m) := by
  have log : m.log2 = 52 := (Nat.log2_eq_iff positive.ne').mpr ⟨low, high⟩
  have fits : ¬2 ^ 11 ≤ (e + 1023 + 52).toNat + 1 := by omega
  have full : m.log2 + 1 = 53 := by omega
  unfold UnpackedFloat.pack
  exact (if_neg fits).trans (if_pos full)

theorem finite_congr {s s' : Sign} {m m' : Nat} {e e' : ℤ} (positive : 0 < m) (positive' : 0 < m') (signs : s = s')
    (mantissas : m = m') (exponents : e = e') : UnpackedFloat.finite s m e positive = .finite s' m' e' positive' := by
  subst signs
  subst mantissas
  subst exponents
  rfl

/-- Bits whose exponent is neither zero nor the greatest one are unpacked part by part. -/
theorem unpack_normal {b : BitVec 64} (no_infinity : @unpackExponent Format.binary64 b ≠ -1#11)
    (normal : @unpackExponent Format.binary64 b ≠ 0#11)
    (positive : 0 < (1#1 ++ @unpackMantissa Format.binary64 b).toNat) :
    UnpackedFloat.unpack Format.binary64 b = .finite (Sign.ofBitVec (@unpackSign Format.binary64 b))
      (1#1 ++ @unpackMantissa Format.binary64 b).toNat
      ((@unpackExponent Format.binary64 b).toNat - (1023 + 52)) positive := by
  unfold UnpackedFloat.unpack
  exact (if_neg no_infinity).trans (if_neg normal)

/-- A biased exponent between zero and the greatest one is that of a number in normal form. -/
theorem unpack_packComponents (s : Sign) {m biased : Nat} (positive : 0 < m) (low : 2 ^ 52 ≤ m) (high : m < 2 ^ 53)
    (least : 1 ≤ biased) (greatest : biased ≤ 2046) :
    UnpackedFloat.unpack Format.binary64
        (packComponents Format.binary64 s (BitVec.ofNat 11 biased) (BitVec.ofNat 52 m)) =
      .finite s m (biased - (1023 + 52)) positive := by
  have biased_nat : (BitVec.ofNat 11 biased).toNat = biased := by
    rw [BitVec.toNat_ofNat]
    omega
  have no_infinity : BitVec.ofNat 11 biased ≠ -1#11 := by
    intro same
    have values := congrArg BitVec.toNat same
    rw [biased_nat] at values
    change biased = 2047 at values
    omega
  have normal : BitVec.ofNat 11 biased ≠ 0#11 := by
    intro same
    have values := congrArg BitVec.toNat same
    rw [biased_nat] at values
    change biased = 0 at values
    omega
  let packed := packComponents Format.binary64 s (BitVec.ofNat 11 biased) (BitVec.ofNat 52 m)
  have exponent_eq : unpackExponent packed = BitVec.ofNat 11 biased := unpackExponent_packComponents
  have mantissa_eq : unpackMantissa packed = BitVec.ofNat 52 m := unpackMantissa_packComponents
  have sign_eq : unpackSign packed = s.toBitVec := unpackSign_packComponents s _ _
  have significand_eq : (1#1 ++ unpackMantissa packed).toNat = m := by
    rw [mantissa_eq]
    exact toNat_implicit_append m low high
  rw [unpack_normal (b := packed) (by rwa [exponent_eq]) (by rwa [exponent_eq]) (by rwa [significand_eq])]
  apply finite_congr
  · rw [sign_eq, ofBitVec_toBitVec]
  · exact significand_eq
  · rw [exponent_eq, biased_nat]

/-- A number with fewer digits is packed as its mantissa alone. -/
theorem pack_short (s : Sign) {m : Nat} (positive : 0 < m) (short : m < 2 ^ 52) :
    UnpackedFloat.pack Format.binary64 (.finite s m (-1074) positive) =
      packComponents Format.binary64 s 0#11 (BitVec.ofNat 52 m) := by
  have log : m.log2 < 52 := (Nat.log2_lt positive.ne').mpr short
  have few : ¬m.log2 + 1 = 53 := by omega
  unfold UnpackedFloat.pack
  exact (if_neg (by decide)).trans (if_neg few)

theorem unpack_short {b : BitVec 64} (tiny : @unpackExponent Format.binary64 b = 0#11)
    (nonzero : @unpackMantissa Format.binary64 b ≠ 0#52) (positive : 0 < (@unpackMantissa Format.binary64 b).toNat) :
    UnpackedFloat.unpack Format.binary64 b = .finite (Sign.ofBitVec (@unpackSign Format.binary64 b))
      (@unpackMantissa Format.binary64 b).toNat (-1074) positive := by
  unfold UnpackedFloat.unpack
  dsimp only
  rw [tiny, if_neg (by decide), if_pos rfl]
  exact dif_neg nonzero

/-- A mantissa without an exponent is that of a number with fewer digits. -/
theorem unpack_packComponents_short (s : Sign) {m : Nat} (positive : 0 < m) (short : m < 2 ^ 52) :
    UnpackedFloat.unpack Format.binary64 (packComponents Format.binary64 s 0#11 (BitVec.ofNat 52 m)) =
      .finite s m (-1074) positive := by
  have mantissa_nat : (BitVec.ofNat 52 m).toNat = m := by
    rw [BitVec.toNat_ofNat]
    omega
  let packed := packComponents Format.binary64 s 0#11 (BitVec.ofNat 52 m)
  have exponent_eq : unpackExponent packed = 0#11 := unpackExponent_packComponents
  have mantissa_eq : unpackMantissa packed = BitVec.ofNat 52 m := unpackMantissa_packComponents
  have sign_eq : unpackSign packed = s.toBitVec := unpackSign_packComponents s _ _
  have nonzero : unpackMantissa packed ≠ 0#52 := by
    intro zero
    have values := congrArg BitVec.toNat (mantissa_eq.symm.trans zero)
    rw [mantissa_nat] at values
    exact positive.ne' values
  have toNat_eq : (unpackMantissa packed).toNat = m := by rw [mantissa_eq, mantissa_nat]
  rw [unpack_short (b := packed) exponent_eq nonzero (by rwa [toNat_eq])]
  apply finite_congr
  · rw [sign_eq, ofBitVec_toBitVec]
  · exact toNat_eq
  · rfl

/-- Packing loses nothing of a float that holds a number. -/
theorem Holds.unpack_pack {u : UnpackedFloat} {q : ℚ} (holds : Holds u q) : (Float.Model.pack u).unpack = u := by
  cases holds with
  | zero => rfl
  | finite s m e positive canonical greatest =>
    change UnpackedFloat.unpack Format.binary64 (UnpackedFloat.pack Format.binary64 (.finite s m e positive)) = _
    have least := canonical.least
    rcases le_or_gt (2 ^ 52) m with full | short
    · rw [pack_finite s positive full canonical.lt greatest,
        unpack_packComponents s positive full canonical.lt (by omega) (by omega)]
      exact finite_congr positive positive rfl rfl (by omega)
    · obtain rfl := canonical.full.resolve_left (not_le.mpr short)
      rw [pack_short s positive short, unpack_packComponents_short s positive short]

/-! ## Floats and their numbers -/

/-- A float denotes a number if it packs what holds the number. -/
def Denotes (x : Float) (q : ℚ) : Prop :=
  ∃ u, Holds u q ∧ x = .ofModel (.pack u)

theorem Holds.functional {u : UnpackedFloat} {p q : ℚ} (left : Holds u p) (right : Holds u q) : p = q := by
  cases left with
  | zero =>
    cases right with
    | zero => rfl
  | finite =>
    cases right with
    | finite => rfl

/-- A float denotes one number. -/
theorem Denotes.functional {x : Float} {p q : ℚ} (left : Denotes x p) (right : Denotes x q) : p = q := by
  obtain ⟨u, holds, rfl⟩ := left
  obtain ⟨v, holds', same⟩ := right
  have unpacked : u = v := by
    rw [← holds.unpack_pack, ← holds'.unpack_pack, Float.ofModel.inj same]
  subst unpacked
  exact holds.functional holds'

/-- One float denotes a number. -/
theorem Denotes.unique {x y : Float} {q : ℚ} (left : Denotes x q) (right : Denotes y q) : x = y := by
  obtain ⟨u, holds, rfl⟩ := left
  obtain ⟨v, holds', rfl⟩ := right
  rw [holds.unique holds']

theorem Denotes.holds_unpack {x : Float} {q : ℚ} (denotes : Denotes x q) : Holds x.toModel.unpack q := by
  obtain ⟨u, holds, rfl⟩ := denotes
  rw [holds.unpack_pack]
  exact holds

end ClusterCost.Binary64
