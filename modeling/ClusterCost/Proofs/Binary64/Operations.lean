import ClusterCost.Proofs.Binary64.Packing
import ClusterCost.Proofs.Binary64.Rounding
import Mathlib.Tactic.FieldSimp

/-!
# Operations on floats

Products and quotients of floats denote the exact result rounded by `gradual`, unless it is too great. Numbers whose
magnitude is in `InRange` lose no digits near zero and do not overflow. For these, products and quotients of floats, and
the floats of whole numbers, denote the exact result rounded by `nearest`.
-/
namespace ClusterCost.Binary64

open Float.Model
open Float.Model.UnpackedFloat

/-- A number is in the range where rounding to 53 digits is all that an operation does. -/
def InRange (x : ℚ) : Prop :=
  2 ^ (-1022 : ℤ) ≤ x ∧ x ≤ 2 ^ (1023 : ℤ)

theorem InRange.pos {x : ℚ} (range : InRange x) : 0 < x :=
  (two_zpow_pos _).trans_le range.1

/-- What has an exponent beyond the greatest one is packed like an infinity. -/
theorem pack_beyond (s : Sign) {m : Nat} {e : ℤ} (positive : 0 < m) (beyond : 971 < e) :
    Float.Model.pack (.finite s m e positive) = Float.Model.pack (.infinity s) := by
  have overflow : 2 ^ 11 ≤ (e + 1023 + 52).toNat + 1 := by omega
  have packed : UnpackedFloat.pack Format.binary64 (.finite s m e positive) =
      UnpackedFloat.pack Format.binary64 (.infinity s) := by
    unfold UnpackedFloat.pack
    exact if_pos overflow
  unfold Float.Model.pack
  rw [Float.Model.mk.injEq, packed]

/-- A rounded result is held, or it is too great and packed like an infinity. Zero is held without a sign only. -/
theorem holds_gradual_or_beyond {m : Nat} {e : ℤ} {a : Accuracy} {x : ℚ} (s : Sign) (pos : 0 < x)
    (described : Describes m (x / 2 ^ e) a) (digits : e ≤ grid x) (signless : s = .negative → gradual x ≠ 0) :
    Holds (roundWithAccuracy Format.binary64 s m e a) (signed s (gradual x)) ∨
      2 ^ (1023 : ℤ) < x ∧
        Float.Model.pack (roundWithAccuracy Format.binary64 s m e a) = Float.Model.pack (.infinity s) := by
  rcases roundWithAccuracy_eq s pos described digits with ⟨result, lost⟩ | ⟨M, E, positive, result, canonical, value⟩
  · left
    cases s with
    | negative => exact absurd lost (signless rfl)
    | positive =>
      rw [result, lost]
      exact .zero
  by_cases greatest : E ≤ 971
  · rw [result, ← value]
    exact .inl (.finite s M E positive canonical greatest)
  · have full : 2 ^ 52 ≤ M := canonical.full.resolve_right (by omega)
    have mantissa_low : (2 : ℚ) ^ (52 : ℤ) ≤ M := by exact_mod_cast full
    have beyond : (2 : ℚ) ^ (1024 : ℤ) ≤ gradual x :=
      calc (2 : ℚ) ^ (1024 : ℤ) ≤ 2 ^ (52 + E) := zpow_le_zpow_right₀ (by norm_num) (by omega)
        _ = 2 ^ (52 : ℤ) * 2 ^ E := two_zpow_add _ _
        _ ≤ M * 2 ^ E := mul_le_mul_of_nonneg_right mantissa_low (two_zpow_pos E).le
        _ = gradual x := value
    have apart : (2 : ℚ) ^ (1023 : ℤ) < 2 ^ (1024 : ℤ) := zpow_lt_zpow_right₀ (by norm_num) (by norm_num)
    refine .inr ⟨?_, by rw [result, pack_beyond s positive (not_le.mp greatest)]⟩
    by_contra within
    have bounded := gradual_le_two_zpow pos (not_lt.mp within) (by norm_num)
    exact absurd (beyond.trans bounded) (not_le.mpr apart)

/-- A rounded result that is not too small is held, or it is too great and packed like an infinity. -/
theorem holds_or_beyond {m : Nat} {e : ℤ} {a : Accuracy} {x : ℚ} (s : Sign) (least : 2 ^ (-1022 : ℤ) ≤ x)
    (described : Describes m (x / 2 ^ e) a) (digits : e ≤ exponent x) :
    Holds (roundWithAccuracy Format.binary64 s m e a) (signed s (nearest x)) ∨
      2 ^ (1023 : ℤ) < x ∧
        Float.Model.pack (roundWithAccuracy Format.binary64 s m e a) = Float.Model.pack (.infinity s) := by
  have pos := (two_zpow_pos _).trans_le least
  have normal : gradual x = nearest x := gradual_of_normal (exponent_of_normal least)
  rw [← normal]
  refine holds_gradual_or_beyond s pos described (digits.trans (le_max_left _ _)) fun _ => ?_
  rw [normal]
  exact (nearest_pos pos).ne'

/-- A rounded result in the range is held. -/
theorem holds_roundWithAccuracy {m : Nat} {e : ℤ} {a : Accuracy} {x : ℚ} (s : Sign) (range : InRange x)
    (described : Describes m (x / 2 ^ e) a) (digits : e ≤ exponent x) :
    Holds (roundWithAccuracy Format.binary64 s m e a) (signed s (nearest x)) :=
  (holds_or_beyond s range.1 described digits).resolve_right fun beyond => absurd range.2 (not_le.mpr beyond.1)

theorem gradual_signed (s : Sign) (x : ℚ) : gradual (signed s x) = signed s (gradual x) := by
  cases s with
  | negative => exact gradual_neg x
  | positive => rfl

theorem signed_div (s : Sign) (x y : ℚ) : signed s (x / y) = signed s x / y := by
  cases s with
  | negative => exact (neg_div y x).symm
  | positive => rfl

theorem abs_signed (s : Sign) (x : ℚ) : |signed s x| = |x| := by
  cases s with
  | negative => exact abs_neg x
  | positive => rfl

theorem div_positive (s : Sign) : s / .positive = s := by
  cases s with
  | negative | positive => rfl

/-! ## Quotients -/

/-- A remainder is to half of the divisor as what it adds to a number is to one half more. -/
theorem compare_remainder (q : ℚ) (r : Nat) {d : Nat} (pos : 0 < d) :
    compare (q + r / d) (q + 1 / 2) = compare (2 * r) d := by
  have pos' : (0 : ℚ) < d := Nat.cast_pos.mpr pos
  apply compare_congr
  · rw [add_lt_add_iff_left, div_lt_div_iff₀ pos' two_pos]
    norm_cast
    omega
  · rw [add_lt_add_iff_left, div_lt_div_iff₀ two_pos pos']
    norm_cast
    omega

/-- A quotient of whole numbers and its remainder describe the fraction. -/
theorem describes_quotient (n : Nat) {d : Nat} (pos : 0 < d) :
    Describes (n / d) ((n : ℚ) / d) (accuracyOfFraction (n % d) d) := by
  have pos' : (0 : ℚ) < d := Nat.cast_pos.mpr pos
  have divided : ((n / d : Nat) : ℚ) * d + (n % d : Nat) = n := by exact_mod_cast Nat.div_add_mod' n d
  have fraction_eq : (n : ℚ) / d = (n / d : Nat) + ((n % d : Nat) : ℚ) / d := by
    rw [← divided]
    field_simp
  unfold accuracyOfFraction
  split
  · next whole =>
    rw [whole, Nat.cast_zero, zero_div, add_zero] at fraction_eq
    exact fraction_eq
  · next rest =>
    have rest_pos : (0 : ℚ) < (n % d : Nat) := Nat.cast_pos.mpr (Nat.pos_of_ne_zero rest)
    have rest_lt : ((n % d : Nat) : ℚ) < d := Nat.cast_lt.mpr (Nat.mod_lt n pos)
    have part_pos : 0 < ((n % d : Nat) : ℚ) / d := div_pos rest_pos pos'
    have part_lt : ((n % d : Nat) : ℚ) / d < 1 := (div_lt_one pos').mpr rest_lt
    refine ⟨by linarith, by linarith, ?_⟩
    rw [fraction_eq]
    exact compare_remainder _ _ pos

/-- The digits of the operands tell where the digits of the quotient begin, but for one place. -/
theorem le_exponent_quotient {m m' : Nat} (pos : 0 < m) (pos' : 0 < m') (e e' : ℤ) :
    totalExponent m e - totalExponent m' e' - 53 ≤ exponent (m * 2 ^ e / (m' * 2 ^ e')) := by
  have low := (two_zpow_log2_bounds pos e).1
  have high := (two_zpow_log2_bounds pos' e').2
  have divisor_pos : (0 : ℚ) < m' * 2 ^ e' := mul_pos (Nat.cast_pos.mpr pos') (two_zpow_pos e')
  have below : (2 : ℚ) ^ ((m.log2 + e) - (m'.log2 + 1 + e')) ≤ m * 2 ^ e / (m' * 2 ^ e') := by
    rw [zpow_sub₀ (by norm_num)]
    exact div_le_div₀ ((two_zpow_pos _).le.trans low) low divisor_pos high.le
  have bound := le_exponent_of_two_zpow_le below
  unfold totalExponent
  omega

/-- The quotient that the model computes has digits enough, and with its remainder describes the fraction. -/
theorem describes_divCore {m m' : Nat} (pos : 0 < m) (pos' : 0 < m') (e e' : ℤ) :
    let x : ℚ := m * 2 ^ e / (m' * 2 ^ e')
    let core := divCore Format.binary64 m e m' e'
    Describes core.1 (x / 2 ^ core.2.1) core.2.2 ∧ core.2.1 ≤ grid x := by
  intro x core
  let t := min (e - e') (Format.binary64.targetExponent (totalExponent m e - totalExponent m' e'))
  let shift := (e - e' - t).toNat
  have shift_eq : (shift : ℤ) = e - e' - t := Int.toNat_of_nonneg (by omega)
  have core_eq : core = ((m <<< shift) / m', t, accuracyOfFraction ((m <<< shift) % m') m') := rfl
  have scaled : x / 2 ^ t = ((m <<< shift : Nat) : ℚ) / m' := by
    have power : (2 : ℚ) ^ e = 2 ^ shift * 2 ^ t * 2 ^ e' := by
      rw [← zpow_natCast, ← two_zpow_add, ← two_zpow_add, shift_eq]
      congr 1
      omega
    have nonzero : (m' : ℚ) ≠ 0 := (Nat.cast_pos.mpr pos').ne'
    rw [Nat.shiftLeft_eq, Nat.cast_mul, Nat.cast_pow, Nat.cast_ofNat]
    simp only [x, power]
    field_simp
  rw [core_eq]
  constructor
  · rw [scaled]
    exact describes_quotient _ pos'
  · have digits := le_exponent_quotient pos pos' e e'
    have t_le : t ≤ max (totalExponent m e - totalExponent m' e' - 53) (-1074) := by
      rw [← targetExponent_eq_max]
      exact min_le_right _ _
    exact t_le.trans (max_le_max_right _ digits)

/-- A quotient that is not too great holds the exact quotient rounded. The divisor is positive, so that a zero has no
sign. -/
theorem holds_div_gradual {u v : UnpackedFloat} {p q : ℚ} (left : Holds u p) (right : Holds v q) (pos : 0 < q)
    (signless : p < 0 → gradual (p / q) ≠ 0) (small : |p / q| ≤ 2 ^ (1023 : ℤ)) :
    Holds (div Format.binary64 u v) (gradual (p / q)) := by
  cases right with
  | zero => exact absurd pos (lt_irrefl 0)
  | finite s' m' e' positive' =>
    have value_pos' : (0 : ℚ) < m' * 2 ^ e' := mul_pos (Nat.cast_pos.mpr positive') (two_zpow_pos e')
    cases s' with
    | negative =>
      simp only [signed] at pos
      linarith
    | positive =>
      cases left with
      | zero =>
        rw [zero_div, gradual_zero]
        exact .zero
      | finite s m e positive =>
        let x : ℚ := m * 2 ^ e / (m' * 2 ^ e')
        have value_pos : (0 : ℚ) < m * 2 ^ e := mul_pos (Nat.cast_pos.mpr positive) (two_zpow_pos e)
        have x_pos : 0 < x := div_pos value_pos value_pos'
        have quotient_eq : signed s (m * 2 ^ e) / signed .positive (m' * 2 ^ e') = signed s x :=
          (signed_div s _ _).symm
        have sign_eq : signed s (gradual x) = signed (s / .positive) (gradual x) := by rw [div_positive]
        rw [quotient_eq, gradual_signed] at signless ⊢
        rw [quotient_eq, abs_signed, abs_of_pos x_pos] at small
        have signless' : s / .positive = .negative → gradual x ≠ 0 := by
          rw [div_positive]
          rintro rfl
          exact mt signed_eq_zero_iff.mpr (signless (neg_lt_zero.mpr value_pos))
        obtain ⟨described, digits⟩ := describes_divCore positive positive' e e'
        rw [sign_eq]
        exact (holds_gradual_or_beyond _ x_pos described digits signless').resolve_right fun beyond =>
          absurd small (not_le.mpr beyond.1)

/-- A quotient in the range, or of zero, holds the exact quotient rounded. -/
theorem holds_div {u v : UnpackedFloat} {p q : ℚ} (left : Holds u p) (right : Holds v q) (pos : 0 < q)
    (range : p = 0 ∨ InRange |p / q|) : Holds (div Format.binary64 u v) (nearest (p / q)) := by
  rcases range with rfl | range
  · have quotient := holds_div_gradual left right pos (by simp) (by simp)
    rw [zero_div, gradual_zero] at quotient
    rw [zero_div, nearest_zero]
    exact quotient
  · have normal := gradual_of_least range.1
    have nonzero : nearest (p / q) ≠ 0 := mt nearest_eq_zero_iff.mp (abs_pos.mp range.pos)
    rw [← normal] at nonzero ⊢
    exact holds_div_gradual left right pos (fun _ => nonzero) range.2

/-! ## Products -/

/-- A mantissa with an exponent describes its number exactly. -/
theorem describes_exact (m : Nat) (e : ℤ) : Describes m ((m * 2 ^ e : ℚ) / 2 ^ e) .exact :=
  mul_div_cancel_right₀ _ (two_zpow_pos e).ne'

theorem signed_mul (s s' : Sign) (x y : ℚ) : signed s x * signed s' y = signed (s * s') (x * y) := by
  cases s with
  | negative =>
    cases s' with
    | negative => exact neg_mul_neg x y
    | positive => exact neg_mul x y
  | positive =>
    cases s' with
    | negative => exact mul_neg x y
    | positive => rfl

/-- The digits of the operands tell where the digits of the product begin: one of them has all 53 digits, or both have
the least exponent. -/
theorem add_le_grid_product {m m' : Nat} {e e' : ℤ} (positive : 0 < m) (positive' : 0 < m') (canonical : Canonical m e)
    (canonical' : Canonical m' e') : e + e' ≤ grid ((m * m' : Nat) * 2 ^ (e + e')) := by
  have long_or_least : 2 ^ 52 ≤ m * m' ∨ e + e' ≤ -1074 := by
    rcases canonical.full with full | least
    · exact .inl (full.trans (Nat.le_mul_of_pos_right m positive'))
    · rcases canonical'.full with full' | least'
      · exact .inl (full'.trans (Nat.le_mul_of_pos_left m' positive))
      · right
        omega
  rcases long_or_least with long | least
  · have long' : (2 : ℚ) ^ (52 : ℤ) ≤ (m * m' : Nat) := by exact_mod_cast long
    have below : (2 : ℚ) ^ (52 + (e + e')) ≤ (m * m' : Nat) * 2 ^ (e + e') := by
      rw [two_zpow_add]
      exact mul_le_mul_of_nonneg_right long' (two_zpow_pos _).le
    have bound := le_exponent_of_two_zpow_le below
    exact le_max_of_le_left (by omega)
  · exact least.trans (le_max_right _ _)

/-- A product that is not lost holds the exact product rounded, or it is too great and packed like an infinity. -/
theorem holds_mul_gradual_or_beyond {u v : UnpackedFloat} {p q : ℚ} (left : Holds u p) (right : Holds v q)
    (least : 2 ^ (-1074 : ℤ) ≤ |p * q|) :
    Holds (mul Format.binary64 u v) (gradual (p * q)) ∨
      2 ^ (1023 : ℤ) < |p * q| ∧ ∃ s, Float.Model.pack (mul Format.binary64 u v) = Float.Model.pack (.infinity s) := by
  have nonzero : p * q ≠ 0 := abs_pos.mp ((two_zpow_pos _).trans_le least)
  cases left with
  | zero => exact absurd (zero_mul q) nonzero
  | finite s m e positive canonical =>
    cases right with
    | zero => exact absurd (mul_zero _) nonzero
    | finite s' m' e' positive' canonical' =>
      let x : ℚ := (m * m' : Nat) * 2 ^ (e + e')
      have value_eq : (m * 2 ^ e : ℚ) * (m' * 2 ^ e') = x := by
        simp only [x, two_zpow_add]
        push_cast
        ring
      have value_pos : 0 < x := mul_pos (Nat.cast_pos.mpr (Nat.mul_pos positive positive')) (two_zpow_pos _)
      have digits := add_le_grid_product positive positive' canonical canonical'
      rw [signed_mul, value_eq, abs_signed, abs_of_pos value_pos] at least ⊢
      have apart : (2 : ℚ) ^ (-1075 : ℤ) < 2 ^ (-1074 : ℤ) := zpow_lt_zpow_right₀ (by norm_num) (by norm_num)
      have kept := gradual_pos (apart.trans_le least)
      rw [gradual_signed]
      have rounded := holds_gradual_or_beyond (s * s') value_pos (describes_exact _ _) digits fun _ => kept.ne'
      exact rounded.imp_right fun beyond => ⟨beyond.1, _, beyond.2⟩

theorem holds_zero_mul {u v : UnpackedFloat} {q : ℚ} (left : Holds u 0) (right : Holds v q) (pos : 0 < q) :
    Holds (mul Format.binary64 u v) 0 := by
  rw [left.unique .zero]
  cases right with
  | zero => exact absurd pos (lt_irrefl 0)
  | finite s m e positive =>
    have magnitude_pos : (0 : ℚ) < m * 2 ^ e := mul_pos (Nat.cast_pos.mpr positive) (two_zpow_pos e)
    cases s with
    | negative => exact absurd pos (not_lt.mpr (neg_nonpos.mpr magnitude_pos.le))
    | positive => exact .zero

/-! ## Whole numbers -/

theorem exponent_natCast {n : ℕ} (pos : 0 < n) : exponent n = n.log2 - 52 := by
  have scaled := exponent_mul_two_zpow pos 0
  rw [zpow_zero, mul_one, add_zero] at scaled
  exact scaled

/-- A mantissa of any length is rounded to the nearest number. -/
theorem holds_round {m : Nat} (pos : 0 < m) (s : Sign) {e : ℤ} (range : InRange (m * 2 ^ e)) :
    Holds (round Format.binary64 s m e) (signed s (nearest (m * 2 ^ e))) := by
  let t := Format.binary64.targetExponent (totalExponent m e)
  let k := (e - t).toNat
  have value_eq : ((m <<< k : Nat) : ℚ) * 2 ^ (e - k) = m * 2 ^ e := by
    have power : (2 : ℚ) ^ e = 2 ^ k * 2 ^ (e - k) := by
      rw [← zpow_natCast, ← two_zpow_add]
      congr 1
      omega
    rw [power, Nat.shiftLeft_eq]
    push_cast
    ring
  have digits : e - k ≤ exponent (m * 2 ^ e) := by
    have normal := exponent_of_normal range.1
    have target : t = exponent (m * 2 ^ e) := by
      rw [exponent_mul_two_zpow pos] at normal ⊢
      simp only [t, targetExponent_eq_max, totalExponent]
      omega
    omega
  have described := describes_exact (m <<< k) (e - k)
  rw [value_eq] at described
  exact holds_roundWithAccuracy s range described digits

theorem inRange_of_one_le {x : ℚ} (one_le : 1 ≤ x) (small : x ≤ 2 ^ (1023 : ℤ)) : InRange x :=
  ⟨(zpow_le_one_of_nonpos₀ (by norm_num) (by norm_num)).trans one_le, small⟩

/-- Whole numbers of 64 bits are in the range. -/
theorem inRange_natCast {n : Nat} (pos : 0 < n) (small : n ≤ 2 ^ 64) : InRange n := by
  have one_le : (1 : ℚ) ≤ n := by exact_mod_cast pos
  have le_word : (n : ℚ) ≤ 2 ^ (64 : ℤ) := by exact_mod_cast small
  exact inRange_of_one_le one_le (le_word.trans (zpow_le_zpow_right₀ (by norm_num) (by norm_num)))

/-! ## Floats -/

/-- A quotient of floats with a positive divisor denotes the exact quotient rounded, in the range. -/
theorem Denotes.div {x y : Float} {p q : ℚ} (left : Denotes x p) (right : Denotes y q) (pos : 0 < q)
    (range : p = 0 ∨ InRange |p / q|) : Denotes (x / y) (nearest (p / q)) :=
  ⟨_, holds_div left.holds_unpack right.holds_unpack pos range, rfl⟩

/-- A quotient of floats that are not negative denotes the exact quotient rounded, which may be zero. -/
theorem Denotes.div_gradual {x y : Float} {p q : ℚ} (left : Denotes x p) (right : Denotes y q) (nonneg : 0 ≤ p)
    (pos : 0 < q) (small : p / q ≤ 2 ^ (1023 : ℤ)) : Denotes (x / y) (gradual (p / q)) := by
  refine ⟨_, holds_div_gradual left.holds_unpack right.holds_unpack pos (fun neg => absurd nonneg (not_le.mpr neg)) ?_, rfl⟩
  rw [abs_of_nonneg (div_nonneg nonneg pos.le)]
  exact small

def IsInfinite (x : Float) : Prop :=
  ∃ s, x = .ofModel (.pack (.infinity s))

/-- A product of floats that is not lost denotes the exact product rounded, or it is too great and infinite. -/
theorem Denotes.mul_gradual_or_infinite {x y : Float} {p q : ℚ} (left : Denotes x p) (right : Denotes y q)
    (least : 2 ^ (-1074 : ℤ) ≤ |p * q|) :
    Denotes (x * y) (gradual (p * q)) ∨ 2 ^ (1023 : ℤ) < |p * q| ∧ IsInfinite (x * y) := by
  rcases holds_mul_gradual_or_beyond left.holds_unpack right.holds_unpack least with holds | ⟨large, s, packed⟩
  · exact .inl ⟨_, holds, rfl⟩
  · exact .inr ⟨large, s, congrArg Float.ofModel packed⟩

/-- A product of floats that is not too small denotes the exact product rounded, or it is too great and infinite. -/
theorem Denotes.mul_or_infinite {x y : Float} {p q : ℚ} (left : Denotes x p) (right : Denotes y q)
    (least : 2 ^ (-1022 : ℤ) ≤ |p * q|) :
    Denotes (x * y) (nearest (p * q)) ∨ 2 ^ (1023 : ℤ) < |p * q| ∧ IsInfinite (x * y) := by
  rw [← gradual_of_least least]
  exact left.mul_gradual_or_infinite right ((zpow_le_zpow_right₀ (by norm_num) (by norm_num)).trans least)

/-- A product of floats denotes the exact product rounded, in the range. -/
theorem Denotes.mul {x y : Float} {p q : ℚ} (left : Denotes x p) (right : Denotes y q) (range : InRange |p * q|) :
    Denotes (x * y) (nearest (p * q)) :=
  (left.mul_or_infinite right range.1).resolve_right fun beyond => absurd range.2 (not_le.mpr beyond.1)

/-- Zero times a positive float is zero. -/
theorem Denotes.zero_mul {x y : Float} {q : ℚ} (left : Denotes x 0) (right : Denotes y q) (pos : 0 < q) :
    Denotes (x * y) 0 :=
  ⟨_, holds_zero_mul left.holds_unpack right.holds_unpack pos, rfl⟩

theorem holds_neg {u : UnpackedFloat} {q : ℚ} (holds : Holds u q) (nonzero : q ≠ 0) : Holds u.neg (-q) := by
  cases holds with
  | zero => exact absurd rfl nonzero
  | finite s m e positive canonical greatest =>
    have sign_eq : -signed s (m * 2 ^ e) = signed (-s) (m * 2 ^ e) := by
      cases s with
      | negative => exact neg_neg _
      | positive => rfl
    rw [sign_eq]
    exact .finite (-s) m e positive canonical greatest

theorem Denotes.neg {x : Float} {q : ℚ} (denotes : Denotes x q) (nonzero : q ≠ 0) : Denotes (-x) (-q) :=
  ⟨_, holds_neg denotes.holds_unpack nonzero, rfl⟩

theorem denotes_zero : Denotes (Float.ofNat 0) 0 :=
  ⟨_, .zero, by decide⟩

theorem denotes_one : Denotes (Float.ofBits 0x3FF0000000000000) 1 := by
  refine ⟨.finite .positive (2 ^ 52) (-52) (by decide), ?_, by decide⟩
  have one_eq : signed .positive ((2 ^ 52 : Nat) * 2 ^ (-52 : ℤ)) = 1 := by
    norm_num [signed]
  rw [← one_eq]
  exact .finite _ _ _ _ ⟨by decide, by decide, by decide⟩ (by decide)

theorem holds_ofNat {n : Nat} (pos : 0 < n) (range : InRange n) :
    Holds (UnpackedFloat.ofNat Format.binary64 n) (nearest n) := by
  have greater : compare (n : ℤ) 0 = .gt := Int.compare_eq_gt.mpr (Int.natCast_pos.mpr pos)
  have value_eq : (n : ℚ) * 2 ^ (0 : ℤ) = n := by rw [zpow_zero, mul_one]
  have rounded := holds_round pos .positive (e := 0) (by rw [value_eq]; exact range)
  rw [value_eq] at rounded
  unfold UnpackedFloat.ofNat UnpackedFloat.ofInt UnpackedFloat.normalize
  rw [greater]
  exact rounded

/-- Numbers below the fifty-third power of two are converted and multiplied by one. -/
theorem denotes_ofNat_of_short {n : Nat} (pos : 0 < n) (short : n < 2 ^ 53) : Denotes (Float.ofNat n) (nearest n) := by
  have range := inRange_natCast pos (short.le.trans (by decide))
  have word : n.toUInt64.toNat = n := UInt64.toNat_ofNat_of_lt' (short.trans (by decide))
  have converted : n.toUInt64.toFloat = .ofModel (.pack (UnpackedFloat.ofNat Format.binary64 n)) := by
    change Float.ofModel (.pack (UnpackedFloat.ofNat Format.binary64 n.toUInt64.toNat)) = _
    rw [word]
  have factor : Denotes n.toUInt64.toFloat n := by
    have held := holds_ofNat pos range
    rw [nearest_natCast short] at held
    exact ⟨_, held, converted⟩
  have fast : Float.ofNat n = n.toUInt64.toFloat * Float.ofBits 0x3FF0000000000000 := by
    change Float.ofScientific n false 0 = _
    unfold Float.ofScientific
    rw [dif_pos ⟨short, by decide⟩]
    rfl
  have within : InRange |(n : ℚ) * 1| := by
    rw [mul_one, abs_of_pos range.pos]
    exact range
  have product := factor.mul denotes_one within
  rw [mul_one] at product
  rw [fast]
  exact product

/-- A whole number with decimal zeros is rounded from all its digits, unless it is too great. -/
theorem holds_ofScientific_or_beyond {n k : Nat} (pos : 0 < n) (bounded : k ≤ 2 ^ 11) :
    Holds (UnpackedFloat.ofScientific Format.binary64 n k) (nearest (n * 10 ^ k)) ∨
      2 ^ (1023 : ℤ) < (n * 10 ^ k : ℚ) ∧
        Float.Model.pack (UnpackedFloat.ofScientific Format.binary64 n k) = Float.Model.pack (.infinity .positive) := by
  have rounded : UnpackedFloat.ofScientific Format.binary64 n k =
      roundWithAccuracy Format.binary64 .positive (n <<< 53 * 10 ^ k) (-53 + 0) .exact := by
    have not_huge : ¬(k : ℤ) > 2 ^ 11 := by omega
    have not_tiny : ¬(k : ℤ) < -((2 ^ 11 : ℤ) + n.log2) := by omega
    unfold UnpackedFloat.ofScientific
    rw [dif_neg pos.ne', if_neg not_huge, if_neg not_tiny, if_pos (Int.natCast_nonneg k)]
    rfl
  have value_eq : ((n <<< 53 * 10 ^ k : Nat) : ℚ) * 2 ^ (-53 + 0 : ℤ) = n * 10 ^ k := by
    rw [Nat.shiftLeft_eq]
    push_cast
    norm_num
    ring
  have one_le : (1 : ℚ) ≤ n * 10 ^ k := by exact_mod_cast Nat.mul_pos pos (by positivity)
  have digits : (-53 + 0 : ℤ) ≤ exponent (n * 10 ^ k) := by
    have whole : (2 : ℚ) ^ (0 : ℤ) ≤ n * 10 ^ k := by
      rw [zpow_zero]
      exact one_le
    have bound := le_exponent_of_two_zpow_le whole
    omega
  have least : (2 : ℚ) ^ (-1022 : ℤ) ≤ n * 10 ^ k :=
    (zpow_le_one_of_nonpos₀ (by norm_num) (by norm_num)).trans one_le
  have described := describes_exact (n <<< 53 * 10 ^ k) (-53 + 0)
  rw [value_eq] at described
  rw [rounded]
  exact holds_or_beyond .positive least described digits

/-- Greater numbers are rounded from all their digits. -/
theorem denotes_ofNat_of_long {n : Nat} (long : ¬n < 2 ^ 53) (range : InRange n) :
    Denotes (Float.ofNat n) (nearest n) := by
  have slow : Float.ofNat n = .ofModel (.pack (UnpackedFloat.ofScientific Format.binary64 n 0)) := by
    change Float.ofScientific n false 0 = _
    unfold Float.ofScientific
    rw [dif_neg (mt And.left long)]
    rfl
  have rounded := holds_ofScientific_or_beyond (n := n) (k := 0) (by omega) (by omega)
  rw [pow_zero, mul_one] at rounded
  exact ⟨_, rounded.resolve_right fun beyond => absurd range.2 (not_le.mpr beyond.1), slow⟩

/-- The float of a whole number denotes the nearest number to it. -/
theorem denotes_ofNat {n : Nat} (range : n = 0 ∨ InRange n) : Denotes (Float.ofNat n) (nearest n) := by
  rcases range with rfl | range
  · rw [Nat.cast_zero, nearest_zero]
    exact denotes_zero
  · have pos : 0 < n := Nat.cast_pos.mp range.pos
    by_cases short : n < 2 ^ 53
    · exact denotes_ofNat_of_short pos short
    · exact denotes_ofNat_of_long short range

theorem denotes_ofInt {n : ℤ} (range : n = 0 ∨ InRange |(n : ℚ)|) : Denotes (Float.ofInt n) (nearest n) := by
  cases n with
  | ofNat n =>
    refine denotes_ofNat (range.imp Int.ofNat.inj fun within => ?_)
    rw [Int.ofNat_eq_natCast, Int.cast_natCast, Nat.abs_cast] at within
    exact within
  | negSucc n =>
    have within := range.resolve_left (Int.negSucc_ne_zero n)
    rw [Int.cast_negSucc, abs_neg, Nat.abs_cast] at within
    have magnitude := denotes_ofNat (.inr within)
    have negated := magnitude.neg (nearest_pos within.pos).ne'
    rw [← nearest_neg] at negated
    rw [Int.cast_negSucc]
    exact negated

/-! ## Powers of ten -/

/-- The power of ten as a float denotes the power rounded, up to the greatest one that is finite. -/
theorem denotes_powerOfTen {k : Nat} (bounded : k ≤ 308) :
    Denotes (Float.ofScientific 1 false k) (nearest (10 ^ k)) := by
  by_cases short : k ≤ 22
  · -- The short powers are looked up in a table.
    have table : ∀ k : Fin 23, Float.ofScientific 1 false k = Float.ofNat (10 ^ k.val) := by decide +kernel
    have listed := table ⟨k, by omega⟩
    have range : InRange ((10 ^ k : Nat) : ℚ) := by
      have low : (1 : ℚ) ≤ 10 ^ k := one_le_pow₀ (by norm_num)
      have high : (10 : ℚ) ^ k ≤ 2 ^ (1023 : ℤ) :=
        calc (10 : ℚ) ^ k ≤ 10 ^ 22 := pow_le_pow_right₀ (by norm_num) short
          _ ≤ 2 ^ (74 : ℤ) := by norm_num
          _ ≤ 2 ^ (1023 : ℤ) := zpow_le_zpow_right₀ (by norm_num) (by norm_num)
      push_cast
      exact ⟨(zpow_le_one_of_nonpos₀ (by norm_num) (by norm_num)).trans low, high⟩
    have power := denotes_ofNat (.inr range)
    rw [← listed, Nat.cast_pow, Nat.cast_ofNat] at power
    exact power
  · have slow : Float.ofScientific 1 false k = .ofModel (.pack (UnpackedFloat.ofScientific Format.binary64 1 k)) := by
      unfold Float.ofScientific
      rw [dif_neg fun fast => short fast.2]
      rfl
    rcases holds_ofScientific_or_beyond (n := 1) one_pos (bounded.trans (by norm_num)) with holds | ⟨large, packed⟩
    · rw [Nat.cast_one, one_mul] at holds
      exact ⟨_, holds, slow⟩
    · rw [packed] at slow
      rcases bounded.lt_or_eq with below | rfl
      · have small : (10 : ℚ) ^ k ≤ 2 ^ (1023 : ℤ) :=
          calc (10 : ℚ) ^ k ≤ 10 ^ 307 := pow_le_pow_right₀ (by norm_num) (by omega)
            _ ≤ 2 ^ (1023 : ℤ) := by exact_mod_cast (by decide +kernel : 10 ^ 307 ≤ 2 ^ 1023)
        rw [Nat.cast_one, one_mul] at large
        exact absurd small (not_le.mpr large)
      · exact absurd slow (by decide +kernel)

end ClusterCost.Binary64
