import ClusterCost.Proofs.Json.Underflow
import ClusterCost.Proofs.Quantity.Floats
import ClusterCost.Proofs.Quantity.Literal
import ClusterCost.Proofs.Quantity.RoundTrip

/-!
# Literals decoded as numbers and as texts

A literal can stand in a JSON text as a number or in quotes (`IsNumeral`). In quotes it is read exactly, unless its
fraction breaks off the reading; as a number it goes through floats, unless it is whole, and each of their roundings can
move it across a milli-unit. Floats come to an end near zero, far below what a fraction can denote: a literal down there
is refused in quotes, and as a number no more than a milli-unit is left of it.
-/
namespace ClusterCost.Quantity

open Binary64
open Text (Digits Sign)

namespace Spelling

variable {p : Spelling}

/-! ## Numbers that are not whole -/

/-- The milli-units that floats make of a literal, without its sign and before they are rounded to a whole number. -/
def floatMilli (p : Spelling) : ℚ :=
  gradual (1000 * p.numeral.value)

theorem value_nonneg (p : Spelling) : 0 ≤ p.numeral.value :=
  Json.Numeral.value_nonneg p.isDecimal_numeral

theorem floatMilli_nonneg (p : Spelling) : 0 ≤ p.floatMilli :=
  gradual_nonneg (mul_nonneg (by norm_num) p.value_nonneg)

theorem floatMilli_of_zero (zero : p.numeral.value = 0) : p.floatMilli = 0 := by
  rw [floatMilli, zero, mul_zero, gradual_zero]

theorem floatMilli_of_normal (least : 2 ^ (-1022 : ℤ) ≤ p.numeral.value) :
    p.floatMilli = nearest (1000 * p.numeral.value) := by
  have thousandfold := least.trans (le_mul_of_one_le_left p.value_nonneg (by norm_num : (1 : ℚ) ≤ 1000))
  apply gradual_of_least
  rw [abs_of_pos ((two_zpow_pos _).trans_le thousandfold)]
  exact thousandfold

theorem length_places_le (p : Spelling) : p.numeral.places.length ≤ 9 := by
  rw [places_numeral]
  exact p.places_length_le

/-- A float token is decoded as what floats make of the literal, rounded away from zero, if that is in the range. -/
theorem ofToken?_float (p : Spelling) :
    ofToken? (p.numeral.magnitude?.map fun x => .float (if p.numeral.negative then -x else x)) =
      ofMilli? (p.sign.apply ⌈p.floatMilli⌉) := by
  have negative_iff : p.numeral.negative = true ↔ p.sign = .minus := decide_eq_true_iff
  unfold ofToken?
  rcases Json.Numeral.magnitude?_spec p.isDecimal_numeral p.length_places_le with ⟨x, found, denotes⟩ | ⟨absent, large⟩
  · rw [found, Option.map_some, Option.bind_some, toOption_ofNumber_float]
    by_cases zero : p.numeral.value = 0
    -- Zero is zero with either sign.
    · rw [zero] at denotes
      obtain rfl := denotes.unique denotes_zero
      have nothing : ofMilli? (p.sign.apply ⌈p.floatMilli⌉) = some 0 := by
        rw [floatMilli_of_zero zero, Int.ceil_zero, Sign.apply_eq, neg_zero, ite_self]
        decide
      rw [nothing]
      split
      · exact ofFloat?_zero.2
      · exact ofFloat?_zero.1
    · rw [← awayFromZero_signed p.sign p.floatMilli_nonneg, floatMilli]
      by_cases minus : p.sign = .minus
      · rw [if_pos (negative_iff.mpr minus), if_pos minus, ← gradual_neg, ← mul_neg]
        exact ofFloat?_of_denotes (denotes.neg zero) (neg_ne_zero.mpr zero)
      · rw [if_neg (mt negative_iff.mp minus), if_neg minus]
        exact ofFloat?_of_denotes denotes zero
  · have normal : 2 ^ (-1022 : ℤ) ≤ p.numeral.value := (zpow_le_zpow_right₀ (by norm_num) (by norm_num)).trans large
    have thousandfold := large.trans (le_mul_of_one_le_left p.value_nonneg (by norm_num : (1 : ℚ) ≤ 1000))
    have rounded := two_zpow_le_nearest thousandfold
    rw [← floatMilli_of_normal normal] at rounded
    have beyond : 2 ^ (63 : ℤ) < p.floatMilli :=
      (zpow_lt_zpow_right₀ one_lt_two (by norm_num : (63 : ℤ) < 1023)).trans_le rounded
    rw [absent, ofMilli?_apply_of_large p.sign beyond]
    rfl

/-! ## How far floats move a literal -/

/-- The factor by which floats can change the milli-units of a literal: four roundings, and the digits left out. -/
def floatFactor : ℚ :=
  roundoff * (roundoff * (roundoff * roundoff) * (Json.leftOut * Json.leftOut))

theorem floatFactor_bounds : 1 ≤ floatFactor ∧ floatFactor - 1 ≤ 1 / 2 ^ 50 := by
  unfold floatFactor roundoff Json.leftOut
  norm_num

theorem near_floatMilli (numeral : p.IsNumeral) (keeps : p.numeral.KeepsDigits) :
    Near floatFactor p.floatMilli (1000 * p.magnitude) := by
  have rounds_nonneg := mul_nonneg roundoff_nonneg (mul_nonneg roundoff_nonneg roundoff_nonneg)
  have rest_nonneg := mul_nonneg Json.leftOut_nonneg Json.leftOut_nonneg
  have units := Json.Numeral.near_value p.isDecimal_numeral keeps
  rw [magnitude_numeral numeral] at units
  have milli := (Near.refl (by norm_num : (0 : ℚ) ≤ 1000)).mul units
  rw [one_mul] at milli
  have rounded : p.floatMilli = nearest (1000 * p.numeral.value) := by
    rcases Json.Numeral.value_eq_zero_or_least_le keeps with zero | least
    · rw [floatMilli_of_zero zero, zero, mul_zero, nearest_zero]
    · exact floatMilli_of_normal least
  rw [rounded]
  exact (near_nearest milli.left_nonneg).trans milli roundoff_nonneg (mul_nonneg rounds_nonneg rest_nonneg)

/-- Floats move the milli-units of a literal by no more than their part of two to the fiftieth. -/
theorem floatMilli_error (numeral : p.IsNumeral) (keeps : p.numeral.KeepsDigits) :
    |p.floatMilli - 1000 * p.magnitude| ≤ 1000 * p.magnitude / 2 ^ 50 := by
  obtain ⟨one_le, part_le⟩ := floatFactor_bounds
  have near := near_floatMilli numeral keeps
  have bound := mul_le_mul_of_nonneg_right part_le near.right_nonneg
  rw [div_mul_eq_mul_div, one_mul] at bound
  exact (near.abs_sub_le one_le).trans bound

/-- Digits are lost only where more than the 298th power of ten is divided out. -/
theorem keepsDigits_of_power (low : -298 ≤ p.suffix.power) : p.numeral.KeepsDigits := by
  have shift := Json.Numeral.shift_low p.length_places_le
  have written := p.written_numeral
  unfold Json.Numeral.KeepsDigits Json.Numeral.power
  simp only [Json.maxPower]
  omega

theorem keepsDigits_of_fits (fits : p.Fits) : p.numeral.KeepsDigits := by
  have scale_le := fits.scale_le
  rw [← wordMax_eq] at scale_le
  have power_le := Suffix.power_le_of_fits scale_le fits.steps.2
  apply keepsDigits_of_power
  omega

/-! ## Next to zero -/

section Low

variable (loses : ¬p.numeral.KeepsDigits)

include loses

/-- Of a literal that loses digits, no more than one milli-unit is left. -/
theorem ceil_floatMilli_of_low : ⌈p.floatMilli⌉ = 0 ∨ ⌈p.floatMilli⌉ = 1 := by
  have value_le := Json.Numeral.value_le_of_low p.isDecimal_numeral loses
  have milli_le : p.floatMilli ≤ 1 := by
    rcases p.value_nonneg.eq_or_lt with zero | pos
    · rw [floatMilli_of_zero zero.symm]
      exact zero_le_one
    · apply gradual_le_two_zpow (k := 0) (mul_pos (by norm_num) pos) _ (by norm_num)
      calc 1000 * p.numeral.value ≤ 2 ^ (10 : ℤ) * 2 ^ (-959 : ℤ) :=
            mul_le_mul (by norm_num) value_le p.value_nonneg (by positivity)
        _ = 2 ^ (-949 : ℤ) := (two_zpow_add _ _).symm
        _ ≤ 2 ^ (0 : ℤ) := zpow_le_zpow_right₀ (by norm_num) (by norm_num)
  have nonneg : 0 ≤ ⌈p.floatMilli⌉ := Int.ceil_nonneg p.floatMilli_nonneg
  have le : ⌈p.floatMilli⌉ ≤ 1 := Int.ceil_le.mpr (by exact_mod_cast milli_le)
  omega

/-- From the least float on, a milli-unit is left. -/
theorem ceil_floatMilli_of_kept (numeral : p.IsNumeral) (written : -(Json.maxPower : Int) ≤ p.suffix.power)
    (large : 2 ^ (-1074 : ℤ) ≤ p.magnitude) : ⌈p.floatMilli⌉ = 1 := by
  rw [← magnitude_numeral numeral] at large
  rw [← written_numeral] at written
  have low : p.numeral.power < -307 := by
    unfold Json.Numeral.KeepsDigits at loses
    omega
  have value_pos := Json.Numeral.value_pos_of_low p.isDecimal_numeral written low large
  have value_le := Json.Numeral.value_le_of_low p.isDecimal_numeral loses
  have milli_pos : 0 < p.floatMilli := by
    rcases Json.Numeral.magnitude?_spec p.isDecimal_numeral p.length_places_le with ⟨x, -, denotes⟩ | ⟨-, beyond⟩
    · have least := denotes.least_le value_pos.ne'
      rw [abs_of_pos value_pos] at least
      have half : (2 : ℚ) ^ (-1075 : ℤ) < 2 ^ (-1074 : ℤ) := zpow_lt_zpow_right₀ one_lt_two (by norm_num)
      exact gradual_pos (half.trans_le (least.trans (le_mul_of_one_le_left value_pos.le (by norm_num))))
    · exact absurd (beyond.trans value_le) (not_le.mpr (zpow_lt_zpow_right₀ one_lt_two (by norm_num)))
  have ceil_pos : 0 < ⌈p.floatMilli⌉ := Int.ceil_pos.mpr milli_pos
  have ends := ceil_floatMilli_of_low loses
  omega

/-- From a quarter of the least float down, nothing is left. -/
theorem ceil_floatMilli_of_lost (numeral : p.IsNumeral) (small : p.magnitude ≤ 2 ^ (-1076 : ℤ)) :
    ⌈p.floatMilli⌉ = 0 := by
  rw [← magnitude_numeral numeral] at small
  rw [floatMilli_of_zero (Json.Numeral.value_of_low_eq_zero p.isDecimal_numeral loses small), Int.ceil_zero]

end Low

/-! ## Whole literals -/

def IsWhole (p : Spelling) : Prop :=
  p.fraction = none ∧ ∃ u, p.suffix = .unit u

def wholeUnits (p : Spelling) : Int :=
  p.sign.apply p.whole.value

theorem keepsDigits_of_whole (whole : p.IsWhole) : p.numeral.KeepsDigits := by
  obtain ⟨-, u, suffix_eq⟩ := whole
  apply keepsDigits_of_power
  rw [suffix_eq, Suffix.power]
  norm_num

theorem integer?_of_not_whole (broken : ¬p.IsWhole) : p.numeral.integer? = none := by
  unfold Json.Numeral.integer?
  split
  · next no_fraction no_exponent =>
    refine absurd ⟨?_, ?_⟩ broken
    · exact Option.map_eq_none_iff.mp no_fraction
    · unfold Spelling.numeral at no_exponent
      cases suffix_eq : p.suffix with
      | unit u => exact ⟨u, rfl⟩
      | exponent capital sign digits nonempty =>
        rw [suffix_eq] at no_exponent
        cases no_exponent
  · rfl

theorem integer?_of_whole (whole : p.IsWhole) : p.numeral.integer? =
    if p.sign = .minus then
      if 0 < p.whole.value ∧ p.whole.value ≤ Json.maxSigned + 1 then some (-(p.whole.value : Int)) else none
    else if p.whole.value ≤ Json.maxUnsigned then some (p.whole.value : Int) else none := by
  obtain ⟨no_fraction, u, suffix_eq⟩ := whole
  have fraction_eq : p.numeral.fraction = none := by
    unfold Spelling.numeral
    rw [no_fraction]
    rfl
  have exponent_eq : p.numeral.exponent = none := by
    unfold Spelling.numeral
    rw [suffix_eq]
  have whole_eq : Text.digitsValue p.numeral.whole = p.whole.value := Text.digitsValue_eq p.whole
  have negative_iff : p.numeral.negative = true ↔ p.sign = .minus := decide_eq_true_iff
  unfold Json.Numeral.integer?
  rw [fraction_eq, exponent_eq]
  simp only [whole_eq, negative_iff]

theorem magnitude_of_whole (numeral : p.IsNumeral) (whole : p.IsWhole) : p.magnitude = p.whole.value := by
  obtain ⟨no_fraction, u, suffix_eq⟩ := whole
  unfold magnitude places
  rw [no_fraction, suffix_eq, numeral.suffix u suffix_eq]
  norm_num [Suffix.multiplier, UnitSuffix.scale, Digits.empty, Digits.value, Text.placeValue]

/-- Zero counts no units as a float, and what does not fit 64 bits is beyond the range as a float as well. -/
theorem ofMilli?_floatMilli_of_whole (numeral : p.IsNumeral) (whole : p.IsWhole)
    (apart : p.whole.value = 0 ∨ 2 ^ 63 ≤ p.whole.value ∧ (p.sign = .minus → 2 ^ 63 < p.whole.value)) :
    ofMilli? (p.sign.apply ⌈p.floatMilli⌉) =
      if minMilli ≤ p.wholeUnits ∧ p.wholeUnits ≤ maxMilli then some (ofUnits p.wholeUnits) else none := by
  have units_eq : p.wholeUnits = if p.sign = .minus then -(p.whole.value : Int) else p.whole.value := Sign.apply_eq _ _
  have error := floatMilli_error numeral (keepsDigits_of_whole whole)
  rw [magnitude_of_whole numeral whole] at error
  rcases apart with zero | ⟨far, farther⟩
  · have units_zero : p.wholeUnits = 0 := by
      rw [units_eq, zero, Nat.cast_zero, neg_zero, ite_self]
    rw [zero, Nat.cast_zero, mul_zero, zero_div, sub_zero] at error
    rw [abs_nonpos_iff.mp error, Int.ceil_zero, Sign.apply_eq, neg_zero, ite_self, units_zero]
    decide
  · have far' : (9223372036854775808 : ℚ) ≤ p.whole.value := by exact_mod_cast far
    have low := (abs_le.mp error).1
    have beyond : (2 : ℚ) ^ (63 : ℤ) < p.floatMilli := by
      norm_num at low ⊢
      linarith
    have outside : ¬(minMilli ≤ p.wholeUnits ∧ p.wholeUnits ≤ maxMilli) := by
      simp only [minMilli, maxMilli]
      rw [units_eq]
      split
      · next minus =>
        have beyond := farther minus
        omega
      · omega
    rw [ofMilli?_apply_of_large p.sign beyond, if_neg outside]

theorem ofToken?_of_whole (numeral : p.IsNumeral) (whole : p.IsWhole) : ofToken? p.numeral.toNumber? =
    if minMilli ≤ p.wholeUnits ∧ p.wholeUnits ≤ maxMilli then some (ofUnits p.wholeUnits) else none := by
  have units_eq : p.wholeUnits = if p.sign = .minus then -(p.whole.value : Int) else p.whole.value := Sign.apply_eq _ _
  -- Zero with a sign and what does not fit 64 bits are no integers of the tree, and go through floats.
  have by_float := ofMilli?_floatMilli_of_whole numeral whole
  rw [Json.Numeral.toNumber?, integer?_of_whole whole]
  unfold Json.maxSigned Json.maxUnsigned
  by_cases minus : p.sign = .minus
  · rw [if_pos minus] at units_eq ⊢
    by_cases fits : 0 < p.whole.value ∧ p.whole.value ≤ 9223372036854775807 + 1
    · have inside : minMilli ≤ p.wholeUnits ∧ p.wholeUnits ≤ maxMilli := by
        rw [units_eq]
        simp only [minMilli, maxMilli]
        omega
      rw [if_pos fits, ← units_eq, if_pos inside]
      unfold ofToken?
      rw [Option.bind_some, toOption_ofNumber_integer, if_pos inside]
    · rw [if_neg fits]
      exact p.ofToken?_float.trans (by_float (by omega))
  · rw [if_neg minus] at units_eq ⊢
    by_cases fits : p.whole.value ≤ 18446744073709551615
    · rw [if_pos fits, ← units_eq]
      unfold ofToken?
      rw [Option.bind_some, toOption_ofNumber_integer]
      by_cases inside : minMilli ≤ p.wholeUnits ∧ p.wholeUnits ≤ maxMilli
      · rw [if_pos inside, if_pos inside]
      · rw [if_neg inside, if_neg inside]
        rw [units_eq] at inside ⊢
        simp only [minMilli, maxMilli] at inside
        apply ofFloat?_ofInt_of_large <;> omega
    · rw [if_neg fits]
      exact p.ofToken?_float.trans (by_float (by omega))

/-- A whole literal counts whole units, if it fits 64 bits, and is no quantity otherwise. -/
theorem decode_bare_of_whole (numeral : p.IsNumeral) (whole : p.IsWhole) : decode p.bare =
    if minMilli ≤ p.wholeUnits ∧ p.wholeUnits ≤ maxMilli then .quantity (ofUnits p.wholeUnits) else .refused := by
  rw [decode_bare numeral, ofToken?_of_whole numeral whole, apply_ite Decoded.ofOption]
  rfl

/-- A literal that is not whole is decoded as what floats make of it. -/
theorem decode_bare_of_not_whole (numeral : p.IsNumeral) (broken : ¬p.IsWhole) :
    decode p.bare = .ofMilli (p.sign.apply ⌈p.floatMilli⌉) := by
  rw [decode_bare numeral, Json.Numeral.toNumber?, integer?_of_not_whole broken]
  exact congrArg Decoded.ofOption p.ofToken?_float

/-! ## Texts -/

theorem spelledBy_bare (p : Spelling) : p.SpelledBy p.bare :=
  ⟨[], [], by simp [Text.Blanks], by simp [Text.Blanks], by simp [bare]⟩

theorem rounded_eq (p : Spelling) : p.rounded = p.sign.apply ⌈1000 * p.magnitude⌉ := by
  rw [rounded, numerator_div_divisor]

/-- In quotes, a literal that fits and leaves room is decoded as its exact milli-units, rounded away from zero. -/
theorem decode_quoted_of_room (numeral : p.IsNumeral) (fits : p.Fits) (room : p.numerator + p.divisor ≤ 2 ^ 127 - 1) :
    decode p.quoted = .ofMilli (p.sign.apply ⌈1000 * p.magnitude⌉) := by
  rw [decode_quoted numeral, ← rounded_eq, Decoded.ofMilli]
  by_cases range : minMilli ≤ p.rounded ∧ p.rounded ≤ maxMilli
  · obtain ⟨q, read⟩ := parse_of_range p.spelledBy_bare fits room range
    have milli_eq := ((parse_spelled_eq_ok_iff p.spelledBy_bare).mp read).2.2
    rw [read, ofMilli?_eq_some_iff.mpr milli_eq]
    rfl
  · obtain ⟨flaw, refused⟩ := parse_refused_of_range p.spelledBy_bare room range
    rw [refused, ofMilli?_eq_none range]
    rfl

theorem decode_quoted_of_full (numeral : p.IsNumeral) (fits : p.Fits) (full : 2 ^ 127 - 1 < p.numerator + p.divisor) :
    decode p.quoted = .aborted := by
  rw [decode_quoted numeral, (parse_spelled_eq_aborted_iff p.spelledBy_bare).mpr ⟨fits, full⟩]

theorem decode_quoted_of_unfit (numeral : p.IsNumeral) (unfit : ¬p.Fits) : decode p.quoted = .refused := by
  obtain ⟨flaw, refused⟩ := parse_refused_of_unfit p.spelledBy_bare unfit
  rw [decode_quoted numeral, refused]

/-- In quotes, a whole literal is decoded as a thousand times its number, if that is in the range. -/
theorem decode_quoted_of_whole (numeral : p.IsNumeral) (whole : p.IsWhole) :
    decode p.quoted = .ofMilli (1000 * p.wholeUnits) := by
  have milli_eq : p.sign.apply ⌈1000 * p.magnitude⌉ = 1000 * p.wholeUnits := by
    have ceil_eq : ⌈1000 * p.magnitude⌉ = 1000 * (p.whole.value : Int) := by
      rw [magnitude_of_whole numeral whole]
      exact_mod_cast Int.ceil_intCast (R := ℚ) (1000 * (p.whole.value : Int))
    unfold wholeUnits
    rw [ceil_eq, Sign.apply_eq, Sign.apply_eq]
    split
    · exact (Int.mul_neg _ _).symm
    · rfl
  obtain ⟨no_fraction, u, suffix_eq⟩ := whole
  have numerator_eq : p.numerator = p.whole.value * 1000 := by
    unfold numerator places
    rw [no_fraction, suffix_eq, numeral.suffix u suffix_eq]
    simp [Digits.empty, Digits.value, Text.placeValue, Suffix.scale, UnitSuffix.scale]
  have divisor_eq : p.divisor = 1 := by
    unfold divisor places
    rw [no_fraction, suffix_eq]
    simp [Digits.empty, Suffix.divisor, Suffix.power]
  by_cases fits : p.Fits
  · have numerator_le := fits.numerator_le
    rw [decode_quoted_of_room numeral fits (by omega), milli_eq]
  · have large : 2 ^ 127 - 1 < p.numerator := by
      by_contra small
      refine fits ⟨?_, by omega, by omega⟩
      rw [suffix_eq, numeral.suffix u suffix_eq]
      decide
    have outside : ¬(minMilli ≤ 1000 * p.wholeUnits ∧ 1000 * p.wholeUnits ≤ maxMilli) := by
      unfold wholeUnits
      rw [Sign.apply_eq]
      simp only [minMilli, maxMilli]
      split <;> omega
    rw [decode_quoted_of_unfit numeral fits, Decoded.ofMilli, ofMilli?_eq_none outside]
    rfl

/-! ## Alike -/

/-- A whole literal is decoded alike unless its number fits 64 bits and a thousand times its number does not. -/
theorem whole_alike_iff (numeral : p.IsNumeral) (whole : p.IsWhole) : decode p.bare = decode p.quoted ↔
    (minMilli ≤ p.wholeUnits ∧ p.wholeUnits ≤ maxMilli →
      minMilli ≤ 1000 * p.wholeUnits ∧ 1000 * p.wholeUnits ≤ maxMilli) := by
  rw [decode_bare_of_whole numeral whole, decode_quoted_of_whole numeral whole, Decoded.ofMilli]
  by_cases inside : minMilli ≤ 1000 * p.wholeUnits ∧ 1000 * p.wholeUnits ≤ maxMilli
  · have read : ofMilli? (1000 * p.wholeUnits) = some (ofUnits p.wholeUnits) :=
      ofMilli?_eq_some_iff.mpr (saturate_of_mem inside.1 inside.2)
    have units_inside : minMilli ≤ p.wholeUnits ∧ p.wholeUnits ≤ maxMilli := by
      simp only [minMilli, maxMilli] at inside ⊢
      omega
    rw [read, if_pos units_inside]
    exact iff_of_true rfl fun _ => inside
  · rw [ofMilli?_eq_none inside]
    split
    · next units_inside => exact iff_of_false Decoded.noConfusion fun kept => inside (kept units_inside)
    · next outside => exact iff_of_true rfl fun units_inside => absurd units_inside outside

/-- Numbers that are closer to each other than one of them is to a whole number are rounded up alike. -/
theorem ceil_eq_of_close {x y ε : ℚ} (close : |x - y| ≤ ε) (apart : ∀ n : ℤ, ε < |y - n|) : ⌈x⌉ = ⌈y⌉ := by
  have le_ceil := Int.le_ceil y
  have ceil_lt := Int.ceil_lt_add_one y
  have above := apart ⌈y⌉
  have below := apart (⌈y⌉ - 1)
  rw [abs_sub_comm, abs_of_nonneg (by linarith)] at above
  push_cast at below
  rw [abs_of_pos (by linarith)] at below
  obtain ⟨low, high⟩ := abs_le.mp close
  rw [Int.ceil_eq_iff]
  constructor <;> linarith

/-- A literal whose milli-units are further from every whole number than floats can move them is decoded alike. -/
theorem alike_of_apart (numeral : p.IsNumeral) (broken : ¬p.IsWhole) (fits : p.Fits)
    (room : p.numerator + p.divisor ≤ 2 ^ 127 - 1)
    (apart : ∀ n : ℤ, 1000 * p.magnitude / 2 ^ 50 < |1000 * p.magnitude - n|) : decode p.bare = decode p.quoted := by
  rw [decode_bare_of_not_whole numeral broken, decode_quoted_of_room numeral fits room,
    ceil_eq_of_close (floatMilli_error numeral (keepsDigits_of_fits fits)) apart]

theorem exists_ofMilli_apply (sign : Sign) {n : Int} (nonneg : 0 ≤ n) (small : n ≤ 2 ^ 62) :
    ∃ q, Decoded.ofMilli (sign.apply n) = .quantity q ∧ q.milli = sign.apply n := by
  have inside : minMilli ≤ sign.apply n ∧ sign.apply n ≤ maxMilli := by
    rw [Sign.apply_eq]
    simp only [minMilli, maxMilli]
    split <;> omega
  exact ⟨⟨sign.apply n, inside.1, inside.2⟩, congrArg Decoded.ofOption (dif_pos inside), rfl⟩

/-- Up to the fiftieth power of two, the milli-units differ by no more than one. -/
theorem close_of_small (numeral : p.IsNumeral) (broken : ¬p.IsWhole) (fits : p.Fits)
    (room : p.numerator + p.divisor ≤ 2 ^ 127 - 1) (small : 1000 * p.magnitude ≤ 2 ^ 50) :
    ∃ q q', decode p.quoted = .quantity q ∧ decode p.bare = .quantity q' ∧ |q'.milli - q.milli| ≤ 1 := by
  have keeps := keepsDigits_of_fits fits
  have milli_nonneg := (near_floatMilli numeral keeps).right_nonneg
  have error_le : 1000 * p.magnitude / 2 ^ 50 ≤ 1 := by
    rw [div_le_one (by norm_num)]
    exact small
  obtain ⟨low, high⟩ := abs_le.mp ((floatMilli_error numeral keeps).trans error_le)
  have ceil_nonneg : 0 ≤ ⌈1000 * p.magnitude⌉ := Int.ceil_nonneg milli_nonneg
  have ceil_nonneg' : 0 ≤ ⌈p.floatMilli⌉ := Int.ceil_nonneg p.floatMilli_nonneg
  have ceil_le : ⌈1000 * p.magnitude⌉ ≤ 2 ^ 50 := Int.ceil_le.mpr (by exact_mod_cast small)
  have above : ⌈p.floatMilli⌉ ≤ ⌈1000 * p.magnitude⌉ + 1 := by
    rw [← Int.ceil_add_one]
    exact Int.ceil_le_ceil (by linarith)
  have below : ⌈1000 * p.magnitude⌉ ≤ ⌈p.floatMilli⌉ + 1 := by
    rw [← Int.ceil_add_one]
    exact Int.ceil_le_ceil (by linarith)
  obtain ⟨q, read, milli_eq⟩ := exists_ofMilli_apply p.sign ceil_nonneg (by omega)
  obtain ⟨q', read', milli_eq'⟩ := exists_ofMilli_apply p.sign ceil_nonneg' (by omega)
  rw [decode_bare_of_not_whole numeral broken, decode_quoted_of_room numeral fits room]
  refine ⟨q, q', read, read', ?_⟩
  rw [milli_eq, milli_eq', Sign.apply_eq, Sign.apply_eq, abs_le]
  split <;> omega

/-- Without an exponent, milli-units have no more than six places. -/
theorem exists_micro (one : p.suffix = .unit .one) : ∃ n : ℤ, 10 ^ 6 * (1000 * p.magnitude) = n := by
  have few := p.places_length_le
  have split_pow : (10 : ℚ) ^ 9 = 10 ^ p.places.chars.length * 10 ^ (9 - p.places.chars.length) := by
    rw [← pow_add, Nat.add_sub_cancel' few]
  have multiplier_eq : p.suffix.multiplier = 1 := by
    rw [one]
    norm_num [Suffix.multiplier, UnitSuffix.scale]
  refine ⟨(p.whole.value * 10 ^ p.places.chars.length + p.places.value) * 10 ^ (9 - p.places.chars.length), ?_⟩
  have nine : (10 : ℚ) ^ 6 * (1000 * p.magnitude) = 10 ^ 9 * p.magnitude := by ring
  have power_pos : (0 : ℚ) < 10 ^ p.places.chars.length := by positivity
  unfold magnitude at nine ⊢
  rw [nine, split_pow, multiplier_eq]
  push_cast
  field_simp

/-- A literal of up to a million without an exponent is decoded alike if its milli-units are not whole. -/
theorem alike_of_plain (numeral : p.IsNumeral) (one : p.suffix = .unit .one) (small : p.magnitude ≤ 10 ^ 6)
    (not_whole : ∀ n : ℤ, 1000 * p.magnitude ≠ n) : decode p.bare = decode p.quoted := by
  have broken : ¬p.IsWhole := by
    intro whole
    apply not_whole (1000 * p.whole.value)
    rw [magnitude_of_whole numeral whole]
    push_cast
    rfl
  have divisor_le : p.divisor ≤ 10 ^ 9 := by
    unfold divisor
    rw [one]
    simp only [Suffix.divisor, Suffix.power, neg_zero, Int.toNat_zero, pow_zero, Nat.mul_one]
    exact Nat.pow_le_pow_right (by norm_num) p.places_length_le
  have numerator_le : p.numerator ≤ 10 ^ 18 := by
    have divisor_pos : (0 : ℚ) < p.divisor := Nat.cast_pos.mpr p.divisor_pos
    have divisor_le' : (p.divisor : ℚ) ≤ 10 ^ 9 := by exact_mod_cast divisor_le
    have numerator_eq := p.numerator_div_divisor
    rw [div_eq_iff divisor_pos.ne'] at numerator_eq
    have bound : (p.numerator : ℚ) ≤ 10 ^ 18 := by
      rw [numerator_eq]
      calc 1000 * p.magnitude * p.divisor ≤ 10 ^ 9 * 10 ^ 9 :=
            mul_le_mul (by linarith) divisor_le' divisor_pos.le (by norm_num)
        _ = 10 ^ 18 := by norm_num
    exact_mod_cast bound
  have fits : p.Fits := ⟨by rw [one]; decide, by omega, by omega⟩
  apply alike_of_apart numeral broken fits (by omega)
  intro n
  -- In millionths the milli-units are whole, so they are a millionth or more from whole ones; floats move them by less.
  obtain ⟨m, micro_eq⟩ := exists_micro one
  have different : m - 10 ^ 6 * n ≠ 0 := by
    intro same
    apply not_whole n
    have same' : (m : ℚ) = 10 ^ 6 * n := by exact_mod_cast sub_eq_zero.mp same
    rw [← micro_eq] at same'
    exact mul_left_cancel₀ (by norm_num) same'
  have one_le : (1 : ℚ) ≤ |(m : ℚ) - 10 ^ 6 * n| := by exact_mod_cast Int.one_le_abs different
  have scaled_eq : |(m : ℚ) - 10 ^ 6 * n| = 10 ^ 6 * |1000 * p.magnitude - n| := by
    rw [← micro_eq, ← mul_sub, abs_mul, abs_of_pos (by norm_num : (0 : ℚ) < 10 ^ 6)]
  rw [scaled_eq] at one_le
  norm_num at small one_le ⊢
  linarith

/-! ## Numbers and texts -/

/-- How a literal is decoded in quotes and as a number, and where the two agree. -/
structure Decoding (p : Spelling) : Prop where
  /-- In quotes, the milli-units are exact and rounded away from zero once. -/
  exact : p.Fits → p.numerator + p.divisor ≤ 2 ^ 127 - 1 → decode p.quoted = .ofMilli (p.sign.apply ⌈1000 * p.magnitude⌉)
  /-- In quotes, a sum of numerator and divisor that leaves its word breaks off the decoding. -/
  aborted : p.Fits → 2 ^ 127 - 1 < p.numerator + p.divisor → decode p.quoted = .aborted
  /-- In quotes, a fraction that does not fit is refused. -/
  refused : ¬p.Fits → decode p.quoted = .refused
  /-- A whole number counts units, and stops at the ends of the range. -/
  whole : p.IsWhole → decode p.bare =
    if minMilli ≤ p.wholeUnits ∧ p.wholeUnits ≤ maxMilli then .quantity (ofUnits p.wholeUnits) else .refused
  /-- Any other number goes through floats and is rounded away from zero then. -/
  float : ¬p.IsWhole → decode p.bare = .ofMilli (p.sign.apply ⌈p.floatMilli⌉)
  /-- Floats move the milli-units by no more than their part of two to the fiftieth, as long as they keep the digits. -/
  error : p.numeral.KeepsDigits → |p.floatMilli - 1000 * p.magnitude| ≤ 1000 * p.magnitude / 2 ^ 50
  /-- All literals that fit keep their digits, and so do all that divide out no more than the 298th power of ten. -/
  keeps : p.Fits ∨ -298 ≤ p.suffix.power → p.numeral.KeepsDigits
  /-- Of any other literal no more than one milli-unit is left. -/
  low : ¬p.numeral.KeepsDigits → ⌈p.floatMilli⌉ = 0 ∨ ⌈p.floatMilli⌉ = 1
  /-- It is left from the least float on, unless the exponent is below all 32-bit numbers. -/
  kept : ¬p.numeral.KeepsDigits → -(Json.maxPower : Int) ≤ p.suffix.power → 2 ^ (-1074 : ℤ) ≤ p.magnitude →
    ⌈p.floatMilli⌉ = 1
  /-- It is lost from a quarter of the least float down. -/
  lost : ¬p.numeral.KeepsDigits → p.magnitude ≤ 2 ^ (-1076 : ℤ) → ⌈p.floatMilli⌉ = 0
  /-- A whole number is decoded alike unless it fits 64 bits and its milli-units do not. -/
  whole_alike : p.IsWhole → (decode p.bare = decode p.quoted ↔
    (minMilli ≤ p.wholeUnits ∧ p.wholeUnits ≤ maxMilli →
      minMilli ≤ 1000 * p.wholeUnits ∧ 1000 * p.wholeUnits ≤ maxMilli))
  /-- Any other number is decoded alike if no whole number of milli-units is as close as floats can move it. -/
  apart_alike : ¬p.IsWhole → p.Fits → p.numerator + p.divisor ≤ 2 ^ 127 - 1 →
    (∀ n : ℤ, 1000 * p.magnitude / 2 ^ 50 < |1000 * p.magnitude - n|) → decode p.bare = decode p.quoted
  /-- This holds of every number up to a million without an exponent whose milli-units are not whole. -/
  plain_alike : p.suffix = .unit .one → p.magnitude ≤ 10 ^ 6 → (∀ n : ℤ, 1000 * p.magnitude ≠ n) →
    decode p.bare = decode p.quoted
  /-- Otherwise the two are no more than one milli-unit apart, up to the fiftieth power of two. -/
  close : ¬p.IsWhole → p.Fits → p.numerator + p.divisor ≤ 2 ^ 127 - 1 → 1000 * p.magnitude ≤ 2 ^ 50 →
    ∃ q q', decode p.quoted = .quantity q ∧ decode p.bare = .quantity q' ∧ |q'.milli - q.milli| ≤ 1

/-- Every literal that is a number and a quantity text is decoded exactly in quotes, if it fits and does not break off the
decoding, and through floats as a number, unless it is whole. -/
theorem decoding_of_numeral (numeral : p.IsNumeral) : p.Decoding where
  exact := decode_quoted_of_room numeral
  aborted := decode_quoted_of_full numeral
  refused := decode_quoted_of_unfit numeral
  whole := decode_bare_of_whole numeral
  float := decode_bare_of_not_whole numeral
  error := floatMilli_error numeral
  keeps := Or.rec keepsDigits_of_fits keepsDigits_of_power
  low := ceil_floatMilli_of_low
  kept loses := ceil_floatMilli_of_kept loses numeral
  lost loses := ceil_floatMilli_of_lost loses numeral
  whole_alike := whole_alike_iff numeral
  apart_alike := alike_of_apart numeral
  plain_alike := alike_of_plain numeral
  close := close_of_small numeral

def halfBelow : Spelling where
  sign := .minus
  whole := digitsOf 0
  fraction := some ⟨['0', '0', '0', '5'], List.all_eq_true.mp (by decide)⟩
  suffix := .unit .one
  nonempty := .inl (digitsOf_ne_nil 0)
  length_le _ places := Option.some.inj places ▸ (by decide : 4 ≤ 9)

/-- Half a milli-unit below zero is decoded alike. -/
theorem decode_halfBelow :
    halfBelow.bare = "-0.0005" ∧ halfBelow.quoted = "\"-0.0005\"" ∧ decode "-0.0005" = decode "\"-0.0005\"" := by
  have numeral : halfBelow.IsNumeral := {
    sign_ne := by decide
    leads := .inl rfl
    places := fun ds places => Option.some.inj places ▸ List.cons_ne_nil _ _
    suffix := fun u unit_eq => (Suffix.unit.inj unit_eq).symm }
  have bare_eq : halfBelow.bare = "-0.0005" := by decide +kernel
  have quoted_eq : halfBelow.quoted = "\"-0.0005\"" := by decide +kernel
  have magnitude_eq : halfBelow.magnitude = 1 / 2000 := by decide +kernel
  have alike := (decoding_of_numeral numeral).plain_alike rfl (by norm_num [magnitude_eq]) fun n same => by
    rw [magnitude_eq] at same
    have doubled : (1 : ℚ) = 2 * n := by linarith
    have doubled' : (1 : ℤ) = 2 * n := by exact_mod_cast doubled
    omega
  rw [bare_eq, quoted_eq] at alike
  exact ⟨bare_eq, quoted_eq, alike⟩

end Spelling

/-- A literal that is decoded as more when it is a number: as floats, a thousand times the number is not whole. -/
theorem decode_sevenMilli :
    decode "\"2.007\"" = .quantity (saturate 2007) ∧ decode "2.007" = .quantity (saturate 2008) := by
  decide +kernel

end ClusterCost.Quantity
