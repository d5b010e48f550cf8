import ClusterCost.Proofs.Quantity.RoundTrip

/-!
# The words of the reader

The reader works in signed 128-bit words. On the way to numerator and divisor every word is checked, and what does not
fit is refused. The rounding that follows is not checked: it starts with the sum of numerator and divisor, and both can
be close to the end of a word at once.

`parse_words` says where that matters. As long as the sum fits, so do all the words of the rounding, and the text is read
as its fraction rounded away from zero, or refused. Where the sum does not fit, the reading is broken off.
-/
namespace ClusterCost.Quantity

open Text (Sign)

/-- A number fits a signed 128-bit word. -/
def InWord (n : Int) : Prop :=
  -2 ^ 127 ≤ n ∧ n ≤ 2 ^ 127 - 1

namespace Spelling

/-- The numbers that are formed on the way to numerator and divisor. -/
def fractionWords (p : Spelling) : List Nat :=
  let places := 10 ^ p.places.chars.length
  [p.whole.value, p.places.value, places, 10 ^ p.suffix.power.natAbs, p.suffix.scale, p.divisor,
    p.whole.value * places, p.whole.value * places + p.places.value, p.numerator]

/-- The numbers that are formed in rounding: the sum, the sum less one, the quotient, and the quotient with the sign. -/
def roundingWords (p : Spelling) : List Int :=
  let sum : Int := p.numerator + p.divisor
  let quotient := (sum - 1) / p.divisor
  [sum, sum - 1, quotient, p.sign.apply quotient]

/-! ## Words on the way to the fraction -/

/-- The digits as one number are no more than the numerator, and neither is any part of them. -/
theorem digits_le_numerator (p : Spelling) :
    p.whole.value * 10 ^ p.places.chars.length + p.places.value ≤ p.numerator :=
  Nat.le_mul_of_pos_right _ p.suffix.scale_pos

theorem power_le_of_fits {p : Spelling} (fits : p.Fits) : 10 ^ p.suffix.power.natAbs ≤ wordMax := by
  have scale_le := fits.scale_le
  rw [← wordMax_eq] at scale_le
  exact pow_le_wordMax_iff.mpr (Suffix.power_le_of_fits scale_le fits.steps.2)

/-- Where the fraction fits, so does every number that it is made from. -/
theorem Fits.fractionWords_le {p : Spelling} (fits : p.Fits) : ∀ n ∈ p.fractionWords, n ≤ 2 ^ 127 - 1 := by
  have digits_le := p.digits_le_numerator.trans fits.numerator_le
  have whole_le := fits.steps.1
  have power_le := power_le_of_fits fits
  have places_le : 10 ^ p.places.chars.length ≤ p.divisor :=
    Nat.le_mul_of_pos_right _ (by unfold Suffix.divisor; positivity)
  rw [wordMax_eq] at whole_le power_le
  unfold fractionWords
  simp only [List.forall_mem_cons, List.not_mem_nil, false_imp_iff, implies_true, and_true]
  have scale_le := fits.scale_le
  have divisor_le := fits.divisor_le
  have numerator_le := fits.numerator_le
  omega

/-! ## Words of the rounding -/

/-- The words of the rounding fit exactly if the first of them does, the sum. -/
theorem roundingWords_fit_iff (p : Spelling) :
    (∀ n ∈ p.roundingWords, InWord n) ↔ p.numerator + p.divisor ≤ 2 ^ 127 - 1 := by
  have pos := p.divisor_pos
  have quotient_nonneg : 0 ≤ ((p.numerator : Int) + p.divisor - 1) / p.divisor := Int.ediv_nonneg (by omega) (by omega)
  have quotient_le : ((p.numerator : Int) + p.divisor - 1) / p.divisor ≤ p.numerator + p.divisor - 1 :=
    Int.ediv_le_self _ (by omega)
  have signed_eq := p.sign.apply_eq (((p.numerator : Int) + p.divisor - 1) / p.divisor)
  unfold roundingWords InWord
  simp only [List.forall_mem_cons, List.not_mem_nil, false_imp_iff, implies_true, and_true]
  generalize ((p.numerator : Int) + p.divisor - 1) / p.divisor = quotient at *
  split at signed_eq <;> omega

/-- Rounding keeps the sign. -/
theorem sign_of_rounded (p : Spelling) :
    (p.sign ≠ .minus → 0 ≤ p.rounded) ∧ (p.sign = .minus → p.rounded ≤ 0) := by
  have nonneg : 0 ≤ ⌈(p.numerator / p.divisor : ℚ)⌉ := Int.ceil_nonneg (by positivity)
  unfold rounded
  rw [Sign.apply_eq]
  constructor
  · intro unsigned
    rw [if_neg unsigned]
    exact nonneg
  · intro minus
    rw [if_pos minus]
    omega

end Spelling

/-! ## Reading -/

/-- Every text is read in words of 128 bits. Texts that spell nothing and fractions that do not fit are refused, and the
fraction is made of words that fit. The words of the rounding fit exactly if the sum of numerator and divisor does. Where
they do, the text is read as the exact fraction rounded away from zero, or refused if that is out of range; where they do
not, the reading is broken off. So what is read is exact, and has the sign of its text. -/
theorem parse_words (s : String) :
    ((¬∃ p : Spelling, p.SpelledBy s) → ∃ flaw, parse s = .error (.reported ⟨s, flaw⟩)) ∧
    ∀ p : Spelling, p.SpelledBy s →
      (¬p.Fits → ∃ flaw, parse s = .error (.reported ⟨s, flaw⟩)) ∧
      (p.Fits →
        (∀ n ∈ p.fractionWords, InWord n) ∧
        ((∀ n ∈ p.roundingWords, InWord n) ↔ p.numerator + p.divisor ≤ 2 ^ 127 - 1) ∧
        (p.numerator + p.divisor ≤ 2 ^ 127 - 1 →
          (∃ q, parse s = .ok q ∧ q.milli = awayFromZero (1000 * p.amount)) ∨
            (∃ flaw, parse s = .error (.reported ⟨s, flaw⟩)) ∧
              ¬(minMilli ≤ awayFromZero (1000 * p.amount) ∧ awayFromZero (1000 * p.amount) ≤ maxMilli)) ∧
        (2 ^ 127 - 1 < p.numerator + p.divisor → parse s = .error .aborted)) ∧
      ∀ q, parse s = .ok q →
        q.milli = awayFromZero (1000 * p.amount) ∧ (p.sign ≠ .minus → 0 ≤ q.milli) ∧ (p.sign = .minus → q.milli ≤ 0) := by
  refine ⟨parse_refused_of_no_spelling, fun p spelled => ⟨parse_refused_of_unfit spelled, fun fits => ?_, fun q read => ?_⟩⟩
  · refine ⟨?_, p.roundingWords_fit_iff, fun room => ?_, fun full => ?_⟩
    · intro n member
      have small := fits.fractionWords_le n member
      unfold InWord
      omega
    · rw [← p.rounded_eq_awayFromZero]
      by_cases range : minMilli ≤ p.rounded ∧ p.rounded ≤ maxMilli
      · obtain ⟨q, read⟩ := parse_of_range spelled fits room range
        exact .inl ⟨q, read, ((parse_spelled_eq_ok_iff spelled).mp read).2.2⟩
      · exact .inr ⟨parse_refused_of_range spelled room range, range⟩
    · exact (parse_spelled_eq_aborted_iff spelled).mpr ⟨fits, full⟩
  · obtain ⟨-, -, value⟩ := (parse_spelled_eq_ok_iff spelled).mp read
    rw [value]
    exact ⟨p.rounded_eq_awayFromZero, p.sign_of_rounded⟩

/-- One milli-unit, written so that numerator and divisor are both the thirty-eighth power of ten. -/
def longMilli : Spelling :=
  { Spelling.ofNumber 100000000000000000000000000000000000 .one with
    suffix := .exponent false .minus (digitsOf 38) (digitsOf_ne_nil _) }

/-- A text of one milli-unit that fits and breaks off the reading. -/
theorem parse_longMilli :
    longMilli.SpelledBy "100000000000000000000000000000000000e-38" ∧ longMilli.Fits ∧ longMilli.rounded = 1 ∧
      parse "100000000000000000000000000000000000e-38" = .error .aborted := by
  have spelled : longMilli.SpelledBy "100000000000000000000000000000000000e-38" :=
    Spelling.spelledBy_iff.mpr (by decide +kernel)
  have broken : parse "100000000000000000000000000000000000e-38" = .error .aborted := by decide +kernel
  have numerator_eq : longMilli.numerator = 10 ^ 38 := by decide +kernel
  have divisor_eq : longMilli.divisor = 10 ^ 38 := by decide +kernel
  have rounded_eq : longMilli.rounded = Sign.none.apply ⌈((10 ^ 38 : Nat) / (10 ^ 38 : Nat) : ℚ)⌉ := by
    rw [Spelling.rounded, numerator_eq, divisor_eq]
    rfl
  refine ⟨spelled, ((parse_spelled_eq_aborted_iff spelled).mp broken).1, ?_, broken⟩
  rw [rounded_eq, div_self (by norm_num), Int.ceil_one]
  rfl

end ClusterCost.Quantity
