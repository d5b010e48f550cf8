import ClusterCost.Proofs.Quantity.Scales
import Mathlib.Tactic.FieldSimp
import Mathlib.Tactic.Linarith
import Mathlib.Tactic.Positivity
import Mathlib.Tactic.Push
import Mathlib.Tactic.Ring

/-!
# Reading quantities

The reader accepts exactly the spellings whose fraction of milli-units fits, and reads the fraction rounded away from
zero (`parse_spelling`). The result is compared with the rational number that the spelling denotes, which is defined
from place values and says nothing of how it is read.

The reader rounds in a signed 128-bit word, which also has to hold the sum of numerator and divisor. A fraction that fits
while that sum does not breaks off the reading (`parse_eq_aborted_iff`), and nothing else does.
-/
namespace ClusterCost.Quantity

open Text (Digits Sign)

/-! ## The fraction and the number it stands for -/

/-- The factor of a suffix in milli-units, as a fraction. -/
theorem Suffix.scale_div_divisor (s : Suffix) : (s.scale / s.divisor : ℚ) = 1000 * s.multiplier := by
  cases s with
  | unit u =>
    have divisor_eq : (Suffix.unit u).divisor = 1 := rfl
    rw [divisor_eq, Suffix.multiplier, Suffix.scale]
    field_simp
    norm_num
  | exponent capital sign ds nonempty =>
    rw [Suffix.divisor, Suffix.multiplier, Suffix.scale]
    obtain ⟨n, power_eq | power_eq⟩ := (Suffix.exponent capital sign ds nonempty).power.eq_nat_or_neg
    · simp [power_eq]
    · simp [power_eq, div_eq_mul_inv]

theorem Suffix.multiplier_nonneg (s : Suffix) : 0 ≤ s.multiplier := by
  cases s with
  | unit u =>
    rw [multiplier]
    positivity
  | exponent capital sign ds nonempty => exact zpow_nonneg (by norm_num) _

namespace Spelling

theorem divisor_pos (p : Spelling) : 0 < p.divisor := by
  unfold divisor Suffix.divisor
  positivity

theorem magnitude_nonneg (p : Spelling) : 0 ≤ p.magnitude := by
  have multiplier_nonneg := p.suffix.multiplier_nonneg
  unfold magnitude
  positivity

/-- Numerator over divisor is the magnitude in milli-units. -/
theorem numerator_div_divisor (p : Spelling) : (p.numerator / p.divisor : ℚ) = 1000 * p.magnitude := by
  have places_pos : (0 : ℚ) < 10 ^ p.places.chars.length := by positivity
  have scaled := p.suffix.scale_div_divisor
  unfold numerator divisor magnitude
  push_cast
  calc ((p.whole.value * 10 ^ p.places.chars.length + p.places.value) * p.suffix.scale /
        (10 ^ p.places.chars.length * p.suffix.divisor) : ℚ)
      = (p.whole.value + p.places.value / 10 ^ p.places.chars.length) * (p.suffix.scale / p.suffix.divisor) := by
        field_simp
    _ = 1000 * ((p.whole.value + p.places.value / 10 ^ p.places.chars.length) * p.suffix.multiplier) := by
        rw [scaled]
        ring

/-- The rounded fraction is a thousand times the denoted number, rounded away from zero. -/
theorem rounded_eq_awayFromZero (p : Spelling) : p.rounded = awayFromZero (1000 * p.amount) := by
  have nonneg : 0 ≤ 1000 * p.magnitude := by
    have magnitude_nonneg := p.magnitude_nonneg
    positivity
  unfold rounded amount awayFromZero
  rw [numerator_div_divisor, Sign.apply_eq]
  by_cases minus : p.sign = .minus
  · rw [if_pos minus, if_pos minus, mul_neg, Int.floor_neg, Int.ceil_neg]
    split
    · rfl
    · next zero =>
      have magnitude_zero : 1000 * p.magnitude = 0 := by linarith
      simp [magnitude_zero]
  · rw [if_neg minus, if_neg minus, if_neg (not_lt.mpr nonneg)]

end Spelling

/-! ## Rounding in a word -/

/-- A quotient of natural numbers that is rounded up, from the sum of numerator and divisor. -/
theorem natCast_sum_div (n : Nat) {d : Nat} (pos : 0 < d) : (((n + d - 1) / d : Nat) : Int) = ⌈(n / d : ℚ)⌉ := by
  have pos' : (0 : ℚ) < d := Nat.cast_pos.mpr pos
  rw [eq_comm, Int.ceil_eq_iff, lt_div_iff₀ pos', div_le_iff₀ pos']
  have quotient := Nat.div_add_mod (n + d - 1) d
  have remainder_lt := Nat.mod_lt (n + d - 1) pos
  generalize (n + d - 1) / d = q at *
  generalize (n + d - 1) % d = r at *
  have below : d * q < n + d := by omega
  have above : n ≤ d * q := by omega
  constructor
  · have below' : (d * q : ℚ) < n + d := by exact_mod_cast below
    push_cast
    linarith
  · have above' : (n : ℚ) ≤ d * q := by exact_mod_cast above
    push_cast
    linarith

/-- The fraction is rounded away from zero if the sum that the rounding starts with fits a word. -/
theorem roundAway_eq_ok_iff {n d : Nat} (sign : Sign) (pos : 0 < d) {v : Int} :
    roundAway n d (sign = .minus) = .ok v ↔ n + d ≤ wordMax ∧ v = sign.apply ⌈(n / d : ℚ)⌉ := by
  unfold roundAway
  simp only [natCast_sum_div n pos, Sign.apply_eq, decide_eq_true_eq]
  split
  · next room => simp [room, eq_comm]
  · next full => simp [full]

theorem roundAway_eq_error_iff {n d : Nat} {negative : Bool} {halt : Halt Flaw} :
    roundAway n d negative = .error halt ↔ wordMax < n + d ∧ halt = .aborted := by
  unfold roundAway
  split
  · next room => simp [room]
  · next full => simp [not_le.mp full, eq_comm]

/-! ## From the parts to milli-units -/

theorem wordMax_eq : wordMax = 2 ^ 127 - 1 := by decide

theorem Suffix.scale_pos (s : Suffix) : 0 < s.scale := by
  cases s with
  | unit u =>
    cases u with
    | one | milli | kilo | mega | giga | tera | peta | kibi | mebi | gibi | tebi | pebi => decide
  | exponent capital sign ds nonempty =>
    rw [scale]
    positivity

/-- A fraction that fits leaves room for the steps that it is made with. -/
theorem Spelling.Fits.steps {p : Spelling} (fits : p.Fits) : p.whole.value ≤ wordMax ∧ p.suffix.divisor ≤ wordMax := by
  have places_pos : 0 < 10 ^ p.places.chars.length := by positivity
  have whole_le : p.whole.value ≤ p.numerator :=
    calc p.whole.value ≤ p.whole.value * 10 ^ p.places.chars.length := Nat.le_mul_of_pos_right _ places_pos
      _ ≤ p.whole.value * 10 ^ p.places.chars.length + p.places.value := Nat.le_add_right _ _
      _ ≤ p.numerator := Nat.le_mul_of_pos_right _ p.suffix.scale_pos
  have divisor_le : p.suffix.divisor ≤ p.divisor := Nat.le_mul_of_pos_left _ places_pos
  rw [wordMax_eq]
  exact ⟨whole_le.trans fits.numerator_le, divisor_le.trans fits.divisor_le⟩

/-- The parts of a spelling have a fraction exactly if it fits. -/
theorem ratio_eq_ok_iff (p : Spelling) {r : Nat × Nat} :
    p.lexeme.ratio = .ok r ↔ p.Fits ∧ r = (p.numerator, p.divisor) := by
  unfold Lexeme.ratio
  simp only [bind_eq_ok, fitWord_eq_ok_iff, Spelling.lexeme, Text.digitsValue_eq, ofSuffix_chars_iff]
  constructor
  · rintro ⟨_, ⟨rfl, -⟩, _, ⟨rfl, scale_le, -⟩, _, ⟨rfl, divisor_le⟩, _, ⟨rfl, numerator_le⟩, found⟩
    rw [wordMax_eq] at scale_le divisor_le numerator_le
    cases found
    exact ⟨⟨scale_le, divisor_le, numerator_le⟩, rfl⟩
  · rintro ⟨fits, rfl⟩
    obtain ⟨whole_le, suffix_le⟩ := fits.steps
    obtain ⟨scale_le, divisor_le, numerator_le⟩ := fits
    rw [← wordMax_eq] at scale_le divisor_le numerator_le
    exact ⟨_, ⟨rfl, whole_le⟩, _, ⟨rfl, scale_le, suffix_le⟩, _, ⟨rfl, divisor_le⟩, _, ⟨rfl, numerator_le⟩, rfl⟩

/-- The parts of a spelling denote milli-units exactly if its fraction fits and leaves room for the rounding. -/
theorem milli_eq_ok_iff (p : Spelling) {v : Int} :
    p.lexeme.milli = .ok v ↔ p.Fits ∧ p.numerator + p.divisor ≤ wordMax ∧ v = p.rounded := by
  have rounded_iff := roundAway_eq_ok_iff p.sign p.divisor_pos (n := p.numerator) (v := v)
  unfold Lexeme.milli
  simp only [bind_eq_ok, mapError_eq_ok, ratio_eq_ok_iff]
  constructor
  · rintro ⟨_, ⟨fits, rfl⟩, found⟩
    exact ⟨fits, rounded_iff.mp found⟩
  · rintro ⟨fits, room⟩
    exact ⟨_, ⟨fits, rfl⟩, rounded_iff.mpr room⟩

theorem milli_eq_aborted_iff (p : Spelling) :
    p.lexeme.milli = .error .aborted ↔ p.Fits ∧ wordMax < p.numerator + p.divisor := by
  unfold Lexeme.milli
  simp only [bind_eq_error, mapError_eq_ok, mapError_eq_error, ratio_eq_ok_iff, roundAway_eq_error_iff, reduceCtorEq,
    and_false, exists_false, false_or, and_true]
  constructor
  · rintro ⟨_, ⟨fits, rfl⟩, full⟩
    exact ⟨fits, full⟩
  · rintro ⟨fits, full⟩
    exact ⟨_, ⟨fits, rfl⟩, full⟩

/-- Parts that have a fraction end in a suffix. -/
theorem exists_suffix_of_ratio {l : Lexeme} {r : Nat × Nat} (found : l.ratio = .ok r) : ∃ s : Suffix, s.chars = l.suffix := by
  unfold Lexeme.ratio at found
  obtain ⟨whole, -, found⟩ := bind_eq_ok.mp found
  obtain ⟨scale, suffixed, -⟩ := bind_eq_ok.mp found
  exact exists_suffix_of_ofSuffix suffixed

theorem fitRange_eq_ok_iff {v : Int} {q : Quantity} : fitRange v = .ok q ↔ q.milli = v := by
  rw [← ofMilli?_eq_some_iff]
  unfold fitRange
  cases ofMilli? v with
  | none => simp
  | some q' => simp

/-! ## Texts -/

/-- Reading gets to the rounding only in a text that spells a quantity. -/
theorem exists_spelling_of_ratio {cs : List Char} {l : Lexeme} {r : Nat × Nat}
    (cut : Lexeme.ofChars (Text.trim cs) = .ok l) (found : l.ratio = .ok r) : ∃ p : Spelling, p.chars = Text.trim cs := by
  obtain ⟨s, suffixed⟩ := exists_suffix_of_ratio found
  exact Lexeme.exists_spelling_of_ofChars cut suffixed

/-- A text with a quantity spells one. -/
theorem exists_spelling_of_ofChars {cs : List Char} {q : Quantity} (found : ofChars cs = .ok q) :
    ∃ p : Spelling, p.chars = Text.trim cs := by
  unfold ofChars at found
  obtain ⟨l, cut, found⟩ := bind_eq_ok.mp found
  obtain ⟨v, denoted, -⟩ := bind_eq_ok.mp found
  obtain ⟨r, formed, -⟩ := bind_eq_ok.mp denoted
  exact exists_spelling_of_ratio (mapError_eq_ok.mp cut) (mapError_eq_ok.mp formed)

/-- A text that breaks off the reading spells a quantity. -/
theorem exists_spelling_of_aborted {cs : List Char} (broken : ofChars cs = .error .aborted) :
    ∃ p : Spelling, p.chars = Text.trim cs := by
  unfold ofChars at broken
  simp only [bind_eq_error, mapError_eq_ok, mapError_eq_error, reduceCtorEq, and_false, exists_false, false_or,
    or_false] at broken
  obtain ⟨l, cut, overflow⟩ := broken
  unfold Lexeme.milli at overflow
  simp only [bind_eq_error, mapError_eq_ok, mapError_eq_error, reduceCtorEq, and_false, exists_false,
    false_or] at overflow
  obtain ⟨r, formed, -⟩ := overflow
  exact exists_spelling_of_ratio cut formed

section Spelled

variable {p : Spelling} {cs : List Char} {s : String}

/-- A spelling denotes a quantity exactly if its fraction fits, leaves room for the rounding and rounds into the
range. -/
theorem ofChars_chars_eq_ok_iff (trimmed : Text.trim cs = p.chars) {q : Quantity} :
    ofChars cs = .ok q ↔ p.Fits ∧ p.numerator + p.divisor ≤ wordMax ∧ q.milli = p.rounded := by
  unfold ofChars
  simp only [trimmed, Lexeme.ofChars_chars, bind_eq_ok, mapError_eq_ok, Except.ok.injEq, exists_eq_left',
    milli_eq_ok_iff, fitRange_eq_ok_iff]
  constructor
  · rintro ⟨_, ⟨fits, room, rfl⟩, value⟩
    exact ⟨fits, room, value⟩
  · rintro ⟨fits, room, value⟩
    exact ⟨_, ⟨fits, room, rfl⟩, value⟩

/-- A spelling breaks off the reading exactly if its fraction fits and leaves no room for the rounding. -/
theorem ofChars_chars_eq_aborted_iff (trimmed : Text.trim cs = p.chars) :
    ofChars cs = .error .aborted ↔ p.Fits ∧ wordMax < p.numerator + p.divisor := by
  unfold ofChars
  simp only [trimmed, Lexeme.ofChars_chars, bind_eq_error, mapError_eq_ok, mapError_eq_error, Except.ok.injEq,
    exists_eq_left', reduceCtorEq, and_false, exists_false, false_or, or_false]
  exact milli_eq_aborted_iff p

theorem Spelling.spelledBy_iff : p.SpelledBy s ↔ Text.trim s.toList = p.chars :=
  (Text.trim_eq_iff p.isBlank_of_mem p.chars_ne_nil).symm

/-- A text that spells a quantity is read exactly if its fraction fits, leaves room for the rounding and rounds into the
range. -/
theorem parse_spelled_eq_ok_iff (spelled : p.SpelledBy s) {q : Quantity} :
    parse s = .ok q ↔ p.Fits ∧ p.numerator + p.divisor ≤ 2 ^ 127 - 1 ∧ q.milli = p.rounded := by
  rw [parse, mapError_eq_ok, ← wordMax_eq]
  exact ofChars_chars_eq_ok_iff (Spelling.spelledBy_iff.mp spelled)

/-- A text that spells a quantity breaks off the reading exactly if its fraction fits while the sum of numerator and
divisor does not. -/
theorem parse_spelled_eq_aborted_iff (spelled : p.SpelledBy s) :
    parse s = .error .aborted ↔ p.Fits ∧ 2 ^ 127 - 1 < p.numerator + p.divisor := by
  rw [parse, mapError_eq_error, ← wordMax_eq]
  simp only [Halt.map_eq_aborted, exists_eq_right]
  exact ofChars_chars_eq_aborted_iff (Spelling.spelledBy_iff.mp spelled)

end Spelled

/-- A text that is read spells a quantity. -/
theorem exists_spelling_of_parse {s : String} {q : Quantity} (read : parse s = .ok q) :
    ∃ p : Spelling, p.SpelledBy s := by
  obtain ⟨p, spelled⟩ := exists_spelling_of_ofChars (mapError_eq_ok.mp read)
  exact ⟨p, Spelling.spelledBy_iff.mpr spelled.symm⟩

/-- The texts that break off the reading: their fraction fits, and the sum of its numerator and its divisor does not. -/
theorem parse_eq_aborted_iff {s : String} : parse s = .error .aborted ↔
    ∃ p : Spelling, p.SpelledBy s ∧ p.Fits ∧ 2 ^ 127 - 1 < p.numerator + p.divisor := by
  constructor
  · intro broken
    obtain ⟨halt, broken', rfl⟩ : ∃ halt, ofChars s.toList = .error halt ∧ halt = .aborted := by
      simpa [parse, mapError_eq_error] using broken
    obtain ⟨p, spelled⟩ := exists_spelling_of_aborted broken'
    have spelled' := Spelling.spelledBy_iff.mpr spelled.symm
    exact ⟨p, spelled', (parse_spelled_eq_aborted_iff spelled').mp broken⟩
  · rintro ⟨p, spelled, full⟩
    exact (parse_spelled_eq_aborted_iff spelled).mpr full

/-- A text that is refused is named in the error. -/
theorem parse_refused {s : String} (unread : ∀ q, parse s ≠ .ok q) (goes_on : parse s ≠ .error .aborted) :
    ∃ flaw, parse s = .error (.reported ⟨s, flaw⟩) := by
  unfold parse at unread goes_on ⊢
  cases found : ofChars s.toList with
  | ok q =>
    rw [found] at unread
    exact absurd rfl (unread q)
  | error halt =>
    cases halt with
    | reported flaw => exact ⟨flaw, rfl⟩
    | aborted =>
      rw [found] at goes_on
      exact absurd rfl goes_on

theorem parse_refused_of_no_spelling {s : String} (none : ¬∃ p : Spelling, p.SpelledBy s) :
    ∃ flaw, parse s = .error (.reported ⟨s, flaw⟩) := by
  apply parse_refused
  · intro q read
    exact none (exists_spelling_of_parse read)
  · intro broken
    obtain ⟨p, spelled, -⟩ := parse_eq_aborted_iff.mp broken
    exact none ⟨p, spelled⟩

theorem parse_refused_of_unfit {p : Spelling} {s : String} (spelled : p.SpelledBy s) (unfit : ¬p.Fits) :
    ∃ flaw, parse s = .error (.reported ⟨s, flaw⟩) := by
  apply parse_refused
  · intro q read
    exact unfit ((parse_spelled_eq_ok_iff spelled).mp read).1
  · intro broken
    exact unfit ((parse_spelled_eq_aborted_iff spelled).mp broken).1

theorem parse_of_range {p : Spelling} {s : String} (spelled : p.SpelledBy s) (fits : p.Fits)
    (room : p.numerator + p.divisor ≤ 2 ^ 127 - 1) (range : minMilli ≤ p.rounded ∧ p.rounded ≤ maxMilli) :
    ∃ q, parse s = .ok q :=
  ⟨⟨p.rounded, range.1, range.2⟩, (parse_spelled_eq_ok_iff spelled).mpr ⟨fits, room, rfl⟩⟩

theorem parse_refused_of_range {p : Spelling} {s : String} (spelled : p.SpelledBy s)
    (room : p.numerator + p.divisor ≤ 2 ^ 127 - 1) (outside : ¬(minMilli ≤ p.rounded ∧ p.rounded ≤ maxMilli)) :
    ∃ flaw, parse s = .error (.reported ⟨s, flaw⟩) := by
  apply parse_refused
  · intro q read
    obtain ⟨-, -, value⟩ := (parse_spelled_eq_ok_iff spelled).mp read
    exact outside (value ▸ ⟨q.minMilli_le, q.le_maxMilli⟩)
  · intro broken
    exact absurd room (not_le.mpr ((parse_spelled_eq_aborted_iff spelled).mp broken).2)

/-- Reading a quantity text. A text that spells nothing, or a fraction that does not fit, is refused. Where the sum of
numerator and divisor fits as well, the text is read exactly if the rounded fraction is in the range, and read as it. -/
theorem parse_spelling (s : String) :
    ((¬∃ p : Spelling, p.SpelledBy s) → ∃ flaw, parse s = .error (.reported ⟨s, flaw⟩)) ∧
    ∀ p : Spelling, p.SpelledBy s →
      (¬p.Fits → ∃ flaw, parse s = .error (.reported ⟨s, flaw⟩)) ∧
      (p.Fits → p.numerator + p.divisor ≤ 2 ^ 127 - 1 →
        p.rounded = awayFromZero (1000 * p.amount) ∧
        (∀ q, parse s = .ok q → q.milli = p.rounded) ∧
        (minMilli ≤ p.rounded ∧ p.rounded ≤ maxMilli → ∃ q, parse s = .ok q) ∧
        (¬(minMilli ≤ p.rounded ∧ p.rounded ≤ maxMilli) → ∃ flaw, parse s = .error (.reported ⟨s, flaw⟩))) := by
  refine ⟨parse_refused_of_no_spelling, fun p spelled => ⟨parse_refused_of_unfit spelled, fun fits room => ?_⟩⟩
  refine ⟨p.rounded_eq_awayFromZero, fun q read => ?_, parse_of_range spelled fits room,
    parse_refused_of_range spelled room⟩
  exact ((parse_spelled_eq_ok_iff spelled).mp read).2.2

end ClusterCost.Quantity
