import ClusterCost.Proofs.Json.Lexing
import ClusterCost.Proofs.Json.Magnitude

/-!
# Number tokens

The parts of a number as one token, with a sign for every exponent. The reader finds the parts of a proper token again,
whatever stands behind it, as long as that does not go on with the number (`numeral?_chars`).
-/
namespace ClusterCost.Json

open Text (Digits Sign)

namespace Numeral

def fractionChars : Option (List Char) → List Char
  | none => []
  | some ds => '.' :: ds

def exponentChars : Option (Bool × List Char) → List Char
  | none => []
  | some (negative, ds) => 'e' :: (if negative then '-' else '+') :: ds

def unsignedChars (n : Numeral) : List Char :=
  n.whole ++ (fractionChars n.fraction ++ exponentChars n.exponent)

def chars (n : Numeral) : List Char :=
  (if n.negative then ['-'] else []) ++ n.unsignedChars

/-- Every part of a number token that is there has digits, and only a single zero stands in front. -/
structure IsToken (n : Numeral) : Prop extends n.IsDecimal where
  leads : n.whole = ['0'] ∨ n.whole ≠ [] ∧ n.whole.head? ≠ some '0'
  fraction : ∀ ds, n.fraction = some ds → ds ≠ []
  exponent : ∀ negative ds, n.exponent = some (negative, ds) → ds ≠ [] ∧ ∀ c ∈ ds, c.isDigit = true

end Numeral

/-- A text that does not go on with a number. -/
def EndsNumber (rest : List Char) : Prop :=
  ∀ c, rest.head? = some c → c.isDigit = false ∧ c ≠ '.' ∧ c ≠ 'e' ∧ c ≠ 'E'

namespace Numeral

variable {n : Numeral} {rest : List Char}

theorem exponentDigits?_chars (token : n.IsToken) (ends : EndsNumber rest) :
    exponentDigits? (exponentChars n.exponent ++ rest) = some (n.exponent, rest) := by
  cases exponent_eq : n.exponent with
  | none =>
    unfold exponentChars exponentDigits?
    rw [List.nil_append]
    split
    · exact absurd rfl (ends _ rfl).2.2.1
    · exact absurd rfl (ends _ rfl).2.2.2
    · rfl
  | some parts =>
    obtain ⟨negative, ds⟩ := parts
    obtain ⟨nonempty, digits⟩ := token.exponent negative ds exponent_eq
    have stop : NoDigit rest := fun c found => (ends c found).1
    replace nonempty : (⟨ds, digits⟩ : Text.Digits).chars ≠ [] := nonempty
    cases negative with
    | false => exact exponentDigits?_letter false .plus nonempty stop
    | true => exact exponentDigits?_letter false .minus nonempty stop

theorem noDigit_exponent (n : Numeral) (ends : EndsNumber rest) : NoDigit (exponentChars n.exponent ++ rest) := by
  unfold exponentChars
  split
  · exact fun c found => (ends c found).1
  · intro c found
    cases found
    rfl

theorem fractionDigits?_chars (token : n.IsToken) (ends : EndsNumber rest) :
    fractionDigits? (fractionChars n.fraction ++ (exponentChars n.exponent ++ rest)) =
      some (n.fraction, exponentChars n.exponent ++ rest) := by
  have stop := n.noDigit_exponent ends
  cases fraction_eq : n.fraction with
  | none =>
    apply fractionDigits?_of_ne
    rw [fractionChars, List.nil_append]
    unfold exponentChars
    split
    · exact fun found => absurd rfl (ends _ found).2.1
    · simp
  | some ds =>
    have digits := token.places
    unfold Numeral.places at digits
    rw [fraction_eq] at digits
    have nonempty : (⟨ds, digits⟩ : Text.Digits).chars ≠ [] := token.fraction ds fraction_eq
    exact fractionDigits?_point nonempty stop

theorem noDigit_fraction (n : Numeral) (ends : EndsNumber rest) :
    NoDigit (fractionChars n.fraction ++ (exponentChars n.exponent ++ rest)) := by
  unfold fractionChars
  split
  · exact n.noDigit_exponent ends
  · intro c found
    cases found
    rfl

theorem whole_ne_nil (token : n.IsToken) : n.whole ≠ [] := by
  rcases token.leads with zero | ⟨nonempty, -⟩
  · simp [zero]
  · exact nonempty

/-- A token starts with a minus sign or a digit. -/
theorem exists_start (token : n.IsToken) : ∃ c cs, n.chars = c :: cs ∧ (c = '-' ∨ c.isDigit = true) := by
  obtain ⟨c, cs, whole_eq⟩ := List.exists_cons_of_ne_nil (whole_ne_nil token)
  unfold chars unsignedChars
  cases n.negative with
  | true => exact ⟨'-', _, rfl, .inl rfl⟩
  | false => exact ⟨c, _, by rw [whole_eq]; rfl, .inr (token.whole c (by simp [whole_eq]))⟩

/-- The parts of a token are found in it, and nothing of what follows it is taken. -/
theorem numeral?_chars (token : n.IsToken) (ends : EndsNumber rest) : numeral? (n.chars ++ rest) = some (n, rest) := by
  have whole := wholeDigits?_append (show Leads ⟨n.whole, token.whole⟩ from token.leads) (n.noDigit_fraction ends)
  have fraction := fractionDigits?_chars token ends
  have exponent := exponentDigits?_chars token ends
  obtain ⟨c, cs, whole_eq⟩ := List.exists_cons_of_ne_nil (whole_ne_nil token)
  unfold chars unsignedChars
  cases negative_eq : n.negative with
  | true =>
    have parts : (⟨true, n.whole, n.fraction, n.exponent⟩ : Numeral) = n := by rw [← negative_eq]
    simp [numeral?, whole, fraction, exponent, parts]
  | false =>
    have parts : (⟨false, n.whole, n.fraction, n.exponent⟩ : Numeral) = n := by rw [← negative_eq]
    have first : (⟨n.whole, token.whole⟩ : Text.Digits).chars = c :: cs := whole_eq
    have no_minus := (Text.head_ne_of_digits first).2
    dsimp only at whole
    rw [whole_eq] at whole parts ⊢
    rw [List.cons_append] at whole
    simp [numeral?, no_minus, whole, fraction, exponent, parts]

end Numeral

end ClusterCost.Json
