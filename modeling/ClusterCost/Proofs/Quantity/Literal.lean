import ClusterCost.Proofs.Json.Lexing
import ClusterCost.Proofs.Json.Magnitude
import ClusterCost.Proofs.Quantity.Lexing
import ClusterCost.Quantity.FromJson

/-!
# Literals that are numbers and quantity texts

A spelling with a point only between digits, without a plus sign, leading zeros or a unit, is a JSON number as well
(`IsNumeral`). It can stand in a JSON text as it is or in quotes: as it is, the reader finds its parts in it, and in
quotes, the text.
-/
namespace ClusterCost.Quantity

open Text (Digits Sign)

/-- How the decoding of a quantity ends, whatever the fault of a text that is refused. -/
inductive Decoded where
  | quantity (q : Quantity)
  | refused
  | aborted
  deriving DecidableEq

def Decoded.ofOption : Option Quantity → Decoded
  | some q => .quantity q
  | none => .refused

/-- A number of milli-units, which is refused if it is not in the range. -/
def Decoded.ofMilli (n : Int) : Decoded :=
  .ofOption (ofMilli? n)

def decode (s : String) : Decoded :=
  match (Json.Document.parse s).read ofJson with
  | .ok q => .quantity q
  | .error (.content .aborted) => .aborted
  | .error _ => .refused

def ofToken? (n : Option Json.Number) : Option Quantity :=
  n.bind fun n => (ofNumber n).toOption

namespace Spelling

/-- A spelling is a JSON number: no plus sign, no leading zeros, digits on both sides of a point, and no unit. -/
structure IsNumeral (p : Spelling) : Prop where
  sign_ne : p.sign ≠ .plus
  leads : Json.Leads p.whole
  places : ∀ ds, p.fraction = some ds → ds.chars ≠ []
  suffix : ∀ u, p.suffix = .unit u → u = .one

def bare (p : Spelling) : String :=
  String.ofList p.chars

def quoted (p : Spelling) : String :=
  String.ofList ('"' :: (p.chars ++ ['"']))

def numeral (p : Spelling) : Json.Numeral where
  negative := decide (p.sign = .minus)
  whole := p.whole.chars
  fraction := p.fraction.map Digits.chars
  exponent :=
    match p.suffix with
    | .unit _ => none
    | .exponent _ sign digits _ => some (decide (sign = .minus), digits.chars)

variable {p : Spelling}

/-! ## In quotes -/

theorem isPlain_of_isDigit {c : Char} (digit : c.isDigit = true) : Json.IsPlain c := by
  have range := (Text.isDigit_iff c).mp digit
  refine ⟨?_, ?_, ?_⟩
  · rintro rfl
    cases digit
  · rintro rfl
    cases digit
  · rw [Char.lt_def, UInt32.lt_iff_toNat_lt]
    exact not_lt.mpr (le_trans (by decide : 32 ≤ 48) range.1)

theorem isPlain_of_mem_sign {sign : Sign} : ∀ c ∈ sign.chars, Json.IsPlain c := by
  cases sign with
  | none | plus | minus => simp [Sign.chars, Json.IsPlain]

theorem isPlain_of_mem (numeral : p.IsNumeral) : ∀ c ∈ p.chars, Json.IsPlain c := by
  intro c member
  simp only [chars, List.mem_append] at member
  rcases member with signed | (before | after) | last
  · exact isPlain_of_mem_sign c signed
  · exact isPlain_of_isDigit (p.whole.isDigit c before)
  · unfold fractionChars at after
    split at after
    · cases after
    · next ds _ =>
      rcases List.mem_cons.mp after with rfl | inside
      · simp [Json.IsPlain]
      · exact isPlain_of_isDigit (ds.isDigit c inside)
  · cases suffix_eq : p.suffix with
    | unit u =>
      rw [suffix_eq, numeral.suffix u suffix_eq] at last
      cases last
    | exponent capital sign digits nonempty =>
      rw [suffix_eq] at last
      rcases List.mem_cons.mp last with rfl | inside
      · cases capital with
        | false | true => simp [Json.IsPlain]
      · rcases List.mem_append.mp inside with signed | digit
        · exact isPlain_of_mem_sign c signed
        · exact isPlain_of_isDigit (digits.isDigit c digit)

/-- In quotes, a literal is decoded as its text is parsed. -/
theorem decode_quoted (numeral : p.IsNumeral) : decode p.quoted =
    match parse p.bare with
    | .ok q => .quantity q
    | .error .aborted => .aborted
    | .error (.reported _) => .refused := by
  unfold decode quoted bare
  rw [Json.parse_quoted (isPlain_of_mem numeral)]
  unfold Json.Document.read ofJson
  dsimp only
  cases parse (String.ofList p.chars) with
  | ok q => rfl
  | error halt =>
    cases halt with
    | reported cause => rfl
    | aborted => rfl

/-! ## As it is -/

theorem noDigit_suffix (s : Suffix) : Json.NoDigit s.chars := by
  intro c found
  have outside := s.head_not_number c found
  unfold isNumberChar at outside
  exact (Bool.or_eq_false_iff.mp outside).1

theorem exponentDigits?_suffix (numeral : p.IsNumeral) :
    Json.exponentDigits? p.suffix.chars = some (p.numeral.exponent, []) := by
  unfold Spelling.numeral
  cases suffix_eq : p.suffix with
  | unit u =>
    rw [numeral.suffix u suffix_eq]
    rfl
  | exponent capital sign digits nonempty =>
    have token := Json.exponentDigits?_letter capital sign nonempty (show Json.NoDigit [] by simp [Json.NoDigit])
    rw [List.append_nil] at token
    exact token

theorem fractionDigits?_rest (numeral : p.IsNumeral) :
    Json.fractionDigits? (p.fractionChars ++ p.suffix.chars) = some (p.numeral.fraction, p.suffix.chars) := by
  unfold fractionChars Spelling.numeral
  cases fraction_eq : p.fraction with
  | none =>
    apply Json.fractionDigits?_of_ne
    intro found
    exact absurd (p.suffix.head_not_number _ found) (by decide)
  | some ds => exact Json.fractionDigits?_point (numeral.places ds fraction_eq) (noDigit_suffix p.suffix)

theorem noDigit_rest (p : Spelling) : Json.NoDigit (p.fractionChars ++ p.suffix.chars) := by
  unfold fractionChars
  cases p.fraction with
  | none => exact noDigit_suffix p.suffix
  | some ds =>
    intro c found
    cases found
    rfl

/-- The parts of a literal are found in it. -/
theorem numeral?_chars (numeral : p.IsNumeral) : Json.numeral? p.chars = some (p.numeral, []) := by
  have whole := Json.wholeDigits?_append numeral.leads p.noDigit_rest
  have fraction := fractionDigits?_rest numeral
  have exponent := exponentDigits?_suffix numeral
  have parts {negative : Bool} (sign_eq : negative = decide (p.sign = .minus)) :
      (⟨negative, p.whole.chars, p.numeral.fraction, p.numeral.exponent⟩ : Json.Numeral) = p.numeral := by
    rw [sign_eq]
    rfl
  unfold chars
  rw [List.append_assoc]
  cases sign_eq : p.sign with
  | none =>
    obtain ⟨c, cs, spelled⟩ := List.exists_cons_of_ne_nil numeral.leads.ne_nil
    have no_minus := (Text.head_ne_of_digits spelled).2
    rw [spelled, List.cons_append] at whole
    have token : Json.numeral? (c :: (cs ++ (p.fractionChars ++ p.suffix.chars))) =
        some (⟨false, c :: cs, p.numeral.fraction, p.numeral.exponent⟩, []) := by
      simp [Json.numeral?, no_minus, whole, fraction, exponent]
    rw [← spelled, parts (by rw [sign_eq]; rfl)] at token
    rw [spelled]
    exact token
  | plus => exact absurd sign_eq numeral.sign_ne
  | minus =>
    have token : Json.numeral? ('-' :: (p.whole.chars ++ (p.fractionChars ++ p.suffix.chars))) =
        some (⟨true, p.whole.chars, p.numeral.fraction, p.numeral.exponent⟩, []) := by
      simp [Json.numeral?, whole, fraction, exponent]
    rw [parts (by rw [sign_eq]; rfl)] at token
    exact token

/-- As it is, a literal is decoded as the number of its token. -/
theorem decode_bare (numeral : p.IsNumeral) : decode p.bare = .ofOption (ofToken? p.numeral.toNumber?) := by
  have starts : ∃ c cs, p.chars = c :: cs ∧ (c = '-' ∨ c.isDigit = true) := by
    unfold chars
    cases sign_eq : p.sign with
    | none =>
      obtain ⟨c, cs, spelled⟩ := List.exists_cons_of_ne_nil numeral.leads.ne_nil
      exact ⟨c, _, by rw [spelled]; rfl, .inr (p.whole.isDigit c (by simp [spelled]))⟩
    | plus => exact absurd sign_eq numeral.sign_ne
    | minus => exact ⟨'-', _, rfl, .inl rfl⟩
  obtain ⟨c, cs, spelled, start⟩ := starts
  have token := numeral?_chars numeral
  rw [spelled] at token
  unfold decode bare ofToken?
  rw [spelled, Json.parse_numeral start token]
  cases p.numeral.toNumber? with
  | none => rfl
  | some n =>
    unfold Json.ofNumber? Json.Document.read ofJson
    dsimp only [Option.bind_some]
    cases Quantity.ofNumber n with
    | ok q => rfl
    | error cause => rfl

/-! ## The token -/

theorem isDecimal_numeral (p : Spelling) : p.numeral.IsDecimal where
  whole := p.whole.isDigit
  places := by
    unfold Json.Numeral.places Spelling.numeral
    cases p.fraction with
    | none => simp
    | some ds => exact ds.isDigit

theorem places_numeral (p : Spelling) : p.numeral.places = p.places.chars := by
  unfold Json.Numeral.places Spelling.numeral places
  cases p.fraction with
  | none => rfl
  | some ds => rfl

theorem written_numeral (p : Spelling) : p.numeral.written = p.suffix.power := by
  unfold Json.Numeral.written Spelling.numeral Suffix.power
  cases p.suffix with
  | unit u => rfl
  | exponent capital sign digits nonempty =>
    dsimp only
    rw [Text.digitsValue_eq, Sign.apply_eq]
    simp only [decide_eq_true_eq]

/-- The token denotes what the literal denotes. -/
theorem magnitude_numeral (numeral : p.IsNumeral) : p.numeral.magnitude = p.magnitude := by
  have multiplier_eq : p.suffix.multiplier = 10 ^ p.suffix.power := by
    cases suffix_eq : p.suffix with
    | unit u =>
      rw [numeral.suffix u suffix_eq]
      norm_num [Suffix.multiplier, Suffix.power, UnitSuffix.scale]
    | exponent capital sign digits nonempty => rfl
  unfold Json.Numeral.magnitude magnitude
  rw [places_numeral, written_numeral, multiplier_eq]
  rfl

end Spelling

end ClusterCost.Quantity
