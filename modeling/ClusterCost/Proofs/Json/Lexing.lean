import ClusterCost.Json.Parser
import ClusterCost.Proofs.Text.Digits
import ClusterCost.Proofs.Text.Trim

/-!
# Tokens of JSON texts

What the reader finds in a text of one token. A run of digits is taken as far as it goes (`someDigits?_append`), so the
parts of a number token come back one after the other, and a document that is nothing but a number or a quoted text
holds it (`parse_numeral`, `parse_quoted`).
-/
namespace ClusterCost.Json

open Text (Digits Sign)

/-! ## Numbers -/

def NoDigit (rest : List Char) : Prop :=
  ∀ c, rest.head? = some c → c.isDigit = false

theorem someDigits?_append {ds : Digits} (nonempty : ds.chars ≠ []) {rest : List Char} (stop : NoDigit rest) :
    someDigits? (ds.chars ++ rest) = some (ds.chars, rest) := by
  unfold someDigits?
  rw [Text.takeWhile_of_stop ds.isDigit stop, Text.dropWhile_of_stop ds.isDigit stop]
  exact if_neg (by simpa using nonempty)

/-- Digits that may stand before the point: they do not start with a zero, unless it is the only one. -/
def Leads (ds : Digits) : Prop :=
  ds.chars = ['0'] ∨ ds.chars ≠ [] ∧ ds.chars.head? ≠ some '0'

theorem Leads.ne_nil {ds : Digits} (leads : Leads ds) : ds.chars ≠ [] := by
  rcases leads with zero | ⟨nonempty, -⟩
  · simp [zero]
  · exact nonempty

theorem wholeDigits?_append {ds : Digits} (leads : Leads ds) {rest : List Char} (stop : NoDigit rest) :
    wholeDigits? (ds.chars ++ rest) = some (ds.chars, rest) := by
  rcases leads with zero | ⟨nonempty, no_zero⟩
  · rw [zero]
    cases rest with
    | nil => rfl
    | cons c rest => simp [wholeDigits?, stop c rfl]
  · have digits := someDigits?_append nonempty stop
    obtain ⟨first, others, spelled⟩ := List.exists_cons_of_ne_nil nonempty
    rw [spelled] at no_zero digits ⊢
    unfold wholeDigits?
    split
    · next same =>
      rw [List.cons_append, List.cons.injEq] at same
      exact absurd (congrArg some same.1) no_zero
    · exact digits

theorem fractionDigits?_point {ds : Digits} (nonempty : ds.chars ≠ []) {rest : List Char} (stop : NoDigit rest) :
    fractionDigits? ('.' :: (ds.chars ++ rest)) = some (some ds.chars, rest) := by
  simp [fractionDigits?, someDigits?_append nonempty stop]

theorem fractionDigits?_of_ne {rest : List Char} (no_point : rest.head? ≠ some '.') :
    fractionDigits? rest = some (none, rest) := by
  unfold fractionDigits?
  split
  · exact absurd rfl no_point
  · rfl

theorem exponentDigits?_letter (capital : Bool) (sign : Sign) {ds : Digits} (nonempty : ds.chars ≠ []) {rest : List Char}
    (stop : NoDigit rest) : exponentDigits? ((if capital then 'E' else 'e') :: (sign.chars ++ (ds.chars ++ rest))) =
      some (some (decide (sign = .minus), ds.chars), rest) := by
  have digits := someDigits?_append nonempty stop
  obtain ⟨first, others, spelled⟩ := List.exists_cons_of_ne_nil nonempty
  obtain ⟨no_plus, no_minus⟩ := Text.head_ne_of_digits spelled
  cases capital with
  | false | true =>
    cases sign with
    | none => simp_all [exponentDigits?, Sign.chars]
    | plus | minus => simp [exponentDigits?, Sign.chars, digits]

/-! ## Texts -/

/-- A character that stands for itself in a quoted text. -/
def IsPlain (c : Char) : Prop :=
  c ≠ '"' ∧ c ≠ '\\' ∧ ¬c < ' '

theorem stringPieces?_plain {cs : List Char} (plain : ∀ c ∈ cs, IsPlain c) (rest : List Char) :
    stringPieces? (cs ++ '"' :: rest) = some (cs.map .char, rest) := by
  induction cs with
  | nil => simp [stringPieces?]
  | cons c cs ih =>
    obtain ⟨no_quote, no_escape, printed⟩ := plain c List.mem_cons_self
    have others := ih fun c member => plain c (List.mem_cons_of_mem _ member)
    rw [List.cons_append, stringPieces?.eq_def]
    split
    · next same => cases same
    · next same => exact absurd (List.cons.inj same).1 no_quote
    · next same => exact absurd (List.cons.inj same).1 no_escape
    · next same => exact absurd (List.cons.inj same).1 no_escape
    · next same =>
      obtain ⟨rfl, rfl⟩ := List.cons.inj same
      rw [if_neg printed, others]
      rfl

theorem joinPieces?_chars (cs : List Char) : joinPieces? (cs.map .char) = some cs := by
  induction cs with
  | nil => rfl
  | cons c cs ih => simp [joinPieces?, ih]

/-! ## Documents of one token -/

/-- A number as a tree, or what stands in its place if it is beyond all floats. -/
def ofNumber? : Option Number → Json
  | some n => .number n
  | none => .unreadable

/-- The first character of a number starts no other value, and is no gap. -/
theorem start_ne {c : Char} (starts : c = '-' ∨ c.isDigit = true) :
    isGap c = false ∧ c ≠ '"' ∧ c ≠ '[' ∧ c ≠ '\x7b' ∧ c ≠ 't' ∧ c ≠ 'f' ∧ c ≠ 'n' := by
  have differs {d : Char} (other : d ≠ '-') (no_digit : d.isDigit = false) : c ≠ d := by
    rintro rfl
    rcases starts with same | digit
    · exact other same
    · exact absurd digit (by simp [no_digit])
  have no_gap : isGap c = false := by
    simp only [isGap, Bool.or_eq_false_iff, beq_eq_false_iff_ne]
    exact ⟨⟨⟨differs (by decide) rfl, differs (by decide) rfl⟩, differs (by decide) rfl⟩, differs (by decide) rfl⟩
  exact ⟨no_gap, differs (by decide) rfl, differs (by decide) rfl, differs (by decide) rfl, differs (by decide) rfl,
    differs (by decide) rfl, differs (by decide) rfl⟩

theorem readValue_number {c : Char} {cs : List Char} (starts : c = '-' ∨ c.isDigit = true) (fuel : Nat) :
    readValue (fuel + 1) (c :: cs) = readNumber (c :: cs) := by
  obtain ⟨no_gap, no_quote, no_bracket, no_brace, no_t, no_f, no_n⟩ := start_ne starts
  have first : skipGaps (c :: cs) = c :: cs := by simp [skipGaps, no_gap]
  rw [readValue, first]
  split
  · next same => exact absurd (List.cons.inj same).1 no_quote
  · next same => exact absurd (List.cons.inj same).1 no_bracket
  · next same => exact absurd (List.cons.inj same).1 no_brace
  · next same => exact absurd (List.cons.inj same).1 no_t
  · next same => exact absurd (List.cons.inj same).1 no_f
  · next same => exact absurd (List.cons.inj same).1 no_n
  · rfl

/-- A document that is one number token holds its number. -/
theorem parse_numeral {c : Char} {cs : List Char} (starts : c = '-' ∨ c.isDigit = true) {n : Numeral}
    (token : numeral? (c :: cs) = some (n, [])) :
    Document.parse (String.ofList (c :: cs)) = ⟨ofNumber? n.toNumber?, true⟩ := by
  unfold Document.parse
  simp only [String.toList_ofList]
  rw [readValue_number starts, readNumber, token]
  dsimp only
  cases n.toNumber? with
  | none => rfl
  | some x => rfl

/-- A document that is one quoted text of plain characters holds the text. -/
theorem parse_quoted {cs : List Char} (plain : ∀ c ∈ cs, IsPlain c) :
    Document.parse (String.ofList ('"' :: (cs ++ ['"']))) = ⟨.string (String.ofList cs), true⟩ := by
  have first : skipGaps ('"' :: (cs ++ ['"'])) = '"' :: (cs ++ ['"']) := rfl
  have token : stringTail? (cs ++ ['"']) = some (some (String.ofList cs), []) := by
    simp [stringTail?, stringPieces?_plain plain, joinPieces?_chars]
  unfold Document.parse
  simp only [String.toList_ofList]
  rw [readValue, first]
  simp [readString, token, skipGaps]

end ClusterCost.Json
