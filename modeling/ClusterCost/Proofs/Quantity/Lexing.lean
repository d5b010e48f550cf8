import ClusterCost.Proofs.Quantity.Grammar
import ClusterCost.Quantity.Parser

/-!
# Cutting quantity texts

`Lexeme.ofChars` cuts every spelling into its own parts (`ofChars_chars`), and where it cuts a text at all, the parts
are those of a spelling, but for the suffix, which it does not look at (`exists_spelling_of_ofChars`).
-/
namespace ClusterCost.Quantity

open Text (Digits Sign)

/-! ## Characters of a spelling -/

theorem isNumberChar_of_isDigit {c : Char} (digit : c.isDigit = true) : isNumberChar c = true := by
  simp [isNumberChar, digit]

theorem ne_point_of_isDigit {c : Char} (digit : c.isDigit = true) : (c != '.') = true := by
  rw [bne_iff_ne]
  rintro rfl
  cases digit

/-- What is neither a digit nor a point does not belong to a number, so a number ends where the suffix starts. -/
theorem Suffix.head_not_number (s : Suffix) : ∀ c, s.chars.head? = some c → isNumberChar c = false := by
  intro c found
  cases s with
  | unit u =>
    cases u with
    | one => cases found
    | milli | kilo | mega | giga | tera | peta | kibi | mebi | gibi | tebi | pebi =>
      cases found
      decide
  | exponent capital sign digits nonempty =>
    cases capital with
    | false | true =>
      cases found
      decide

theorem Suffix.isBlank_of_mem (s : Suffix) : ∀ c ∈ s.chars, Text.isBlank c = false := by
  cases s with
  | unit u =>
    have solid : u.chars.all (!Text.isBlank ·) = true := by
      cases u with
      | one | milli | kilo | mega | giga | tera | peta | kibi | mebi | gibi | tebi | pebi => decide
    intro c member
    simpa using List.all_eq_true.mp solid c member
  | exponent capital sign digits nonempty =>
    intro c member
    rcases List.mem_cons.mp member with rfl | later
    · cases capital with
      | false | true => decide
    · rcases List.mem_append.mp later with first | second
      · exact sign.isBlank_of_mem c first
      · exact Text.isBlank_of_isDigit (digits.isDigit c second)

namespace Spelling

theorem places_length_le (p : Spelling) : p.places.chars.length ≤ 9 := by
  unfold places
  cases fraction_eq : p.fraction with
  | none => decide
  | some ds => exact p.length_le ds fraction_eq

def number (p : Spelling) : List Char :=
  p.whole.chars ++ p.fractionChars

theorem drop_fractionChars (p : Spelling) : p.fractionChars.drop 1 = p.places.chars := by
  unfold fractionChars places
  cases p.fraction with
  | none => rfl
  | some ds => rfl

theorem fractionChars_head (p : Spelling) : ∀ c, p.fractionChars.head? = some c → (c != '.') = false := by
  intro c found
  unfold fractionChars at found
  split at found
  · cases found
  · cases found
    rfl

theorem isNumberChar_of_mem (p : Spelling) : ∀ c ∈ p.number, isNumberChar c = true := by
  intro c member
  rcases List.mem_append.mp member with first | second
  · exact isNumberChar_of_isDigit (p.whole.isDigit c first)
  · unfold fractionChars at second
    split at second
    · cases second
    · next ds spelled =>
      rcases List.mem_cons.mp second with rfl | inside
      · rfl
      · exact isNumberChar_of_isDigit (ds.isDigit c inside)

theorem number_ne_nil (p : Spelling) : p.number ≠ [] := by
  intro empty
  obtain ⟨no_whole, no_fraction⟩ := List.append_eq_nil_iff.mp empty
  rcases p.nonempty with some_whole | ⟨ds, spelled, -⟩
  · exact some_whole no_whole
  · unfold fractionChars at no_fraction
    rw [spelled] at no_fraction
    cases no_fraction

/-- No blank stands inside of a spelling. -/
theorem isBlank_of_mem (p : Spelling) : ∀ c ∈ p.chars, Text.isBlank c = false := by
  intro c member
  simp only [chars, List.mem_append] at member
  rcases member with first | (second | third) | fourth
  · exact p.sign.isBlank_of_mem c first
  · exact Text.isBlank_of_isDigit (p.whole.isDigit c second)
  · unfold fractionChars at third
    split at third
    · cases third
    · next ds spelled =>
      rcases List.mem_cons.mp third with rfl | inside
      · decide
      · exact Text.isBlank_of_isDigit (ds.isDigit c inside)
  · exact p.suffix.isBlank_of_mem c fourth

theorem chars_ne_nil (p : Spelling) : p.chars ≠ [] := by
  intro empty
  have no_number := (List.append_eq_nil_iff.mp (List.append_eq_nil_iff.mp empty).2).1
  exact p.number_ne_nil no_number

/-! ## From a spelling to its parts -/

def lexeme (p : Spelling) : Lexeme where
  negative := p.sign = .minus
  whole := p.whole.chars
  fraction := p.places.chars
  suffix := p.suffix.chars

end Spelling

/-- A sign is cut off where no second one follows it. -/
theorem splitSign_chars (sign : Sign) {rest : List Char}
    (unsigned : ∀ c, rest.head? = some c → isNumberChar c = true) :
    splitSign (sign.chars ++ rest) = (decide (sign = .minus), rest) := by
  cases sign with
  | plus => rfl
  | minus => rfl
  | none =>
    rw [Sign.chars, List.nil_append]
    unfold splitSign
    split
    · cases unsigned '-' rfl
    · cases unsigned '+' rfl
    · rfl

/-- Every spelling is cut into its own parts. -/
theorem Lexeme.ofChars_chars (p : Spelling) : Lexeme.ofChars p.chars = .ok p.lexeme := by
  have signed : splitSign p.chars = (decide (p.sign = .minus), p.number ++ p.suffix.chars) := by
    apply splitSign_chars
    intro c found
    obtain ⟨d, ds, spelled⟩ := List.exists_cons_of_ne_nil p.number_ne_nil
    apply p.isNumberChar_of_mem c
    unfold Spelling.number at spelled
    rw [spelled] at found
    cases found
    simp [Spelling.number, spelled]
  have number_eq : (p.number ++ p.suffix.chars).takeWhile isNumberChar = p.number :=
    Text.takeWhile_of_stop p.isNumberChar_of_mem p.suffix.head_not_number
  have suffix_eq : (p.number ++ p.suffix.chars).dropWhile isNumberChar = p.suffix.chars :=
    Text.dropWhile_of_stop p.isNumberChar_of_mem p.suffix.head_not_number
  have digits : ∀ c ∈ p.whole.chars, (c != '.') = true := fun c member =>
    ne_point_of_isDigit (p.whole.isDigit c member)
  have whole_eq : p.number.takeWhile (· != '.') = p.whole.chars :=
    Text.takeWhile_of_stop digits p.fractionChars_head
  have fraction_eq : (p.number.dropWhile (· != '.')).drop 1 = p.places.chars := by
    rw [Spelling.number, Text.dropWhile_of_stop digits p.fractionChars_head, p.drop_fractionChars]
  have some_digit : (p.whole.chars.isEmpty && p.places.chars.isEmpty) = false := by
    rcases p.nonempty with some_whole | ⟨ds, spelled, some_place⟩
    · simp [some_whole]
    · simp [Spelling.places, spelled, some_place]
  have no_point : p.places.chars.contains '.' = false := by
    cases found : p.places.chars.contains '.' with
    | false => rfl
    | true => cases p.places.isDigit '.' (List.contains_iff_mem.mp found)
  have short : ¬maxFractionDigits < p.places.chars.length := Nat.not_lt.mpr p.places_length_le
  unfold Lexeme.ofChars
  simp only [signed, number_eq, suffix_eq, whole_eq, fraction_eq, some_digit, no_point, short, Bool.false_eq_true,
    ↓reduceIte]
  rfl

/-! ## From parts to a spelling -/

/-- A sign is split off from every text. -/
theorem exists_splitSign (cs : List Char) :
    ∃ sign : Sign, (splitSign cs).1 = decide (sign = .minus) ∧ cs = sign.chars ++ (splitSign cs).2 := by
  unfold splitSign
  split
  · exact ⟨.minus, rfl, rfl⟩
  · exact ⟨.plus, rfl, rfl⟩
  · exact ⟨.none, rfl, rfl⟩

/-- Characters of a number other than the point are digits. -/
theorem isDigit_of_isNumberChar {c : Char} (numeric : isNumberChar c = true) (other : c ≠ '.') :
    c.isDigit = true := by
  unfold isNumberChar at numeric
  rw [Bool.or_eq_true, beq_iff_eq] at numeric
  exact numeric.resolve_right other

/-- A number with at most one point is digits, and where there is a point, the point and digits again. -/
theorem exists_digits_of_number {number : List Char} (numeric : ∀ c ∈ number, isNumberChar c = true)
    (one_point : '.' ∉ (number.dropWhile (· != '.')).drop 1) :
    ∃ (whole : Digits) (fraction : Option Digits), whole.chars = number.takeWhile (· != '.') ∧
      (fraction.getD .empty).chars = (number.dropWhile (· != '.')).drop 1 ∧
      number = whole.chars ++ (match fraction with | none => [] | some ds => '.' :: ds.chars) := by
  let whole := number.takeWhile (· != '.')
  let rest := number.dropWhile (· != '.')
  have halves : whole ++ rest = number := List.takeWhile_append_dropWhile
  have whole_digits : ∀ c ∈ whole, c.isDigit = true := by
    intro c member
    apply isDigit_of_isNumberChar (numeric c (halves ▸ List.mem_append_left rest member))
    simpa using Text.mem_takeWhile member
  have rest_digits : ∀ c ∈ rest.drop 1, c.isDigit = true := by
    intro c member
    apply isDigit_of_isNumberChar (numeric c (halves ▸ List.mem_append_right whole (List.mem_of_mem_drop member)))
    rintro rfl
    exact one_point member
  cases rest_eq : rest with
  | nil =>
    refine ⟨⟨whole, whole_digits⟩, none, rfl, ?_, ?_⟩
    · rw [show number.dropWhile (· != '.') = [] from rest_eq]
      rfl
    · rw [← halves, rest_eq]
  | cons c tail =>
    have head_eq : rest.head? = some c := by rw [rest_eq, List.head?_cons]
    have point : c = '.' := by simpa using Text.stop_of_dropWhile number c head_eq
    rw [rest_eq, List.drop_one, List.tail_cons] at rest_digits
    refine ⟨⟨whole, whole_digits⟩, some ⟨tail, rest_digits⟩, rfl, ?_, ?_⟩
    · rw [show number.dropWhile (· != '.') = c :: tail from rest_eq]
      rfl
    · rw [← halves, rest_eq, point]

/-- The parts that a text is cut into are those of a spelling, if the rest is a suffix. -/
theorem Lexeme.exists_spelling_of_ofChars {cs : List Char} {l : Lexeme} (cut : Lexeme.ofChars cs = .ok l) {s : Suffix}
    (suffixed : s.chars = l.suffix) : ∃ p : Spelling, p.chars = cs := by
  obtain ⟨sign, -, signed⟩ := exists_splitSign cs
  unfold Lexeme.ofChars at cut
  simp only at cut
  split at cut
  · cases cut
  next some_digit =>
  split at cut
  · cases cut
  next one_point =>
  split at cut
  · cases cut
  next short =>
  cases cut
  have ends : (splitSign cs).2.takeWhile isNumberChar ++ s.chars = (splitSign cs).2 := by
    rw [suffixed]
    exact List.takeWhile_append_dropWhile
  have numeric : ∀ c ∈ (splitSign cs).2.takeWhile isNumberChar, isNumberChar c = true :=
    fun c member => Text.mem_takeWhile member
  obtain ⟨whole, fraction, whole_eq, fraction_eq, number_eq⟩ :=
    exists_digits_of_number numeric fun member => one_point (List.contains_iff_mem.mpr member)
  rw [← whole_eq, ← fraction_eq] at some_digit
  rw [← fraction_eq] at short
  have some_part : whole.chars ≠ [] ∨ ∃ ds, fraction = some ds ∧ ds.chars ≠ [] := by
    cases fraction with
    | none => exact .inl (by simpa [Digits.empty] using some_digit)
    | some ds =>
      rw [Bool.and_eq_true, List.isEmpty_iff, List.isEmpty_iff, not_and_or] at some_digit
      exact some_digit.imp_right fun some_place => ⟨ds, rfl, some_place⟩
  have places_short : ∀ ds, fraction = some ds → ds.chars.length ≤ 9 := by
    rintro ds rfl
    exact Nat.not_lt.mp short
  refine ⟨⟨sign, whole, fraction, s, some_part, places_short⟩, ?_⟩
  rw [number_eq] at ends
  rw [signed, ← ends]
  cases fraction with
  | none | some ds => rfl

end ClusterCost.Quantity
