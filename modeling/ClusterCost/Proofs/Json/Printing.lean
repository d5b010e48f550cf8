import ClusterCost.Json.Printer
import ClusterCost.Proofs.Decimal.Layout

/-!
# JSON texts that are written

What is written for a tree without faults is a document again, and nothing follows it (`parse_pretty`). Names, texts and
truth values are read as they were. A number is read as its token is, which denotes a whole number exactly and a float
up to half a unit of its last place; the reader's own arithmetic comes on top.
-/
namespace ClusterCost.Json

/-! ## Texts -/

/-- Control characters are written by their numbers. -/
theorem unicodeEscape_eq : ∀ n < 32,
    unicodeEscape n = ['\\', 'u', '0', '0', Nat.digitChar (n / 16), Nat.digitChar (n % 16)] ∧
      Text.hexRun? ['0', '0', Nat.digitChar (n / 16), Nat.digitChar (n % 16)] = some n := by
  decide +kernel

/-- Every character is found again in the form that it is written in. -/
theorem stringPieces?_escapedChar (c : Char) {cs after : List Char} {pieces : List Piece}
    (found : stringPieces? cs = some (pieces, after)) :
    stringPieces? (escapedChar c ++ cs) = some (.char c :: pieces, after) := by
  unfold escapedChar
  split
  · simp [stringPieces?, escaped?, found]
  · simp [stringPieces?, escaped?, found]
  · simp [stringPieces?, escaped?, found]
  · simp [stringPieces?, escaped?, found]
  · simp [stringPieces?, escaped?, found]
  · simp [stringPieces?, escaped?, found]
  · simp [stringPieces?, escaped?, found]
  · next no_quote no_escape _ _ _ _ _ =>
    split
    · next control =>
      have small : c.toNat < 32 := control
      obtain ⟨escape_eq, unit_eq⟩ := unicodeEscape_eq c.toNat small
      have whole : Piece.ofUnit c.toNat = .char c := by
        have no_half : ¬(isHighSurrogate c.toNat || isLowSurrogate c.toNat) = true := by
          simp only [isHighSurrogate, isLowSurrogate, Bool.or_eq_true, Bool.and_eq_true, decide_eq_true_eq]
          omega
        rw [Piece.ofUnit, if_neg no_half, Char.ofNat_toNat]
      rw [escape_eq]
      simp [stringPieces?, unit_eq, found, whole]
    · next printed =>
      rw [List.singleton_append, stringPieces?.eq_def]
      split
      · next same => cases same
      · next same => exact absurd (List.cons.inj same).1 no_quote
      · next same => exact absurd (List.cons.inj same).1 no_escape
      · next same => exact absurd (List.cons.inj same).1 no_escape
      · next same =>
        obtain ⟨rfl, rfl⟩ := List.cons.inj same
        rw [if_neg printed, found]
        rfl

theorem stringPieces?_escaped (cs rest : List Char) :
    stringPieces? (cs.flatMap escapedChar ++ '"' :: rest) = some (cs.map .char, rest) := by
  induction cs with
  | nil => simp [stringPieces?]
  | cons c cs ih =>
    rw [List.flatMap_cons, List.append_assoc]
    exact stringPieces?_escapedChar c ih

/-- A string token holds its text. -/
theorem stringTail?_escaped (s : String) (rest : List Char) :
    stringTail? (s.toList.flatMap escapedChar ++ '"' :: rest) = some (some s, rest) := by
  simp [stringTail?, stringPieces?_escaped, joinPieces?_chars]

theorem toList_stringToken (s : String) (rest : List Char) :
    (stringToken s).toList ++ rest = '"' :: (s.toList.flatMap escapedChar ++ '"' :: rest) := by
  simp [stringToken]

/-! ## Numbers -/

def Number.numeral : Number → Numeral
  | .integer n => ⟨decide (n < 0), Nat.toDigits 10 n.natAbs, none, none⟩
  | .float x =>
    match Decimal.Binary.ofFloat? x with
    | some b => floatLayout.numeral b
    | none => ⟨false, [], none, none⟩

def Number.IsFinite : Number → Prop
  | .integer _ => True
  | .float x => ∃ b, Decimal.Binary.ofFloat? x = some b

theorem Number.isToken_numeral {n : Number} (finite : n.IsFinite) : n.numeral.IsToken := by
  cases n with
  | integer n =>
    refine { whole := Text.isDigit_of_mem_toDigits, places := by simp [numeral, Numeral.places], leads := ?_,
             fraction := nofun, exponent := nofun }
    rcases Nat.eq_zero_or_pos n.natAbs with zero | pos
    · left
      change Nat.toDigits 10 n.natAbs = ['0']
      rw [zero]
      rfl
    · exact .inr ⟨Nat.toDigits_ne_nil, Text.head_toDigits_ne pos⟩
  | float x =>
    obtain ⟨b, finite⟩ := finite
    unfold numeral
    dsimp only
    rw [finite]
    exact Decimal.isToken_numeral floatLayout (Decimal.Binary.bounded_of_ofFloat? finite)

theorem Number.chars_numeral {n : Number} (finite : n.IsFinite) : n.token.toList = n.numeral.chars := by
  cases n with
  | integer n =>
    unfold token numeral Text.numeral
    by_cases negative : n < 0
    · simp [Numeral.chars, Numeral.unsignedChars, Numeral.fractionChars, Numeral.exponentChars, negative]
    · simp [Numeral.chars, Numeral.unsignedChars, Numeral.fractionChars, Numeral.exponentChars, negative]
  | float x =>
    obtain ⟨b, finite⟩ := finite
    unfold token numeral Decimal.Layout.render
    dsimp only
    rw [finite]
    dsimp only
    rw [String.toList_ofList, Decimal.chars_numeral]

/-- What a token of a number is read as. -/
def Number.reread (n : Number) : Json :=
  ofNumber? n.numeral.toNumber?

theorem Number.readNumber_token {n : Number} (finite : n.IsFinite) {rest : List Char} (ends : EndsNumber rest) :
    readNumber (n.token.toList ++ rest) = (n.reread, some rest) := by
  rw [Number.chars_numeral finite, readNumber, Numeral.numeral?_chars (Number.isToken_numeral finite) ends]
  unfold reread
  dsimp only
  cases n.numeral.toNumber? with
  | none => rfl
  | some m => rfl

/-! ## Trees -/

mutual

/-- A tree without faults, whose floats are finite. -/
def IsPrintable : Json → Prop
  | .number n => n.IsFinite
  | .array items => ItemsPrintable items
  | .object members => MembersPrintable members
  | .unreadable => False
  | .broken => False
  | _ => True

def ItemsPrintable : List Json → Prop
  | [] => True
  | item :: items => item.IsPrintable ∧ ItemsPrintable items

def MembersPrintable : List (Option String × Json) → Prop
  | [] => True
  | (name, value) :: members => name.isSome ∧ value.IsPrintable ∧ MembersPrintable members

end

mutual

/-- The tree that is read where a tree was written: every number is what its token is read as. -/
def reread : Json → Json
  | .number n => n.reread
  | .array items => .array (rereadItems items)
  | .object members => .object (rereadMembers members)
  | j => j

def rereadItems : List Json → List Json
  | [] => []
  | item :: items => item.reread :: rereadItems items

def rereadMembers : List (Option String × Json) → List (Option String × Json)
  | [] => []
  | (name, value) :: members => (name, value.reread) :: rereadMembers members

end

section Gaps

variable {depth fuel : Nat} {cs rest : List Char}

theorem skipGaps_newline (depth : Nat) (cs : List Char) : skipGaps ((newline depth).toList ++ cs) = skipGaps cs := by
  have blanks (k : Nat) : skipGaps (List.replicate k ' ' ++ cs) = skipGaps cs := by
    induction k with
    | zero => rfl
    | succ k ih => exact ih
  rw [newline, String.toList_ofList]
  exact blanks (2 * depth)

theorem readValue_newline (fuel depth : Nat) (cs : List Char) :
    readValue fuel ((newline depth).toList ++ cs) = readValue fuel cs := by
  cases fuel with
  | zero => rfl
  | succ fuel => rw [readValue, skipGaps_newline, readValue]

theorem endsNumber_newline (depth : Nat) (cs : List Char) : EndsNumber ((newline depth).toList ++ cs) := by
  intro c found
  rw [newline, String.toList_ofList] at found
  cases found
  exact ⟨rfl, by decide, by decide, by decide⟩

end Gaps

/-! ## One step of the reader -/

section Steps

variable {fuel depth : Nat} {cs inner more rest : List Char} {item value : Json} {items : List Json} {name : String}
  {members : List (Option String × Json)}

theorem readValue_string (fuel : Nat) (s : String) (rest : List Char) :
    readValue (fuel + 1) ((stringToken s).toList ++ rest) = (.string s, some rest) := by
  have first (cs : List Char) : skipGaps ('"' :: cs) = '"' :: cs := rfl
  rw [toList_stringToken, readValue, first]
  simp [readString, stringTail?_escaped]

theorem readValue_token {n : Number} (finite : n.IsFinite) (fuel : Nat) (ends : EndsNumber rest) :
    readValue (fuel + 1) (n.token.toList ++ rest) = (n.reread, some rest) := by
  obtain ⟨c, cs, start_eq, starts⟩ := Numeral.exists_start (Number.isToken_numeral finite)
  have token := Number.readNumber_token finite ends
  rw [Number.chars_numeral finite, start_eq] at token ⊢
  exact (readValue_number starts fuel).trans token

theorem readValue_blank (fuel : Nat) (cs : List Char) : readValue fuel (' ' :: cs) = readValue fuel cs := by
  have first : skipGaps (' ' :: cs) = skipGaps cs := rfl
  cases fuel with
  | zero => rfl
  | succ fuel => rw [readValue, first, readValue]

/-- Behind a bracket that is not closed at once there are items. -/
theorem readValue_array (opened : ∀ after, skipGaps inner ≠ ']' :: after)
    (read : readItems fuel inner = (items, some rest)) :
    readValue (fuel + 1) ('[' :: inner) = (.array items, some rest) := by
  have first : skipGaps ('[' :: inner) = '[' :: inner := rfl
  rw [readValue, first]
  -- What is opened and not closed at once is the other case of the reader.
  simp only [read]

/-- Behind a brace that is not closed at once there are members. -/
theorem readValue_object (opened : ∀ after, skipGaps inner ≠ '\x7d' :: after)
    (read : readMembers fuel inner = (members, some rest)) :
    readValue (fuel + 1) ('\x7b' :: inner) = (.object members, some rest) := by
  have first : skipGaps ('\x7b' :: inner) = '\x7b' :: inner := rfl
  rw [readValue, first]
  simp only [read]

theorem readItems_last (read : readValue fuel cs = (item, some ((newline depth).toList ++ ']' :: rest))) :
    readItems (fuel + 1) cs = ([item], some rest) := by
  have closed : skipGaps (']' :: rest) = ']' :: rest := rfl
  simp [readItems, read, skipGaps_newline, closed]

theorem readItems_more (read : readValue fuel cs = (item, some (',' :: more)))
    (others : readItems fuel more = (items, some rest)) : readItems (fuel + 1) cs = (item :: items, some rest) := by
  have comma : skipGaps (',' :: more) = ',' :: more := rfl
  simp [readItems, read, comma, others]

theorem readMembers_last {outer : Nat}
    (read : readValue fuel cs = (value, some ((newline outer).toList ++ '\x7d' :: rest))) :
    readMembers (fuel + 1) ((newline depth).toList ++ ((stringToken name).toList ++ ':' :: ' ' :: cs)) =
      ([(some name, value)], some rest) := by
  have first (cs : List Char) : skipGaps ('"' :: cs) = '"' :: cs := rfl
  have colon (cs : List Char) : skipGaps (':' :: cs) = ':' :: cs := rfl
  have closed : skipGaps ('\x7d' :: rest) = '\x7d' :: rest := rfl
  simp [readMembers, skipGaps_newline, toList_stringToken, first, stringTail?_escaped, colon, readValue_blank, read,
    closed]

theorem readMembers_more (read : readValue fuel cs = (value, some (',' :: more)))
    (others : readMembers fuel more = (members, some rest)) :
    readMembers (fuel + 1) ((newline depth).toList ++ ((stringToken name).toList ++ ':' :: ' ' :: cs)) =
      ((some name, value) :: members, some rest) := by
  have first (cs : List Char) : skipGaps ('"' :: cs) = '"' :: cs := rfl
  have colon (cs : List Char) : skipGaps (':' :: cs) = ':' :: cs := rfl
  have comma : skipGaps (',' :: more) = ',' :: more := rfl
  simp [readMembers, skipGaps_newline, toList_stringToken, first, stringTail?_escaped, colon, readValue_blank, read,
    comma, others]

end Steps

/-! ## Whole trees -/

theorem toList_array (depth : Nat) (item : Json) (items : List Json) (rest : List Char) :
    (prettyAt depth (.array (item :: items))).toList ++ rest =
      '[' :: ((newline (depth + 1)).toList ++ ((prettyAt (depth + 1) item).toList ++
        ((prettyItems (depth + 1) items).toList ++ ((newline depth).toList ++ ']' :: rest)))) := by
  simp [prettyAt]

theorem toList_items (depth : Nat) (item : Json) (items : List Json) (rest : List Char) :
    (prettyItems depth (item :: items)).toList ++ rest =
      ',' :: ((newline depth).toList ++ ((prettyAt depth item).toList ++ ((prettyItems depth items).toList ++ rest))) := by
  simp [prettyItems]

theorem toList_object (depth : Nat) (name : String) (value : Json) (members : List (Option String × Json))
    (rest : List Char) : (prettyAt depth (.object ((some name, value) :: members))).toList ++ rest =
      '\x7b' :: ((newline (depth + 1)).toList ++ ((stringToken name).toList ++ ':' :: ' ' ::
        ((prettyAt (depth + 1) value).toList ++
          ((prettyMembers (depth + 1) members).toList ++ ((newline depth).toList ++ '\x7d' :: rest))))) := by
  simp [prettyAt]

theorem toList_members (depth : Nat) (name : String) (value : Json) (members : List (Option String × Json))
    (rest : List Char) : (prettyMembers depth ((some name, value) :: members)).toList ++ rest =
      ',' :: ((newline depth).toList ++ ((stringToken name).toList ++ ':' :: ' ' :: ((prettyAt depth value).toList ++
        ((prettyMembers depth members).toList ++ rest)))) := by
  simp [prettyMembers]

/-- A value starts with a character that is no gap and closes no array. -/
theorem exists_start_prettyAt {j : Json} (printable : j.IsPrintable) (depth : Nat) :
    ∃ c cs, (prettyAt depth j).toList = c :: cs ∧ isGap c = false ∧ c ≠ ']' := by
  cases j with
  | null => exact ⟨'n', ['u', 'l', 'l'], by simp [prettyAt], rfl, by decide⟩
  | bool b =>
    cases b with
    | false => exact ⟨'f', ['a', 'l', 's', 'e'], by simp [prettyAt], rfl, by decide⟩
    | true => exact ⟨'t', ['r', 'u', 'e'], by simp [prettyAt], rfl, by decide⟩
  | number n =>
    obtain ⟨c, cs, start_eq, starts⟩ := Numeral.exists_start (Number.isToken_numeral printable)
    refine ⟨c, cs, (Number.chars_numeral printable).trans start_eq, (start_ne starts).1, ?_⟩
    rintro rfl
    rcases starts with minus | digit
    · cases minus
    · cases digit
  | string s =>
    refine ⟨'"', s.toList.flatMap escapedChar ++ ['"'], ?_, rfl, by decide⟩
    simp [prettyAt, stringToken]
  | array items =>
    cases items with
    | nil => exact ⟨'[', [']'], by simp [prettyAt], rfl, by decide⟩
    | cons item items => exact ⟨'[', _, (List.append_nil _).symm.trans (toList_array depth item items []), rfl, by decide⟩
  | object members =>
    cases members with
    | nil => exact ⟨'\x7b', ['\x7d'], by simp [prettyAt], rfl, by decide⟩
    | cons member members =>
      obtain ⟨name | name, value⟩ := member
      · cases printable.1
      · exact ⟨'\x7b', _, (List.append_nil _).symm.trans (toList_object depth name value members []), rfl, by decide⟩
  | unreadable => cases printable
  | broken => cases printable

theorem skipGaps_prettyAt {j : Json} (printable : j.IsPrintable) (depth : Nat) (rest : List Char) :
    ∀ after, skipGaps ((prettyAt depth j).toList ++ rest) ≠ ']' :: after := by
  obtain ⟨c, cs, start_eq, no_gap, open_start⟩ := exists_start_prettyAt printable depth
  intro after closed
  rw [start_eq, List.cons_append, skipGaps, List.dropWhile_cons_of_neg (by simp [no_gap])] at closed
  exact open_start (List.cons.inj closed).1

theorem length_prettyAt_pos {j : Json} (printable : j.IsPrintable) (depth : Nat) :
    0 < (prettyAt depth j).toList.length := by
  obtain ⟨c, cs, start_eq, -⟩ := exists_start_prettyAt printable depth
  simp [start_eq]

theorem endsNumber_items (depth : Nat) (items : List Json) {rest : List Char} (ends : EndsNumber rest) :
    EndsNumber ((prettyItems depth items).toList ++ rest) := by
  cases items with
  | nil =>
    rw [prettyItems]
    exact ends
  | cons item items =>
    rw [toList_items]
    intro c found
    cases found
    exact ⟨rfl, by decide, by decide, by decide⟩

theorem endsNumber_members (depth : Nat) {members : List (Option String × Json)} (printable : MembersPrintable members)
    {rest : List Char} (ends : EndsNumber rest) : EndsNumber ((prettyMembers depth members).toList ++ rest) := by
  cases members with
  | nil =>
    rw [prettyMembers]
    exact ends
  | cons member members =>
    obtain ⟨name | name, value⟩ := member
    · cases printable.1
    · rw [toList_members]
      intro c found
      cases found
      exact ⟨rfl, by decide, by decide, by decide⟩

/-- Values are read back with fuel for their characters. -/
def ReadsValues (fuel : Nat) : Prop :=
  ∀ (j : Json) (depth : Nat) (rest : List Char), j.IsPrintable → (prettyAt depth j).toList.length ≤ fuel →
    EndsNumber rest → readValue fuel ((prettyAt depth j).toList ++ rest) = (j.reread, some rest)

/-- Items are read back, up to the bracket behind the last of them. -/
def ReadsItems (fuel : Nat) : Prop :=
  ∀ (item : Json) (items : List Json) (depth outer : Nat) (rest : List Char), ItemsPrintable (item :: items) →
    (prettyAt depth item).toList.length + (prettyItems depth items).toList.length < fuel →
    readItems fuel ((newline depth).toList ++ ((prettyAt depth item).toList ++ ((prettyItems depth items).toList ++
      ((newline outer).toList ++ ']' :: rest)))) = (rereadItems (item :: items), some rest)

/-- Members are read back, up to the brace behind the last of them. -/
def ReadsMembers (fuel : Nat) : Prop :=
  ∀ (name : String) (value : Json) (members : List (Option String × Json)) (depth outer : Nat) (rest : List Char),
    MembersPrintable ((some name, value) :: members) →
    (prettyAt depth value).toList.length + (prettyMembers depth members).toList.length < fuel →
    readMembers fuel ((newline depth).toList ++ ((stringToken name).toList ++ ':' :: ' ' ::
      ((prettyAt depth value).toList ++ ((prettyMembers depth members).toList ++
        ((newline outer).toList ++ '\x7d' :: rest))))) = (rereadMembers ((some name, value) :: members), some rest)

section Fuel

variable {fuel : Nat}

theorem readsValues_succ (reads_items : ReadsItems fuel) (reads_members : ReadsMembers fuel) : ReadsValues (fuel + 1) := by
  intro j depth rest printable enough ends
  cases j with
  | null => simp [prettyAt, readValue, skipGaps, isGap, reread]
  | bool b =>
    cases b with
    | false | true => simp [prettyAt, readValue, skipGaps, isGap, reread]
  | number n => exact readValue_token printable fuel ends
  | string s => exact readValue_string fuel s rest
  | array items =>
    cases items with
    | nil => simp [prettyAt, readValue, skipGaps, isGap, reread, rereadItems]
    | cons item items =>
      have length_eq := congrArg List.length (toList_array depth item items [])
      simp only [List.length_append, List.length_cons, List.length_nil] at length_eq
      rw [IsPrintable] at printable
      rw [toList_array, reread]
      refine readValue_array ?_ (reads_items item items (depth + 1) depth rest printable (by omega))
      rw [skipGaps_newline]
      exact skipGaps_prettyAt printable.1 (depth + 1) _
  | object members =>
    cases members with
    | nil => simp [prettyAt, readValue, skipGaps, isGap, reread, rereadMembers]
    | cons member members =>
      obtain ⟨name | name, value⟩ := member
      · cases printable.1
      · have length_eq := congrArg List.length (toList_object depth name value members [])
        simp only [List.length_append, List.length_cons, List.length_nil] at length_eq
        rw [IsPrintable] at printable
        rw [toList_object, reread]
        refine readValue_object ?_ (reads_members name value members (depth + 1) depth rest printable (by omega))
        rw [skipGaps_newline, toList_stringToken]
        intro after closed
        exact absurd (List.cons.inj closed).1 (by decide)
  | unreadable => cases printable
  | broken => cases printable

theorem readsItems_succ (reads_values : ReadsValues fuel) (reads_items : ReadsItems fuel) : ReadsItems (fuel + 1) := by
  intro item items depth outer rest printable enough
  have first := reads_values item depth _ printable.1 (by omega)
    (endsNumber_items depth items (endsNumber_newline outer (']' :: rest)))
  rw [← readValue_newline fuel depth] at first
  cases items with
  | nil =>
    rw [prettyItems, String.toList_empty, List.nil_append] at first ⊢
    exact readItems_last first
  | cons next items =>
    have length_eq := congrArg List.length (toList_items depth next items [])
    have length_pos := length_prettyAt_pos printable.1 depth
    simp only [List.length_append, List.length_cons, List.length_nil] at length_eq
    rw [toList_items] at first ⊢
    exact readItems_more first (reads_items next items depth outer rest printable.2 (by omega))

theorem readsMembers_succ (reads_values : ReadsValues fuel) (reads_members : ReadsMembers fuel) :
    ReadsMembers (fuel + 1) := by
  intro name value members depth outer rest printable enough
  have first := reads_values value depth _ printable.2.1 (by omega)
    (endsNumber_members depth printable.2.2 (endsNumber_newline outer ('\x7d' :: rest)))
  cases members with
  | nil =>
    rw [prettyMembers, String.toList_empty, List.nil_append] at first ⊢
    exact readMembers_last first
  | cons member members =>
    obtain ⟨next | next, following⟩ := member
    · cases printable.2.2.1
    · have length_eq := congrArg List.length (toList_members depth next following members [])
      have length_pos := length_prettyAt_pos printable.2.1 depth
      simp only [List.length_append, List.length_cons, List.length_nil] at length_eq
      rw [toList_members] at first ⊢
      exact readMembers_more first (reads_members next following members depth outer rest printable.2.2 (by omega))

/-- Every step of the reader takes fuel, so the induction is on the fuel and not on the trees. -/
theorem reads_all (fuel : Nat) : ReadsValues fuel ∧ ReadsItems fuel ∧ ReadsMembers fuel := by
  induction fuel with
  | zero =>
    refine ⟨fun j depth rest printable enough => ?_, fun _ _ _ _ _ _ enough => ?_, fun _ _ _ _ _ _ _ enough => ?_⟩
    · exact absurd (length_prettyAt_pos printable depth) (not_lt.mpr enough)
    · exact absurd enough (Nat.not_lt_zero _)
    · exact absurd enough (Nat.not_lt_zero _)
  | succ fuel ih =>
    obtain ⟨values, items, members⟩ := ih
    exact ⟨readsValues_succ items members, readsItems_succ values items, readsMembers_succ values members⟩

end Fuel

/-- What is written for a tree without faults is read back, with whatever numbers its tokens are read as. -/
theorem parse_pretty {j : Json} (printable : j.IsPrintable) : Document.parse (pretty j ++ "\n") = ⟨j.reread, true⟩ := by
  have ends : EndsNumber ['\n'] := by
    intro c found
    cases found
    exact ⟨rfl, by decide, by decide, by decide⟩
  have text_eq : (pretty j ++ "\n").toList = (prettyAt 0 j).toList ++ ['\n'] := by simp [pretty]
  have read := (reads_all (2 * ((prettyAt 0 j).toList ++ ['\n']).length + 2)).1 j 0 _ printable
    (by rw [List.length_append]; omega) ends
  unfold Document.parse
  dsimp only
  rw [text_eq, read]
  rfl

end ClusterCost.Json
