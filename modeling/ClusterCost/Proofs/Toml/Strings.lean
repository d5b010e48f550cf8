import ClusterCost.Proofs.Text.Trim
import ClusterCost.Toml.Spelling
import ClusterCost.Toml.Text

/-!
# Strings that are read back

Every text is read back from the form in which it is written (`text?_renderText`). Between double quotes that is so for
any text, on one line and over several, as every character there `Stands` in a way that its reader knows. Between single
quotes nothing can be escaped, and it depends on what the choice of the form promises (`of_eq_literal`,
`of_eq_longLiteral`).

The two long forms have the same difficulty: quotes of the text that touch the closing ones. A text is read up to the
first three quotes in a row, and those that are left over belong to it. `LongBody` describes a text in which no three
quotes stand next to each other, and `LongReader` what the two readers have in common.
-/
namespace ClusterCost.Toml

/-! ## Characters between double quotes -/

theorem isPlain_of_not_isControl {c : Char} (allowed : isControl c = false) (inline : c ≠ '\n') : isPlain c = true := by
  simp only [isControl, Bool.or_eq_false_iff, Bool.and_eq_false_iff, decide_eq_false_iff_not, bne_eq_false_iff_eq,
    beq_eq_false_iff_ne] at allowed
  obtain ⟨(high | tab) | lineBreak, notDelete⟩ := allowed
  · simp only [isPlain, Bool.or_eq_true, Bool.and_eq_true, decide_eq_true_eq, bne_iff_ne]
    exact .inr ⟨by omega, notDelete⟩
  · simp [isPlain, tab]
  · exact absurd lineBreak inline

theorem inline_of_isPlain {c : Char} (plain : isPlain c = true) : c ≠ '\n' ∧ c ≠ '\r' := by
  constructor <;> rintro rfl <;> exact absurd plain (by decide)

theorem numbered?_of_lt : ∀ n < 128, numbered? ['0', '0', hexDigit (n / 16), hexDigit (n % 16)] = some (Char.ofNat n) := by
  decide +kernel

/-- The number in the escape of a control is its own. -/
theorem numbered?_of_isControl {c : Char} (control : isControl c = true) :
    numbered? ['0', '0', hexDigit (c.toNat / 16), hexDigit (c.toNat % 16)] = some c := by
  have small : c.toNat < 128 := by
    simp only [isControl, Bool.or_eq_true, Bool.and_eq_true, decide_eq_true_eq, beq_iff_eq] at control
    omega
  rw [numbered?_of_lt c.toNat small, Char.ofNat_toNat]

/-- The ways in which a character can stand between double quotes; a line break only over several lines. -/
inductive Stands (long : Bool) : Char → List Char → Prop where
  | itself {c : Char} (plain : isPlain c = true) (unquoted : c ≠ '"') (unescaped : c ≠ '\\') : Stands long c [c]
  | lineBreak (allowed : long = true) : Stands long '\n' ['\n']
  | escape {letter c : Char} (known : escaped? letter = some c) : Stands long c ['\\', letter]
  | number {c : Char} (control : isControl c = true) : Stands long c (numbered c)

theorem stands_spelled (long : Bool) {c : Char} (unquoted : c ≠ '"') : Stands long c (spelled long c) := by
  unfold spelled
  split
  · exact .escape rfl
  · exact .escape rfl
  · cases long with
    | true => exact .lineBreak rfl
    | false => exact .escape rfl
  · exact .escape rfl
  · exact .escape rfl
  · exact .escape rfl
  · next _ _ _ inline _ _ unescaped =>
    by_cases control : isControl c = true
    · rw [if_pos control]
      exact .number control
    · rw [if_neg control]
      exact .itself (isPlain_of_not_isControl (Bool.eq_false_iff.mpr control) inline) unquoted unescaped

/-- The letters of escapes. -/
theorem mem_letters_of_escaped? {letter c : Char} (known : escaped? letter = some c) :
    letter ∈ ['b', 'f', 'n', 'r', 't', '\\', '"'] := by
  unfold escaped? at known
  split at known <;> first | decide | cases known

/-- The reader of one line takes a character in whatever way it stands there. -/
theorem basic?_of_stands {c : Char} {spelling : List Char} (stands : Stands false c spelling) (tail : List Char) :
    basic? (spelling ++ tail) = (basic? tail).map (·.push c) := by
  cases stands with
  | itself plain unquoted unescaped =>
    rw [List.singleton_append, basic?, if_pos plain]
    -- The patterns before the last one need a quote or a backslash.
    all_goals grind
  | lineBreak allowed => exact nomatch allowed
  | @escape letter c known =>
    have letters := mem_letters_of_escaped? known
    rw [List.cons_append, List.singleton_append, basic?, known]
    · cases basic? tail <;> rfl
    · grind
    · grind
  | number control =>
    unfold numbered
    simp only [List.cons_append, List.nil_append]
    rw [basic?, numbered?_of_isControl control]
    cases basic? tail <;> rfl

/-- No escape joins lines. -/
theorem startsLine_of_escape {letter c : Char} (known : escaped? letter = some c) (tail : List Char) :
    startsLine (letter :: tail) = false := by
  have letters := mem_letters_of_escaped? known
  simp only [List.mem_cons, List.not_mem_nil, or_false] at letters
  rcases letters with rfl | rfl | rfl | rfl | rfl | rfl | rfl <;> rfl

/-- The reader of several lines takes a character in whatever way it stands there. -/
theorem longBasic?_of_stands {c : Char} {spelling : List Char} (stands : Stands true c spelling) (tail : List Char) :
    longBasic? false (spelling ++ tail) = (longBasic? false tail).map (·.push c) := by
  cases stands with
  | itself plain unquoted unescaped =>
    have inline := inline_of_isPlain plain
    rw [List.singleton_append, longBasic?, Bool.false_and, if_neg Bool.false_ne_true, if_pos plain]
    -- Here line breaks have patterns of their own, too.
    all_goals grind
  | lineBreak allowed =>
    rw [List.singleton_append, longBasic?, if_neg Bool.false_ne_true]
  | @escape letter c known =>
    have letters := mem_letters_of_escaped? known
    rw [List.cons_append, List.singleton_append, longBasic?, startsLine_of_escape known, if_neg Bool.false_ne_true, known]
    · cases longBasic? false tail <;> rfl
    · grind
    · grind
  | number control =>
    unfold numbered
    simp only [List.cons_append, List.nil_append]
    rw [longBasic?, numbered?_of_isControl control]
    cases longBasic? false tail <;> rfl

/-! ## A text between double quotes on one line -/

theorem escapeFrom_quote {long : Bool} {quotes : Nat} {cs : List Char} (row : ¬quotes < quotesInRow long) :
    escapeFrom long quotes ('"' :: cs) = ['\\', '"'] ++ escapeFrom long 0 cs := by
  rw [escapeFrom, if_neg row]
  rfl

theorem escapeFrom_other {long : Bool} {quotes : Nat} {c : Char} {cs : List Char} (unquoted : c ≠ '"') :
    escapeFrom long quotes (c :: cs) = spelled long c ++ escapeFrom long 0 cs := by
  rw [escapeFrom]
  exact unquoted

/-- On one line every character stands in its own way, a double quote as an escape. -/
theorem exists_stands_escapeFrom (c : Char) (cs : List Char) :
    ∃ spelling, Stands false c spelling ∧ escapeFrom false 0 (c :: cs) = spelling ++ escapeFrom false 0 cs := by
  by_cases quoted : c = '"'
  · subst quoted
    exact ⟨_, .escape rfl, escapeFrom_quote (Nat.not_lt_zero 0)⟩
  · exact ⟨_, stands_spelled false quoted, escapeFrom_other quoted⟩

theorem basic?_escapeFrom (cs rest : List Char) :
    basic? (escapeFrom false 0 cs ++ '"' :: rest) = some (cs, rest) := by
  induction cs with
  | nil => rfl
  | cons c cs ih =>
    obtain ⟨spelling, stands, written⟩ := exists_stands_escapeFrom c cs
    rw [written, List.append_assoc, basic?_of_stands stands, ih]
    rfl

/-! ## The long forms -/

/-- What the readers of the two long forms do at a quote: three in a row close the text, and one with less than two after
it belongs to it. -/
structure LongReader (quote : Char) (read : List Char → Option TextReading) : Prop where
  inline : quote ≠ '\n'
  closes : ∀ rest, read (quote :: quote :: quote :: rest) = some (closing quote rest)
  keeps : ∀ tail, (∀ rest, tail ≠ quote :: quote :: rest) → read (quote :: tail) = (read tail).map (·.push quote)

theorem longReader_basic : LongReader '"' (longBasic? false) where
  inline := by decide
  closes _ := by rw [longBasic?]
  keeps tail alone := by
    rw [longBasic?, Bool.false_and, if_neg Bool.false_ne_true, if_pos (by decide)]
    all_goals grind

theorem longLiteral?_inner {c : Char} {tail : List Char} (allowed : isPlain c = true ∨ c = '\n')
    (alone : ∀ rest, c :: tail ≠ '\'' :: '\'' :: '\'' :: rest) :
    longLiteral? (c :: tail) = (longLiteral? tail).map (·.push c) := by
  have unreturned : c ≠ '\r' := by
    rintro rfl
    exact absurd allowed (by decide)
  rw [longLiteral?, if_pos (by simpa using allowed)]
  all_goals grind

theorem longReader_literal : LongReader '\'' longLiteral? where
  inline := by decide
  closes _ := by rw [longLiteral?]
  keeps tail alone := longLiteral?_inner (.inl (by decide)) (by simpa using alone)

/-- How a text stands in a long form after a number of quotes: quotes stand for themselves up to two in a row, and
everything else, which starts with no quote, is read as one character. -/
inductive LongBody (quote : Char) (read : List Char → Option TextReading) : Nat → List Char → List Char → Prop where
  | nil (quotes : Nat) : LongBody quote read quotes [] []
  | quote {quotes : Nat} {cs body : List Char} (row : quotes < 2) (others : LongBody quote read (quotes + 1) cs body) :
      LongBody quote read quotes (quote :: cs) (quote :: body)
  | char {quotes : Nat} {c first : Char} {spelling cs body : List Char} (other : first ≠ quote)
      (reads : ∀ tail, read (first :: spelling ++ tail) = (read tail).map (·.push c))
      (others : LongBody quote read 0 cs body) :
      LongBody quote read quotes (c :: cs) (first :: spelling ++ body)

/-- Up to two quotes before the end of the line belong to the text. -/
theorem closing_row {quote : Char} (inline : quote ≠ '\n') {quotes : Nat} (few : quotes ≤ 2) (rest : List Char) :
    closing quote (List.replicate quotes quote ++ '\n' :: rest) = (List.replicate quotes quote, '\n' :: rest) := by
  have other : ('\n' == quote) = false := beq_false_of_ne inline.symm
  match quotes, few with
  | 0, _ => cases rest <;> simp [closing, other]
  | 1, _ => simp [closing, other]
  | 2, _ => simp [closing]

/-- A text in a long form is read up to the closing quotes. By induction on how it stands there: where it ends with
quotes, the first three that are seen close it, and the one or two that are left over are its own. -/
theorem LongBody.read_eq {quote : Char} {read : List Char → Option TextReading} (reader : LongReader quote read)
    {quotes : Nat} {cs body : List Char} (long : LongBody quote read quotes cs body) (rest : List Char) :
    read (body ++ quote :: quote :: quote :: '\n' :: rest) = some (cs, '\n' :: rest) := by
  induction long with
  | nil quotes => exact (reader.closes _).trans (congrArg some (closing_row reader.inline (Nat.zero_le 2) rest))
  | char other reads others ih =>
    rw [List.append_assoc, reads, ih]
    rfl
  | quote row others ih =>
    cases others with
    | nil => exact (reader.closes _).trans (congrArg some (closing_row reader.inline (Nat.le_succ 1) rest))
    | char other reads others =>
      rw [List.cons_append, reader.keeps, ih]
      · rfl
      · intro after same
        exact other (List.cons.inj same).1
    | quote row' others =>
      cases others with
      | nil => exact (reader.closes _).trans (congrArg some (closing_row reader.inline (Nat.le_refl 2) rest))
      | char other reads others =>
        rw [List.cons_append, reader.keeps, ih]
        · rfl
        · intro after same
          exact other (List.cons.inj (List.cons.inj same).2).1
      | quote row'' others => omega

/-- No character stands in a way that starts with a quote, or with a line break that is not its own. -/
theorem Stands.exists_cons {long : Bool} {c : Char} {spelling : List Char} (stands : Stands long c spelling) :
    ∃ first others, spelling = first :: others ∧ first ≠ '"' ∧ first ≠ '\r' ∧ (first = '\n' → c = '\n') := by
  cases stands with
  | itself plain unquoted unescaped => exact ⟨c, [], rfl, unquoted, (inline_of_isPlain plain).2, id⟩
  | lineBreak allowed => exact ⟨_, _, rfl, by decide, by decide, fun _ => rfl⟩
  | escape known => exact ⟨_, _, rfl, by decide, by decide, nofun⟩
  | number control => exact ⟨_, _, rfl, by decide, by decide, nofun⟩

/-- Between three double quotes any text can stand. -/
theorem longBody_escapeFrom (quotes : Nat) (cs : List Char) :
    LongBody '"' (longBasic? false) quotes cs (escapeFrom true quotes cs) := by
  induction cs generalizing quotes with
  | nil => exact .nil quotes
  | cons c cs ih =>
    have char {spelling : List Char} (stands : Stands true c spelling) :
        LongBody '"' (longBasic? false) quotes (c :: cs) (spelling ++ escapeFrom true 0 cs) := by
      obtain ⟨first, others, written, other, -⟩ := stands.exists_cons
      subst written
      exact .char other (longBasic?_of_stands stands) (ih 0)
    by_cases quoted : c = '"'
    · subst quoted
      by_cases row : quotes < quotesInRow true
      · rw [escapeFrom, if_pos row]
        exact .quote row (ih (quotes + 1))
      · rw [escapeFrom_quote row]
        exact char (.escape rfl)
    · rw [escapeFrom_other quoted]
      exact char (stands_spelled true quoted)

/-- Between three single quotes a text can stand that has no three of them in a row. By induction on the text; `quotes`
of them were passed right before it. -/
theorem longBody_literal (quotes : Nat) (cs : List Char) (allowed : ∀ c ∈ cs, isPlain c = true ∨ c = '\n')
    (apart : ¬∃ before after, List.replicate quotes '\'' ++ cs = before ++ ['\'', '\'', '\''] ++ after) :
    LongBody '\'' longLiteral? quotes cs cs := by
  induction cs generalizing quotes with
  | nil => exact .nil quotes
  | cons c cs ih =>
    obtain ⟨first, others⟩ := List.forall_mem_cons.mp allowed
    by_cases quoted : c = '\''
    · subst quoted
      have row : quotes < 2 := by
        refine Nat.lt_of_not_le fun many => apart ⟨List.replicate (quotes - 2) '\'', cs, ?_⟩
        obtain ⟨more, rfl⟩ := Nat.exists_eq_add_of_le many
        rw [Nat.add_sub_cancel_left, Nat.add_comm, ← List.replicate_append_replicate]
        simp [List.replicate]
      refine .quote row (ih (quotes + 1) others ?_)
      rw [List.replicate_succ', List.append_assoc]
      exact apart
    · have reads (tail : List Char) : longLiteral? ([c] ++ tail) = (longLiteral? tail).map (·.push c) :=
        longLiteral?_inner first fun _ same => quoted (List.cons.inj same).1
      have rest := ih 0 others (by
        rintro ⟨before, after, same⟩
        refine apart ⟨List.replicate quotes '\'' ++ c :: before, after, ?_⟩
        have tail_eq : cs = before ++ ['\'', '\'', '\''] ++ after := same
        rw [tail_eq]
        simp)
      exact .char quoted reads rest

/-! ## The choice of the form -/

/-- A text gets two single quotes around it only if it has no other one, no control and no line break, but something that
double quotes would have to escape. -/
theorem of_eq_literal {cs : List Char} (form : Form.of cs = .literal) :
    cs ≠ [] ∧ ∀ c ∈ cs, (isPlain c && c != '\'') = true := by
  have choice : cs.any isControl = false ∧ cs.contains '\n' = false ∧ cs.contains '\'' = false ∧
      (cs.contains '\\' = true ∨ cs.contains '"' = true) := by
    unfold Form.of at form
    grind
  obtain ⟨harmless, flat, unquoted, special⟩ := choice
  have flat : '\n' ∉ cs := by simpa using flat
  have unquoted : '\'' ∉ cs := by simpa using unquoted
  constructor
  · rintro rfl
    exact absurd special (by decide)
  · intro c member
    have allowed : isControl c = false := by simpa using List.any_eq_false.mp harmless c member
    have plain := isPlain_of_not_isControl allowed fun same => flat (same ▸ member)
    rw [plain, Bool.true_and, bne_iff_ne]
    exact fun same => unquoted (same ▸ member)

/-- A text gets three single quotes around it only if it has no such run and no control. -/
theorem of_eq_longLiteral {cs : List Char} (form : Form.of cs = .longLiteral) :
    (∀ c ∈ cs, isPlain c = true ∨ c = '\n') ∧ Text.occurs ['\'', '\'', '\''] cs = false := by
  have choice : cs.any isControl = false ∧ Text.occurs ['\'', '\'', '\''] cs = false := by
    unfold Form.of at form
    grind
  refine ⟨fun c member => ?_, choice.2⟩
  have allowed : isControl c = false := by
    simpa using List.any_eq_false.mp choice.1 c member
  by_cases inline : c = '\n'
  · exact .inr inline
  · exact .inl (isPlain_of_not_isControl allowed inline)

/-! ## The four forms -/

theorem text?_basic (cs rest : List Char) : text? (Form.basic.render cs ++ '\n' :: rest) = some (cs, '\n' :: rest) := by
  have written : Form.basic.render cs ++ '\n' :: rest = '"' :: (escapeFrom false 0 cs ++ '"' :: '\n' :: rest) := by
    simp [Form.render, enclosed]
  have single : ∀ after, escapeFrom false 0 cs ++ '"' :: '\n' :: rest ≠ '"' :: '"' :: after := by
    intro after
    cases cs with
    | nil => simp [escapeFrom]
    | cons c cs =>
      obtain ⟨spelling, stands, spelled⟩ := exists_stands_escapeFrom c cs
      obtain ⟨first, others, rfl, unquoted, -⟩ := stands.exists_cons
      rw [spelled]
      exact fun same => unquoted (List.cons.inj same).1
  rw [written, text?, basic?_escapeFrom]
  exact single

theorem text?_literal {cs : List Char} (nonempty : cs ≠ []) (inner : ∀ c ∈ cs, (isPlain c && c != '\'') = true)
    (rest : List Char) : text? (Form.literal.render cs ++ '\n' :: rest) = some (cs, '\n' :: rest) := by
  have written : Form.literal.render cs ++ '\n' :: rest = '\'' :: (cs ++ '\'' :: '\n' :: rest) := by
    simp [Form.render, enclosed]
  have single : ∀ after, cs ++ '\'' :: '\n' :: rest ≠ '\'' :: '\'' :: after := by
    intro after
    cases cs with
    | nil => exact absurd rfl nonempty
    | cons c cs =>
      intro same
      have quoted : c = '\'' := (List.cons.inj same).1
      exact absurd (inner c List.mem_cons_self) (by rw [quoted]; decide)
  have stop : ∀ c, ('\'' :: '\n' :: rest).head? = some c → (isPlain c && c != '\'') = false := by
    rintro c ⟨⟩
    decide
  rw [written, text?, literal?]
  · rw [Text.takeWhile_of_stop inner stop, Text.dropWhile_of_stop inner stop]
    rfl
  · exact single

/-- The line break after the opening quotes is dropped, and no other one: without it the text has none to start with. -/
theorem dropBreak_opening {cs tail : List Char}
    (starts : ∀ c, tail.head? = some c → c ≠ '\r' ∧ (c = '\n' → '\n' ∈ cs)) :
    dropBreak (opening cs ++ tail) = tail := by
  unfold opening
  by_cases broken : '\n' ∈ cs
  · rw [if_pos (List.contains_iff_mem.mpr broken)]
    rfl
  · rw [if_neg (mt List.contains_iff_mem.mp broken), List.nil_append]
    have none : afterBreak? tail = none := by
      unfold afterBreak?
      split
      · exact absurd ((starts _ rfl).2 rfl) broken
      · exact absurd rfl (starts _ rfl).1
      · rfl
    rw [dropBreak, none]
    rfl

theorem text?_longBasic (cs rest : List Char) :
    text? (Form.longBasic.render cs ++ '\n' :: rest) = some (cs, '\n' :: rest) := by
  let after := escapeFrom true 0 cs ++ '"' :: '"' :: '"' :: '\n' :: rest
  have written : Form.longBasic.render cs ++ '\n' :: rest = '"' :: '"' :: '"' :: (opening cs ++ after) := by
    simp [Form.render, enclosed, after, List.replicate]
  have starts : ∀ c, after.head? = some c → c ≠ '\r' ∧ (c = '\n' → '\n' ∈ cs) := by
    rintro c found
    cases cs with
    | nil =>
      cases found
      decide
    | cons d cs =>
      by_cases quoted : d = '"'
      · subst quoted
        cases found
        exact ⟨by decide, nofun⟩
      · obtain ⟨first, others, spelled, -, unreturned, inline⟩ := (stands_spelled true quoted).exists_cons
        have same : first = c := by
          simpa [after, escapeFrom_other quoted, spelled] using found
        subst same
        exact ⟨unreturned, fun broken => inline broken ▸ List.mem_cons_self⟩
  rw [written, text?, dropBreak_opening starts]
  exact (longBody_escapeFrom 0 cs).read_eq longReader_basic rest

theorem text?_longLiteral {cs : List Char} (allowed : ∀ c ∈ cs, isPlain c = true ∨ c = '\n')
    (apart : Text.occurs ['\'', '\'', '\''] cs = false) (rest : List Char) :
    text? (Form.longLiteral.render cs ++ '\n' :: rest) = some (cs, '\n' :: rest) := by
  let after := cs ++ '\'' :: '\'' :: '\'' :: '\n' :: rest
  have written : Form.longLiteral.render cs ++ '\n' :: rest = '\'' :: '\'' :: '\'' :: (opening cs ++ after) := by
    simp [Form.render, enclosed, after, List.replicate]
  have starts : ∀ c, after.head? = some c → c ≠ '\r' ∧ (c = '\n' → '\n' ∈ cs) := by
    rintro c found
    cases cs with
    | nil =>
      cases found
      decide
    | cons d cs =>
      cases found
      refine ⟨?_, fun broken => broken ▸ List.mem_cons_self⟩
      rintro rfl
      exact absurd (allowed _ List.mem_cons_self) (by decide)
  have none : ¬∃ before after, cs = before ++ ['\'', '\'', '\''] ++ after := by
    rw [← Text.occurs_iff, apart]
    exact Bool.false_ne_true
  rw [written, text?, dropBreak_opening starts]
  exact (longBody_literal 0 cs allowed none).read_eq longReader_literal rest

/-- Every text is read back from the form in which it is written, up to the end of its line. -/
theorem text?_renderText (cs rest : List Char) : text? (renderText cs ++ '\n' :: rest) = some (cs, '\n' :: rest) := by
  unfold renderText
  cases form : Form.of cs with
  | basic => exact text?_basic cs rest
  | literal =>
    obtain ⟨nonempty, inner⟩ := of_eq_literal form
    exact text?_literal nonempty inner rest
  | longBasic => exact text?_longBasic cs rest
  | longLiteral =>
    obtain ⟨allowed, apart⟩ := of_eq_longLiteral form
    exact text?_longLiteral allowed apart rest

end ClusterCost.Toml
