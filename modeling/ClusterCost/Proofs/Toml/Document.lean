import ClusterCost.Proofs.Table
import ClusterCost.Proofs.Toml.Strings
import ClusterCost.Toml.Document

/-!
# Documents that are read back

A document that is written line by line is read as the statements of its lines, in their order (`States`): a header with
a name, a name with a value, or nothing. What a line has to promise is that its reader stops right at its end. That is so
for every name that needs no quotes, and for every value that `Denotes` something when it stands at the end of a line,
as written texts and truth values do.

What the statements make of the document is known if they come in sections of a header and fields, with no name twice:
then the document holds one table for each section, and the table its fields (`parse?_sections`).
-/
namespace ClusterCost.Toml

/-! ## Names -/

/-- Names that stand without quotes. -/
structure Bare (name : String) : Prop where
  nonempty : name.toList.isEmpty = false
  all : name.toList.all isBare = true

instance (name : String) : Decidable (Bare name) :=
  decidable_of_iff (name.toList.isEmpty = false ∧ name.toList.all isBare = true)
    ⟨fun ⟨nonempty, all⟩ => ⟨nonempty, all⟩, fun ⟨nonempty, all⟩ => ⟨nonempty, all⟩⟩

theorem Bare.exists_cons {name : String} (bare : Bare name) : ∃ c cs, name.toList = c :: cs ∧ isBare c = true := by
  obtain ⟨nonempty, all⟩ := bare
  cases written : name.toList with
  | nil => exact absurd nonempty (by rw [written]; decide)
  | cons c cs =>
    rw [written] at all
    exact ⟨c, cs, rfl, List.all_eq_true.mp all c List.mem_cons_self⟩

/-- A name without quotes starts with no character of another kind. -/
theorem Bare.append_ne {name : String} (bare : Bare name) {special : Char} (other : isBare special = false)
    (rest tail : List Char) : name.toList ++ rest ≠ special :: tail := by
  obtain ⟨c, cs, written, first⟩ := bare.exists_cons
  rw [written]
  intro same
  rw [(List.cons.inj same).1, other] at first
  exact Bool.false_ne_true first

theorem Bare.skipGaps_append {name : String} (bare : Bare name) (rest : List Char) :
    skipGaps (name.toList ++ rest) = name.toList ++ rest := by
  obtain ⟨c, cs, written, first⟩ := bare.exists_cons
  have solid : ¬isGap c := by
    intro gap
    simp only [isGap, Bool.or_eq_true, beq_iff_eq] at gap
    rcases gap with rfl | rfl <;> exact absurd first (by decide)
  rw [written]
  exact List.dropWhile_cons_of_neg solid

theorem name?_bare {name : String} (bare : Bare name) {rest : List Char}
    (stop : ∀ c, rest.head? = some c → isBare c = false) : name? (name.toList ++ rest) = some (name, rest) := by
  have inside := List.all_eq_true.mp bare.all
  rw [name?]
  · rw [Text.takeWhile_of_stop inside stop, Text.dropWhile_of_stop inside stop, bare.nonempty,
      if_neg Bool.false_ne_true, String.ofList_toList]
  · exact bare.append_ne (by decide) rest
  · exact bare.append_ne (by decide) rest

/-- A name without quotes is a whole key if no other name follows it. -/
theorem key?_bare {name : String} (bare : Bare name) {rest : List Char}
    (stop : ∀ c, rest.head? = some c → isBare c = false) (last : ∀ more, skipGaps rest ≠ '.' :: more) :
    key? (name.toList ++ rest) = some ({ name }, skipGaps rest) := by
  have unfolded : key? (name.toList ++ rest) = keyWithin? (78 + 1) (name.toList ++ rest) := rfl
  rw [unfolded, keyWithin?, bare.skipGaps_append, name?_bare bare stop, Option.bind_eq_bind, Option.bind_some]
  dsimp only
  split
  · next more dotted => exact absurd dotted (last more)
  · rfl

/-! ## Values -/

/-- What is written for a value is read as this value, blanks before it and the end of its line after it apart. -/
def Denotes (written : List Char) (v : Toml) : Prop :=
  ∀ rest, value? (skipGaps (written ++ '\n' :: rest)) = some (v, '\n' :: rest)

theorem denotes_renderBool (b : Bool) : Denotes (renderBool b) (.boolean b) := by
  intro rest
  cases b <;> rfl

/-- What is read as a text is read as a value, and no blank is before it. -/
theorem value?_of_text? {cs : List Char} {reading : TextReading} (read : text? cs = some reading) :
    value? (skipGaps cs) = some (.string (String.ofList reading.1), reading.2) := by
  have quoted : ∃ quote tail, cs = quote :: tail ∧ (quote = '"' ∨ quote = '\'') := by
    unfold text? at read
    split at read
    · exact ⟨_, _, rfl, .inl rfl⟩
    · exact ⟨_, _, rfl, .inl rfl⟩
    · exact ⟨_, _, rfl, .inr rfl⟩
    · exact ⟨_, _, rfl, .inr rfl⟩
    · cases read
  have unfolded : value? (skipGaps cs) = (((text? cs).map fun reading =>
      (Toml.string (String.ofList reading.1), reading.2)).or (time? cs)).or (number? cs) := by
    obtain ⟨quote, tail, rfl, rfl | rfl⟩ := quoted <;> rfl
  rw [unfolded, read]
  rfl

theorem denotes_renderText (s : String) : Denotes (renderText s.toList) (.string s) := by
  intro rest
  rw [value?_of_text? (text?_renderText s.toList rest), String.ofList_toList]

/-! ## Statements -/

/-- The lines of a text state these statements. -/
inductive States : List Char → List Statement → Prop where
  | nil : States [] []
  | line {written rest : List Char} {said : Option Statement} {statements : List Statement}
      (reads : ∀ rest, statement? (skipGaps (written ++ '\n' :: rest)) = some (said, '\n' :: rest))
      (others : States rest statements) : States (written ++ '\n' :: rest) (said.toList ++ statements)

theorem States.append {cs cs' : List Char} {statements statements' : List Statement} (states : States cs statements)
    (states' : States cs' statements') : States (cs ++ cs') (statements ++ statements') := by
  induction states with
  | nil => exact states'
  | line reads others ih =>
    rw [List.append_assoc, List.append_assoc]
    exact .line reads ih

theorem states_blank : States ['\n'] [] :=
  have reads (rest : List Char) : statement? (skipGaps ([] ++ '\n' :: rest)) = some (none, '\n' :: rest) := rfl
  .line reads .nil

theorem states_renderHeader {name : String} (bare : Bare name) : States (renderHeader name) [.table { name }] := by
  have reads (rest : List Char) :
      statement? (skipGaps ('[' :: name.toList ++ [']'] ++ '\n' :: rest)) = some (some (.table { name }), '\n' :: rest) := by
    have unfolded : statement? (skipGaps ('[' :: name.toList ++ [']'] ++ '\n' :: rest)) =
        statement? ('[' :: (name.toList ++ ']' :: '\n' :: rest)) := by
      rw [List.append_assoc]
      rfl
    have key : key? (name.toList ++ ']' :: '\n' :: rest) = some ({ name }, ']' :: '\n' :: rest) :=
      key?_bare bare (by rintro c ⟨⟩; decide) nofun
    rw [unfolded, statement?, key]
    · rfl
    · exact bare.append_ne (by decide) _
  have states := States.line reads .nil
  simpa [renderHeader] using states

theorem states_renderLine {name : String} (bare : Bare name) {written : List Char} {v : Toml} (denotes : Denotes written v) :
    States (renderLine name written) [.assignment { name } v] := by
  have reads (rest : List Char) : statement? (skipGaps (name.toList ++ ' ' :: '=' :: ' ' :: written ++ '\n' :: rest)) =
      some (some (.assignment { name } v), '\n' :: rest) := by
    have key : key? (name.toList ++ ' ' :: '=' :: ' ' :: (written ++ '\n' :: rest)) =
        some ({ name }, '=' :: ' ' :: (written ++ '\n' :: rest)) :=
      key?_bare bare (by rintro c ⟨⟩; decide) nofun
    have blank : skipGaps (' ' :: (written ++ '\n' :: rest)) = skipGaps (written ++ '\n' :: rest) := rfl
    rw [List.append_assoc, bare.skipGaps_append, statement?, assignment?]
    · simp only [List.cons_append]
      rw [key]
      simp only [Option.bind_eq_bind, Option.bind_some]
      rw [blank, denotes rest]
      rfl
    · obtain ⟨c, cs, spelled, -⟩ := bare.exists_cons
      rw [spelled]
      exact nofun
    all_goals
      intro tail
      exact bare.append_ne (by decide) _ _
  have states := States.line reads .nil
  simpa [renderLine] using states

/-- By induction on the lines. Each one takes a character at least, the one at its end. -/
theorem statements?_of_states {cs : List Char} {statements : List Statement} (states : States cs statements) {fuel : Nat}
    (enough : cs.length ≤ fuel) : statements? fuel cs = some statements := by
  induction states generalizing fuel with
  | nil => rw [statements?]
  | @line written rest said statements reads others ih =>
    rw [List.length_append, List.length_cons] at enough
    obtain ⟨fuel, rfl⟩ : ∃ less, fuel = less + 1 := ⟨fuel - 1, by omega⟩
    have next : afterLine? ('\n' :: rest) = some rest := rfl
    rw [statements?, reads]
    · simp only [Option.bind_eq_bind, Option.bind_some]
      rw [next, Option.bind_some, ih (by omega), Option.bind_some]
    · simp

theorem parse?_of_states {cs : List Char} {statements : List Statement} (states : States cs statements)
    (unmarked : dropMark cs = cs) :
    Document.parse? (String.ofList cs) = (statements.foldlM Draft.add {}).map fun draft => complete draft.members := by
  unfold Document.parse?
  rw [String.toList_ofList, unmarked]
  dsimp only
  rw [statements?_of_states states (Nat.le_refl _), Option.map_eq_bind]
  rfl

/-! ## Sections -/

abbrev Section := String × List (String × Toml)

/-- A section as statements: its header, and a line for each of its fields. -/
def Section.statements (s : Section) : List Statement :=
  .table { name := s.1 } :: s.2.map fun (name, v) => .assignment { name } v

def entries (fields : List (String × Toml)) : Members :=
  fields.map fun (name, v) => (name, .value v)

def Section.entry (s : Section) : String × Entry :=
  (s.1, .table .header (entries s.2))

/-- A field goes to the end of the section that was opened last. -/
theorem add_assignment {before : Members} {title : String} {inner : Members} {name : String} (v : Toml)
    (fresh : title ∉ before.map Prod.fst) (new : name ∉ inner.map Prod.fst) :
    Draft.add ⟨before ++ [(title, .table .header inner)], [title]⟩ (.assignment { name } v) =
      some ⟨before ++ [(title, .table .header (inner ++ [(name, .value v)]))], [title]⟩ := by
  have assigned : assign { name } v inner = some (inner ++ [(name, .value v)]) := by
    have unfolded : assign { name } v inner =
        if (inner.lookup name).isSome then none else some (Table.insertEntry name (.value v) inner) := rfl
    rw [unfolded, Table.lookup_of_not_mem new, Option.isSome_none, if_neg Bool.false_ne_true,
      Table.insertEntry_of_not_mem new]
  have unfolded : Draft.add ⟨before ++ [(title, .table .header inner)], [title]⟩ (.assignment { name } v) =
      (descend false (fun _ inner => assign { name } v inner) [title] .header
        (before ++ [(title, .table .header inner)])).bind fun members => some ⟨members, [title]⟩ := rfl
  rw [unfolded, descend, Table.lookup_append_last fresh]
  simp only [Bool.false_and]
  rw [if_neg Bool.false_ne_true, descend, assigned, Option.map_some, Table.insertEntry_append_last fresh, Option.bind_some]

theorem add_table {before : Members} {title : String} (current : List String) (fresh : title ∉ before.map Prod.fst) :
    Draft.add ⟨before, current⟩ (.table { name := title }) =
      some ⟨before ++ [(title, .table .header [])], [title]⟩ := by
  have unfolded : Draft.add ⟨before, current⟩ (.table { name := title }) =
      (openTable { name := title } before).bind fun members => some ⟨members, [title]⟩ := rfl
  have opened : openTable { name := title } before = some (before ++ [(title, .table .header [])]) := by
    unfold openTable
    rw [descend, Table.lookup_of_not_mem fresh]
    simp only
    rw [Table.insertEntry_of_not_mem fresh]
  rw [unfolded, opened, Option.bind_some]

/-- The fields of a section go into its table in their order. By induction on those that are left. -/
theorem foldlM_fields {before : Members} {title : String} (fresh : title ∉ before.map Prod.fst)
    (fields inner : List (String × Toml)) (distinct : ((inner ++ fields).map Prod.fst).Nodup) :
    (fields.map fun (name, v) => Statement.assignment { name } v).foldlM Draft.add
        ⟨before ++ [Section.entry (title, inner)], [title]⟩ =
      some ⟨before ++ [Section.entry (title, inner ++ fields)], [title]⟩ := by
  induction fields generalizing inner with
  | nil => simp
  | cons field fields ih =>
    obtain ⟨name, v⟩ := field
    have regrouped : inner ++ (name, v) :: fields = inner ++ [(name, v)] ++ fields := by simp
    have new : name ∉ (entries inner).map Prod.fst := by
      rw [List.map_append] at distinct
      rw [entries, List.map_map]
      exact fun member => List.disjoint_of_nodup_append distinct member List.mem_cons_self
    have added := add_assignment v fresh new
    have entry : entries inner ++ [(name, .value v)] = entries (inner ++ [(name, v)]) := by simp [entries]
    rw [entry] at added
    change Draft.add ⟨before ++ [(title, .table .header (entries inner))], [title]⟩ (.assignment { name } v) >>= _ = _
    rw [added, regrouped]
    exact ih (inner ++ [(name, v)]) (regrouped ▸ distinct)

theorem foldlM_statements (s : Section) {before : Members} (current : List String) (fresh : s.1 ∉ before.map Prod.fst)
    (distinct : (s.2.map Prod.fst).Nodup) :
    s.statements.foldlM Draft.add ⟨before, current⟩ = some ⟨before ++ [s.entry], [s.1]⟩ := by
  rw [Section.statements, List.foldlM_cons, add_table current fresh]
  exact foldlM_fields fresh s.2 [] distinct

/-- Sections go into the document in their order. By induction on those that are left. -/
theorem foldlM_sections (sections : List Section) (before : Members) (current : List String)
    (distinct : (before.map Prod.fst ++ sections.map Prod.fst).Nodup)
    (fields : ∀ s ∈ sections, (s.2.map Prod.fst).Nodup) :
    ∃ last, (sections.flatMap Section.statements).foldlM Draft.add ⟨before, current⟩ =
      some ⟨before ++ sections.map Section.entry, last⟩ := by
  induction sections generalizing before current with
  | nil => exact ⟨current, by simp⟩
  | cons s sections ih =>
    obtain ⟨own, others⟩ := List.forall_mem_cons.mp fields
    have fresh : s.1 ∉ before.map Prod.fst :=
      fun member => List.disjoint_of_nodup_append distinct member List.mem_cons_self
    have rest_distinct : ((before ++ [s.entry]).map Prod.fst ++ sections.map Prod.fst).Nodup := by
      rw [List.map_append, List.append_assoc]
      exact distinct
    obtain ⟨last, rest⟩ := ih (before ++ [s.entry]) [s.1] rest_distinct others
    refine ⟨last, ?_⟩
    rw [List.flatMap_cons, List.foldlM_append, foldlM_statements s current fresh own, Option.bind_eq_bind,
      Option.bind_some, rest, List.append_assoc]
    rfl

theorem complete_entries (fields : List (String × Toml)) : complete (entries fields) = fields := by
  induction fields with
  | nil => rfl
  | cons field fields ih =>
    rw [entries, List.map_cons, complete, Entry.toToml]
    exact congrArg (field :: ·) ih

theorem complete_sections (sections : List Section) :
    complete (sections.map Section.entry) = sections.map fun s => (s.1, .table s.2) := by
  induction sections with
  | nil => rfl
  | cons s sections ih => rw [List.map_cons, Section.entry, complete, Entry.toToml, complete_entries, ih, List.map_cons]

/-- A document of sections, each with a name of its own and with fields of different names, holds their tables. -/
theorem parse?_sections {cs : List Char} {sections : List Section}
    (states : States cs (sections.flatMap Section.statements)) (unmarked : dropMark cs = cs)
    (distinct : (sections.map Prod.fst).Nodup) (fields : ∀ s ∈ sections, (s.2.map Prod.fst).Nodup) :
    Document.parse? (String.ofList cs) = some (sections.map fun s => (s.1, .table s.2)) := by
  obtain ⟨last, draft⟩ := foldlM_sections sections [] [] distinct fields
  rw [parse?_of_states states unmarked, draft, Option.map_some, List.nil_append, complete_sections]

end ClusterCost.Toml
