import ClusterCost.Path
import Mathlib.Data.List.DropRight

/-!
# Where paths lead

A path leads through its names one after the other; empty names and single points stay in place. `steps` are the names
that are left, and with them and the root a path says where it leads. Joining a path to a directory puts its steps after
those of the directory (`steps_join`), and the directory of a path is the path without its last step (`steps_parent`):
a path that stands in a file leads on from where the file stands.
-/
namespace ClusterCost.Path

def leads (name : List Char) : Bool :=
  name != [] && name != ['.']

def stepsOf (cs : List Char) : List (List Char) :=
  (names cs).filter leads

def steps (path : String) : List (List Char) :=
  stepsOf path.toList

/-! ## Names between slashes -/

@[simp]
theorem stepsOf_nil : stepsOf [] = [] := rfl

theorem stepsOf_append_slash (cs ds : List Char) : stepsOf (cs ++ '/' :: ds) = stepsOf cs ++ stepsOf ds := by
  unfold stepsOf names
  rw [List.splitOn_append_cons_self, List.filter_append]

theorem slash_not_mem_names {cs : List Char} : ∀ name ∈ names cs, '/' ∉ name := by
  induction cs with
  | nil =>
    intro name member
    cases List.mem_singleton.mp member
    exact List.not_mem_nil
  | cons c cs ih =>
    unfold names at ih ⊢
    rw [List.splitOn_cons_eq_if_modifyHead]
    split
    · intro name member
      cases List.mem_cons.mp member with
      | inl same => simp [same]
      | inr rest => exact ih name rest
    · next other =>
      cases parts : cs.splitOn '/' with
      | nil => exact absurd parts (List.splitOn_ne_nil _ _)
      | cons first others =>
        rw [parts] at ih
        intro name member
        cases List.mem_cons.mp member with
        | inl same =>
          rw [same, List.mem_cons, not_or]
          exact ⟨fun slash => other (beq_iff_eq.mpr slash.symm), ih first List.mem_cons_self⟩
        | inr rest => exact ih name (List.mem_cons_of_mem first rest)

/-- Names without slashes are found again between the slashes. -/
theorem stepsOf_ofNames {ns : List (List Char)} (free : ∀ name ∈ ns, '/' ∉ name) :
    stepsOf (ofNames ns) = ns.filter leads := by
  cases ns with
  | nil => rfl
  | cons first others =>
    have found : names (ofNames (first :: others)) = first :: others :=
      List.splitOn_intercalate '/' free (List.cons_ne_nil first others)
    rw [stepsOf, found]

theorem ofNames_cons_cons (first second : List Char) (others : List (List Char)) :
    ofNames (first :: second :: others) = first ++ '/' :: ofNames (second :: others) := by
  simp [ofNames]

/-- The text of the first names is the start of the whole text. -/
theorem ofNames_initial {ns ms : List (List Char)} (start : ns <+: ms) : ofNames ns <+: ofNames ms := by
  induction ns generalizing ms with
  | nil => exact List.nil_prefix
  | cons first ns ih =>
    obtain ⟨rest, rfl⟩ := start
    cases ns with
    | nil =>
      cases rest with
      | nil => exact List.prefix_rfl
      | cons second others =>
        have alone : ofNames [first] = first := List.append_nil first
        rw [alone, List.singleton_append, ofNames_cons_cons]
        exact List.prefix_append _ _
    | cons second ns =>
      have rest_start := ih (List.prefix_append (second :: ns) rest)
      rw [List.cons_append, List.cons_append, ofNames_cons_cons, ofNames_cons_cons]
      exact (List.prefix_append_right_inj first).mpr (List.cons_prefix_cons.mpr ⟨rfl, rest_start⟩)

theorem ofNames_names (cs : List Char) : ofNames (names cs) = cs :=
  List.intercalate_splitOn '/'

/-! ## Names that are removed from the end -/

theorem trimEnd_concat (ns : List (List Char)) (last : List Char) :
    trimEnd (ns ++ [last]) = if leads last then ns ++ [last] else trimEnd ns := by
  have trims : trimEnd = List.rdropWhile fun name => name == [] || name == ['.'] := rfl
  have leads_eq : leads last = !(last == [] || last == ['.']) := (Bool.not_or _ _).symm
  rw [trims, List.rdropWhile_concat, leads_eq]
  cases last == [] || last == ['.'] with
  | true | false => rfl

theorem trimEnd_initial (ns : List (List Char)) : trimEnd ns <+: ns :=
  List.rdropWhile_prefix _ ns

/-- What is removed from the end leads nowhere. -/
theorem filter_trimEnd (ns : List (List Char)) : (trimEnd ns).filter leads = ns.filter leads := by
  induction ns using List.reverseRecOn with
  | nil => rfl
  | append_singleton ns last ih =>
    rw [trimEnd_concat]
    split
    · rfl
    · next stays => rw [ih, List.filter_append, List.filter_cons_of_neg stays, List.filter_nil, List.append_nil]

/-- The last name that is left leads somewhere. -/
theorem filter_dropLast_trimEnd (ns : List (List Char)) :
    (trimEnd ns).dropLast.filter leads = (ns.filter leads).dropLast := by
  induction ns using List.reverseRecOn with
  | nil => rfl
  | append_singleton ns last ih =>
    rw [trimEnd_concat, List.filter_append]
    split
    · next moves => rw [List.dropLast_concat, List.filter_cons_of_pos moves, List.filter_nil, List.dropLast_concat]
    · next stays => rw [ih, List.filter_cons_of_neg stays, List.filter_nil, List.append_nil]

/-! ## Joining -/

/-- A relative path is put after the directory, with a slash between them unless there is one or nothing before it. -/
theorem join_cases (directory : String) {path : String} (relative : isAbsolute path = false) :
    (directory = "" ∧ join directory path = path) ∨
      ∃ front, (directory.toList = front ++ ['/'] ∨ directory.toList = front ∧ directory ≠ "") ∧
        (join directory path).toList = front ++ '/' :: path.toList := by
  unfold join
  rw [if_neg (Bool.eq_false_iff.mp relative)]
  by_cases empty : directory = ""
  · subst empty
    exact .inl ⟨rfl, String.empty_append⟩
  · have not_empty : directory.isEmpty = false := by simpa using empty
    rw [not_empty, Bool.false_or]
    right
    split
    · next slash =>
      obtain ⟨front, directory_eq⟩ := List.getLast?_eq_some_iff.mp (beq_iff_eq.mp slash)
      exact ⟨front, .inl directory_eq, by rw [String.toList_append, directory_eq, List.append_assoc]; rfl⟩
    · exact ⟨directory.toList, .inr ⟨rfl, empty⟩, by simp [String.toList_append]⟩

/-- A relative path leads on from the directory that it is joined to. -/
theorem steps_join {directory path : String} (relative : isAbsolute path = false) :
    steps (join directory path) = steps directory ++ steps path := by
  rcases join_cases directory relative with ⟨rfl, join_eq⟩ | ⟨front, directory_eq, join_eq⟩
  · rw [join_eq]
    rfl
  · have front_steps : stepsOf directory.toList = stepsOf front := by
      rcases directory_eq with slash | ⟨same, -⟩
      · rw [slash, stepsOf_append_slash, stepsOf_nil, List.append_nil]
      · rw [same]
    rw [steps, join_eq, stepsOf_append_slash, steps, steps, front_steps]

theorem isAbsolute_join {directory path : String} (relative : isAbsolute path = false) :
    isAbsolute (join directory path) = isAbsolute directory := by
  rcases join_cases directory relative with ⟨rfl, join_eq⟩ | ⟨front, directory_eq, join_eq⟩
  · rw [join_eq, relative]
    rfl
  · unfold isAbsolute
    rw [join_eq]
    rcases directory_eq with slash | ⟨same, nonempty⟩
    · rw [slash]
      cases front with
      | nil | cons => rfl
    · rw [same]
      cases front with
      | nil => exact absurd (String.toList_eq_nil_iff.mp same) nonempty
      | cons => rfl

theorem join_of_absolute {directory path : String} (absolute : isAbsolute path = true) :
    join directory path = path :=
  if_pos absolute

/-! ## The directory of a path -/

theorem anchor_append (cs : List Char) : (anchor cs).1 ++ (anchor cs).2 = cs := by
  unfold anchor
  split <;> rfl

/-- What is set aside at the start of a path says where the path starts, and leads nowhere itself. -/
theorem anchor_start (cs : List Char) {text : List Char} (start : text <+: (anchor cs).2) :
    stepsOf ((anchor cs).1 ++ text) = stepsOf text ∧
      (((anchor cs).1 ++ text).head? == some '/') = (cs.head? == some '/') := by
  revert start
  unfold anchor
  split
  · exact fun _ => ⟨stepsOf_append_slash [] text, rfl⟩
  · intro start
    rw [List.prefix_nil.mp start]
    exact ⟨rfl, rfl⟩
  · next rest =>
    intro start
    cases text with
    | nil => exact ⟨rfl, rfl⟩
    | cons c text =>
      obtain ⟨rfl, -⟩ := List.cons_prefix_cons.mp start
      have after_point : stepsOf ('.' :: '/' :: text) = stepsOf text := stepsOf_append_slash ['.'] text
      have after_root : stepsOf ('/' :: text) = stepsOf text := stepsOf_append_slash [] text
      exact ⟨after_point.trans after_root.symm, rfl⟩
  · next not_root _ _ =>
    intro start
    refine ⟨rfl, ?_⟩
    cases text with
    | nil =>
      cases cs with
      | nil => rfl
      | cons c cs =>
        have relative : c ≠ '/' := fun root => not_root cs (congrArg (· :: cs) root)
        exact (beq_false_of_ne (by simpa using relative)).symm
    | cons d text =>
      obtain ⟨rest, rfl⟩ := start
      rfl

/-- A path that has no directory leads nowhere from where it starts. -/
theorem steps_of_parent?_eq_none {path : String} (root : parent? path = none) : steps path = [] := by
  have whole := (anchor_start path.toList List.prefix_rfl).1
  rw [anchor_append] at whole
  unfold parent? at root
  dsimp only at root
  split at root
  · next trimmed =>
    rw [steps, whole, stepsOf, ← filter_trimEnd, trimmed, List.filter_nil]
  · cases root

/-- The directory of a path is where the path leads to but for its last step. -/
theorem steps_parent {path directory : String} (parent : parent? path = some directory) :
    steps directory = (steps path).dropLast ∧ isAbsolute directory = isAbsolute path := by
  have whole := (anchor_start path.toList List.prefix_rfl).1
  rw [anchor_append] at whole
  unfold parent? at parent
  dsimp only at parent
  split at parent
  · next trimmed =>
    -- Only names that lead nowhere: the directory is the working directory itself.
    split at parent
    · next point =>
      cases parent
      have kept := (anchor_start path.toList List.nil_prefix).2
      rw [beq_iff_eq.mp point] at kept
      constructor
      · rw [steps, steps, whole, stepsOf, stepsOf, ← filter_trimEnd (names (anchor path.toList).2), trimmed]
        rfl
      · exact kept
    · cases parent
  · next first others trimmed =>
    cases parent
    have shorter : trimEnd ((first :: others).dropLast) <+: names (anchor path.toList).2 := by
      have front : (trimEnd (names (anchor path.toList).2)).dropLast <+: trimEnd (names (anchor path.toList).2) :=
        List.dropLast_prefix _
      rw [← trimmed]
      exact (trimEnd_initial _).trans (front.trans (trimEnd_initial _))
    have text_start := ofNames_initial shorter
    rw [ofNames_names] at text_start
    obtain ⟨led, kept⟩ := anchor_start _ text_start
    constructor
    · rw [steps, String.toList_ofList, led,
        stepsOf_ofNames fun name member => slash_not_mem_names name (shorter.subset member), filter_trimEnd, ← trimmed,
        filter_dropLast_trimEnd, steps, whole, stepsOf]
    · rw [isAbsolute, String.toList_ofList, kept, isAbsolute]

/-- A relative path that stands in a file leads on from the directory of the file. -/
theorem steps_anchored {file path : String} (relative : isAbsolute path = false) (named : steps file ≠ []) :
    steps (anchored file path) = (steps file).dropLast ++ steps path ∧
      isAbsolute (anchored file path) = isAbsolute file := by
  unfold anchored
  rw [if_neg (Bool.eq_false_iff.mp relative)]
  cases parent : parent? file with
  | none => exact absurd (steps_of_parent?_eq_none parent) named
  | some directory =>
    obtain ⟨directory_steps, directory_absolute⟩ := steps_parent parent
    exact ⟨by rw [steps_join relative, directory_steps], by rw [isAbsolute_join relative, directory_absolute]⟩

end ClusterCost.Path
