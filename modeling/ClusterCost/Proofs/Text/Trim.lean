import ClusterCost.Text.Blank

/-!
# Runs of characters and trimming

Readers cut a text where a class of characters ends. The longest run of a class is found exactly if what follows starts
with no character of it (`takeWhile_of_stop`, `dropWhile_of_stop`). Trimming is such a cut at both ends: a text is its
trimmed form with blanks around it (`exists_blanks_trim`), and a text without blanks is the trimmed form of every text
that surrounds it with blanks, and of no other (`trim_eq_iff`).
-/
namespace ClusterCost.Text

section Runs

variable {p : Char → Bool} {run rest : List Char}

theorem takeWhile_of_stop (inside : ∀ c ∈ run, p c = true) (stop : ∀ c, rest.head? = some c → p c = false) :
    (run ++ rest).takeWhile p = run := by
  rw [List.takeWhile_append_of_pos inside]
  cases rest with
  | nil => simp
  | cons c rest => simp [stop c rfl]

theorem dropWhile_of_stop (inside : ∀ c ∈ run, p c = true) (stop : ∀ c, rest.head? = some c → p c = false) :
    (run ++ rest).dropWhile p = rest := by
  rw [List.dropWhile_append_of_pos inside]
  cases rest with
  | nil => rfl
  | cons c rest => simp [stop c rfl]

/-- What is left after a run of a class is empty or starts outside of the class. -/
theorem stop_of_dropWhile (cs : List Char) : ∀ c, (cs.dropWhile p).head? = some c → p c = false := by
  intro c found
  have outside := List.head?_dropWhile_not p cs
  rw [found] at outside
  simpa using outside

theorem mem_takeWhile {cs : List Char} {c : Char} (member : c ∈ cs.takeWhile p) : p c = true := by
  have all := List.all_takeWhile (l := cs) (p := p)
  exact List.all_eq_true.mp all c member

end Runs

def Blanks (cs : List Char) : Prop :=
  ∀ c ∈ cs, isBlank c = true

/-- Every text is its trimmed form between two texts of blanks. -/
theorem exists_blanks_trim (cs : List Char) :
    ∃ before after, Blanks before ∧ Blanks after ∧ cs = before ++ trim cs ++ after := by
  let rest := trimStart cs
  refine ⟨cs.takeWhile isBlank, (rest.reverse.takeWhile isBlank).reverse, ?_, ?_, ?_⟩
  · intro c member
    exact mem_takeWhile member
  · intro c member
    exact mem_takeWhile (List.mem_reverse.mp member)
  · have ends : rest = trim cs ++ (rest.reverse.takeWhile isBlank).reverse := by
      have halves := congrArg List.reverse (List.takeWhile_append_dropWhile (p := isBlank) (l := rest.reverse))
      rw [List.reverse_append, List.reverse_reverse] at halves
      exact halves.symm
    have starts : cs = cs.takeWhile isBlank ++ rest := List.takeWhile_append_dropWhile.symm
    rw [List.append_assoc, ← ends, ← starts]

/-- A text without blanks, between two texts of blanks, is what trimming leaves. -/
theorem trim_of_blanks {before text after : List Char} (blank_before : Blanks before) (blank_after : Blanks after)
    (solid : ∀ c ∈ text, isBlank c = false) (nonempty : text ≠ []) : trim (before ++ text ++ after) = text := by
  have starts : trimStart (before ++ text ++ after) = text ++ after := by
    unfold trimStart
    rw [List.append_assoc]
    apply dropWhile_of_stop blank_before
    intro c found
    obtain ⟨first, others, rfl⟩ := List.exists_cons_of_ne_nil nonempty
    cases found
    exact solid _ List.mem_cons_self
  unfold trim trimEnd
  rw [starts, List.reverse_append, dropWhile_of_stop, List.reverse_reverse]
  · intro c member
    exact blank_after c (List.mem_reverse.mp member)
  · intro c found
    exact solid c (List.mem_reverse.mp (List.mem_of_mem_head? found))

/-- A text without blanks is what trimming leaves of exactly the texts that surround it with blanks. -/
theorem trim_eq_iff {cs text : List Char} (solid : ∀ c ∈ text, isBlank c = false) (nonempty : text ≠ []) :
    trim cs = text ↔ ∃ before after, Blanks before ∧ Blanks after ∧ cs = before ++ text ++ after := by
  constructor
  · rintro rfl
    exact exists_blanks_trim cs
  · rintro ⟨before, after, blank_before, blank_after, rfl⟩
    exact trim_of_blanks blank_before blank_after solid nonempty

end ClusterCost.Text
