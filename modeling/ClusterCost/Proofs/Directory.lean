import ClusterCost.Directory
import Mathlib.Data.List.Basic

/-!
# What is read from a directory

A file is read under the names that lead to it, and under a longer way round if that comes back to it. Whatever way a path
goes, what is read is the text of a file of the directory.
-/
namespace ClusterCost.Directory

/-- A name that leads down. -/
def Leads (name : List Char) : Prop :=
  name ≠ [] ∧ name ≠ ['.'] ∧ name ≠ ['.', '.']

section Ways

variable {d : Directory} {place place' path : List (List Char)} {name : List Char}

/-- A name leads on from a directory only: it stays, goes back up, or goes down. -/
theorem follow?_cons (d : Directory) (place path : List (List Char)) (name : List Char) :
    d.follow? place (name :: path) =
      if d.isDirectory place = false then none
      else if name = [] ∨ name = ['.'] then d.follow? place path
      else if name = ['.', '.'] then if place = [] then none else d.follow? place.dropLast path
      else d.follow? (place ++ [name]) path := by
  rw [follow?]
  simp

/-- Two ways, one after the other. -/
theorem follow?_append (d : Directory) (place path path' : List (List Char)) :
    d.follow? place (path ++ path') = (d.follow? place path).bind fun place => d.follow? place path' := by
  induction path generalizing place with
  | nil => rfl
  | cons name path ih =>
    rw [List.cons_append, follow?_cons, follow?_cons]
    split
    · rfl
    · split
      · exact ih _
      · split
        · split
          · rfl
          · exact ih _
        · exact ih _

/-- Every place on the way lies below the start. -/
theorem follow?_leads (below : ∀ name ∈ place, Leads name) (found : d.follow? place path = some place') :
    ∀ name ∈ place', Leads name := by
  induction path generalizing place with
  | nil =>
    cases found
    exact below
  | cons name path ih =>
    rw [follow?_cons] at found
    split at found
    · cases found
    · split at found
      · exact ih below found
      · next stays =>
        split at found
        · split at found
          · cases found
          · exact ih (fun other held => below other (List.dropLast_subset place held)) found
        · next back =>
          refine ih (fun other held => ?_) found
          rcases List.mem_append.mp held with held | held
          · exact below other held
          · rw [List.mem_singleton.mp held]
            exact ⟨fun same => stays (.inl same), fun same => stays (.inr same), back⟩

/-- A way down through directories arrives. -/
theorem follow?_down (leads : ∀ name ∈ path, Leads name)
    (through : ∀ k < path.length, d.isDirectory (place ++ path.take k) = true) :
    d.follow? place path = some (place ++ path) := by
  induction path generalizing place with
  | nil => rw [follow?, List.append_nil]
  | cons name path ih =>
    obtain ⟨some_name, no_stay, no_back⟩ := leads name List.mem_cons_self
    have start : d.isDirectory place = true := by simpa using through 0 (Nat.zero_lt_succ _)
    rw [follow?_cons, if_neg (by simp [start]), if_neg (by simp [some_name, no_stay]), if_neg no_back,
      ih (fun other held => leads other (List.mem_cons_of_mem name held)), List.append_assoc, List.singleton_append]
    intro k inside
    simpa using through (k + 1) (Nat.succ_lt_succ inside)

theorem isDirectory_take {file : File} (held : file ∈ d.files) {k : Nat} (inside : k < file.names.length) :
    d.isDirectory (file.names.take k) = true := by
  rw [isDirectory, Bool.or_eq_true, List.any_eq_true]
  refine .inr ⟨file, held, ?_⟩
  have shorter : file.names.take k ≠ file.names := by
    intro same
    have length_eq := congrArg List.length same
    rw [List.length_take] at length_eq
    omega
  simp [List.take_prefix, shorter]

end Ways

section Files

variable {d : Directory} {file : File} {path text : String}

/-- A file is read under its names, if it is the first one that has them. -/
theorem read?_file (held : file ∈ d.files) (first : d.content? file.names = some file.content)
    (leads : ∀ name ∈ file.names, Leads name) (named : Path.names path.toList = file.names)
    (relative : Path.isAbsolute path = false) : d.read? path = String.fromUTF8? file.content := by
  have nonempty : path.isEmpty = false := by
    by_contra empty
    obtain rfl : path = "" := by simpa using empty
    exact (leads [] (named ▸ List.mem_singleton.mpr rfl)).1 rfl
  have arrives : d.follow? [] file.names = some file.names :=
    follow?_down leads fun k inside => isDirectory_take held inside
  simp [read?, nonempty, relative, named, arrives, first]

/-- Nothing outside of the directory is read. -/
theorem exists_file_of_read? (read : d.read? path = some text) :
    ∃ file ∈ d.files, (∀ name ∈ file.names, Leads name) ∧ String.fromUTF8? file.content = some text := by
  unfold read? at read
  split at read
  · cases read
  · obtain ⟨place, followed, read⟩ := Option.bind_eq_some_iff.mp read
    obtain ⟨bytes, content_eq, decoded⟩ := Option.bind_eq_some_iff.mp read
    obtain ⟨file, found, rfl⟩ := Option.map_eq_some_iff.mp content_eq
    have names_eq : file.names = place := by simpa using List.find?_some found
    refine ⟨file, List.mem_of_find?_eq_some found, ?_, decoded⟩
    rw [names_eq]
    exact follow?_leads (fun _ held => absurd held List.not_mem_nil) followed

end Files

end ClusterCost.Directory
