/-!
# Tables

A table gives values to names, no name twice. Its entries keep the order in which the names first came, and a second
value for a name takes the place of the first. What a table means is its look-up `get?`; `get?_insert` and `get?_erase`
say what the operations do to it.
-/
namespace ClusterCost

/-- Values by name, no name twice. -/
structure Table (α : Type) where
  entries : List (String × α)
  nodup : (entries.map Prod.fst).Nodup
  deriving Repr

namespace Table

variable {α β : Type}

instance [DecidableEq α] : DecidableEq (Table α) := fun s t =>
  if h : s.entries = t.entries then
    .isTrue (by cases s; cases t; cases h; rfl)
  else .isFalse fun e => h (e ▸ rfl)

@[ext]
theorem ext {s t : Table α} (h : s.entries = t.entries) : s = t := by
  cases s
  cases t
  cases h
  rfl

def empty : Table α := ⟨[], List.nodup_nil⟩

instance : Inhabited (Table α) := ⟨empty⟩

instance : EmptyCollection (Table α) := ⟨empty⟩

def get? (t : Table α) (name : String) : Option α :=
  t.entries.lookup name

def contains (t : Table α) (name : String) : Bool :=
  (t.get? name).isSome

def isEmpty (t : Table α) : Bool :=
  t.entries.isEmpty

/-- Entries with a value for `name`, in the place of the old one or else at the end. -/
def insertEntry (name : String) (value : α) : List (String × α) → List (String × α)
  | [] => [(name, value)]
  | entry :: entries =>
    if entry.1 = name then (name, value) :: entries else entry :: insertEntry name value entries

theorem mem_keys_insertEntry {name key : String} {value : α} {entries : List (String × α)} :
    key ∈ (insertEntry name value entries).map Prod.fst ↔ key = name ∨ key ∈ entries.map Prod.fst := by
  induction entries with
  | nil => simp [insertEntry]
  | cons entry entries ih =>
    unfold insertEntry
    split
    · next h =>
      subst h
      simp
    · simp only [List.map_cons, List.mem_cons, ih]
      constructor
      · rintro (h | h | h)
        · exact .inr (.inl h)
        · exact .inl h
        · exact .inr (.inr h)
      · rintro (h | h | h)
        · exact .inr (.inl h)
        · exact .inl h
        · exact .inr (.inr h)

theorem nodup_insertEntry {name : String} {value : α} {entries : List (String × α)}
    (h : (entries.map Prod.fst).Nodup) : ((insertEntry name value entries).map Prod.fst).Nodup := by
  induction entries with
  | nil => simp [insertEntry]
  | cons entry entries ih =>
    rw [List.map_cons, List.nodup_cons] at h
    unfold insertEntry
    split
    · next same =>
      subst same
      rw [List.map_cons, List.nodup_cons]
      exact h
    · next other =>
      rw [List.map_cons, List.nodup_cons]
      refine ⟨?_, ih h.2⟩
      rw [mem_keys_insertEntry]
      rintro (e | e)
      · exact other e
      · exact h.1 e

def insert (t : Table α) (name : String) (value : α) : Table α :=
  ⟨insertEntry name value t.entries, nodup_insertEntry t.nodup⟩

theorem nodup_eraseEntry {name : String} {entries : List (String × α)} (h : (entries.map Prod.fst).Nodup) :
    ((entries.filter (·.1 != name)).map Prod.fst).Nodup :=
  h.sublist (List.filter_sublist.map Prod.fst)

def erase (t : Table α) (name : String) : Table α :=
  ⟨t.entries.filter (·.1 != name), nodup_eraseEntry t.nodup⟩

/-- The table of a list of entries, in which a later value of a name takes the place of an earlier one. -/
def ofEntries (entries : List (String × α)) : Table α :=
  entries.foldl (fun t (name, value) => t.insert name value) empty

theorem lookup_entry (key name : String) (value : α) (entries : List (String × α)) :
    ((name, value) :: entries).lookup key = if key = name then some value else entries.lookup key := by
  by_cases h : key = name
  · simp [h]
  · simp [List.lookup_cons, h, beq_false_of_ne h]

theorem lookup_insertEntry (name key : String) (value : α) (entries : List (String × α)) :
    (insertEntry name value entries).lookup key = if key = name then some value else entries.lookup key := by
  induction entries with
  | nil => exact lookup_entry key name value []
  | cons entry entries ih =>
    obtain ⟨k, v⟩ := entry
    unfold insertEntry
    split
    · next same =>
      simp only at same
      subst same
      rw [lookup_entry, lookup_entry]
      by_cases h : key = k <;> simp [h]
    · next other =>
      simp only at other
      rw [lookup_entry, lookup_entry, ih]
      by_cases h : key = k
      · subst h
        simp [other]
      · simp [h]

theorem get?_insert (t : Table α) (name key : String) (value : α) :
    (t.insert name value).get? key = if key = name then some value else t.get? key :=
  lookup_insertEntry name key value t.entries

theorem lookup_filter_ne (name key : String) (entries : List (String × α)) :
    (entries.filter (·.1 != name)).lookup key = if key = name then none else entries.lookup key := by
  induction entries with
  | nil => simp
  | cons entry entries ih =>
    obtain ⟨k, v⟩ := entry
    by_cases dropped : k = name
    · rw [List.filter_cons_of_neg (by simp [dropped]), ih, lookup_entry, dropped]
      by_cases h : key = name <;> simp [h]
    · rw [List.filter_cons_of_pos (by simp [dropped]), lookup_entry, lookup_entry, ih]
      by_cases h : key = k
      · subst h
        simp [dropped]
      · simp [h]

theorem get?_erase (t : Table α) (name key : String) :
    (t.erase name).get? key = if key = name then none else t.get? key :=
  lookup_filter_ne name key t.entries

@[simp]
theorem get?_empty (key : String) : (empty : Table α).get? key = none := rfl

end Table

end ClusterCost
