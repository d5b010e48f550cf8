import ClusterCost.Table
import Mathlib.Data.List.Nodup

/-!
# Entries and look-ups

A table lists exactly the entries that it gives on look-up (`mem_entries_iff`), so what holds of all its entries holds of
all that is found in it (`forall_entries_iff`). Put together again entry by entry, the entries of a table make the table
itself (`ofEntries_entries`): no name comes twice, so that no entry takes the place of another one.
-/
namespace ClusterCost.Table

variable {α : Type}

theorem mem_entries_iff {t : Table α} {name : String} {a : α} : (name, a) ∈ t.entries ↔ t.get? name = some a := by
  unfold get?
  rw [List.lookup_eq_some_iff]
  constructor
  · intro member
    obtain ⟨before, after, split_eq⟩ := List.append_of_mem member
    refine ⟨before, after, split_eq, fun entry earlier => ?_⟩
    have distinct := t.nodup
    rw [split_eq, List.map_append] at distinct
    rw [bne_iff_ne]
    rintro rfl
    exact List.disjoint_of_nodup_append distinct (List.mem_map_of_mem earlier) List.mem_cons_self
  · rintro ⟨before, after, split_eq, -⟩
    rw [split_eq]
    exact List.mem_append_right before List.mem_cons_self

/-- What holds of every entry of a table is what holds of everything that is found in it, under any name. -/
theorem forall_entries_iff {t : Table α} (holds : α → Prop) :
    (∀ entry ∈ t.entries, holds entry.2) ↔ ∀ name a, t.get? name = some a → holds a := by
  constructor
  · intro all name a found
    exact all (name, a) (mem_entries_iff.mpr found)
  · rintro found ⟨name, a⟩ member
    exact found name a (mem_entries_iff.mp member)

theorem isEmpty_iff {t : Table α} : t.isEmpty = true ↔ ∀ name, t.get? name = none := by
  unfold isEmpty
  rw [List.isEmpty_iff, List.eq_nil_iff_forall_not_mem]
  constructor
  · intro absent name
    rw [Option.eq_none_iff_forall_ne_some]
    exact fun a found => absent (name, a) (mem_entries_iff.mpr found)
  · rintro absent ⟨name, a⟩ member
    rw [mem_entries_iff, absent name] at member
    cases member

/-- Two tables in which the same is found are both empty or neither is. -/
theorem isEmpty_congr {t t' : Table α} (same : ∀ name, t.get? name = t'.get? name) : t.isEmpty = t'.isEmpty := by
  rw [Bool.eq_iff_iff, isEmpty_iff, isEmpty_iff]
  simp only [same]

/-! ## Putting a table together -/

theorem lookup_of_not_mem {name : String} {entries : List (String × α)} (fresh : name ∉ entries.map Prod.fst) :
    entries.lookup name = none := by
  rw [List.lookup_eq_none_iff]
  intro entry member
  rw [bne_iff_ne]
  rintro rfl
  exact fresh (List.mem_map_of_mem member)

/-- An entry with a new name at the end is found under this name. -/
theorem lookup_append_last {name : String} {value : α} {entries : List (String × α)}
    (fresh : name ∉ entries.map Prod.fst) : (entries ++ [(name, value)]).lookup name = some value := by
  rw [List.lookup_append, lookup_of_not_mem fresh, Option.none_or, lookup_entry, if_pos rfl]

/-- An entry with a new name at the end is the one that another value for this name replaces. -/
theorem insertEntry_append_last {name : String} {old new : α} {entries : List (String × α)}
    (fresh : name ∉ entries.map Prod.fst) :
    insertEntry name new (entries ++ [(name, old)]) = entries ++ [(name, new)] := by
  induction entries with
  | nil => rw [List.nil_append, List.nil_append, insertEntry, if_pos rfl]
  | cons entry entries ih =>
    rw [List.map_cons, List.mem_cons, not_or] at fresh
    rw [List.cons_append, insertEntry, if_neg (Ne.symm fresh.1), ih fresh.2, List.cons_append]

/-- A new name goes to the end. -/
theorem insertEntry_of_not_mem {name : String} {value : α} {entries : List (String × α)}
    (fresh : name ∉ entries.map Prod.fst) : insertEntry name value entries = entries ++ [(name, value)] := by
  induction entries with
  | nil => rfl
  | cons entry entries ih =>
    rw [List.map_cons, List.mem_cons, not_or] at fresh
    rw [insertEntry, if_neg (Ne.symm fresh.1), ih fresh.2, List.cons_append]

/-- Entries with new names go to the end one after the other. -/
theorem entries_foldl_insert (entries : List (String × α)) (t : Table α)
    (distinct : ((t.entries ++ entries).map Prod.fst).Nodup) :
    (entries.foldl (fun t (name, value) => t.insert name value) t).entries = t.entries ++ entries := by
  induction entries generalizing t with
  | nil => simp
  | cons entry entries ih =>
    obtain ⟨name, value⟩ := entry
    have fresh : name ∉ t.entries.map Prod.fst := by
      rw [List.map_append] at distinct
      exact fun member => List.disjoint_of_nodup_append distinct member List.mem_cons_self
    have inserted : (t.insert name value).entries = t.entries ++ [(name, value)] := insertEntry_of_not_mem fresh
    rw [List.foldl_cons, ih, inserted, List.append_assoc, List.singleton_append]
    rw [inserted, List.append_assoc, List.singleton_append]
    exact distinct

/-- The entries of a table make the table. -/
theorem ofEntries_entries (t : Table α) : ofEntries t.entries = t := by
  apply Table.ext
  unfold ofEntries
  rw [entries_foldl_insert t.entries empty t.nodup]
  rfl

end ClusterCost.Table
