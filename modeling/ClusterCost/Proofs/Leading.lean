import Mathlib.Data.List.Basic

/-!
# Lists with a leading part

`leadingFirst` takes what leads to the front of a list and keeps the order within both parts. It is a permutation, and
it passes through maps and filters, so a list of objects can be arranged by what a map makes of them.
-/
namespace ClusterCost

variable {α β : Type}

/-- What leads, and then the rest, each in the order of the list. -/
def leadingFirst (leads : α → Bool) (l : List α) : List α :=
  l.filter leads ++ l.filter (!leads ·)

theorem leadingFirst_perm (leads : α → Bool) (l : List α) : (leadingFirst leads l).Perm l :=
  List.filter_append_perm leads l

theorem map_leadingFirst (leads : β → Bool) (f : α → β) (l : List α) :
    (leadingFirst (fun a => leads (f a)) l).map f = leadingFirst leads (l.map f) := by
  unfold leadingFirst
  rw [List.map_append, List.filter_map, List.filter_map]
  rfl

theorem filter_leadingFirst (leads keep : α → Bool) (l : List α) :
    (leadingFirst leads l).filter keep = leadingFirst leads (l.filter keep) := by
  unfold leadingFirst
  rw [List.filter_append, List.filter_comm, List.filter_comm keep]

/-- Arranging by what a partial map gives; where it gives nothing, there is nothing to arrange. -/
theorem filterMap_leadingFirst (leads : β → Bool) (f : α → Option β) (l : List α) :
    (leadingFirst (fun a => (f a).any leads) l).filterMap f = leadingFirst leads (l.filterMap f) := by
  have leading (o : Option β) : (if o.any leads = true then o else none) = o.filter leads := by
    cases o with
    | none => rfl
    | some b => rfl
  have rest (o : Option β) : (if (!o.any leads) = true then o else none) = o.filter (!leads ·) := by
    cases o with
    | none => rfl
    | some b => rfl
  unfold leadingFirst
  rw [List.filterMap_append, List.filterMap_filter, List.filterMap_filter, List.filter_filterMap,
    List.filter_filterMap]
  congr 2
  · funext a
    exact leading (f a)
  · funext a
    exact rest (f a)

end ClusterCost
