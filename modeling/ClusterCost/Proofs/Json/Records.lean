import ClusterCost.Json.Record
import ClusterCost.Proofs.Outcome
import Mathlib.Data.List.Nodup

/-!
# Records that are written in other ways

An object says the same in any order of its members, with members that nobody asks for, and with or without a field that
has the value which it has by default. `Collects` says how the members of an object are read; from it follows that the
order of the members changes the order of the values and nothing else (`Collects.perm`). The rest is a matter of the
record type: what it makes of the values depends on those alone that are not defaults, in whatever order they come. A
`RecordType` brings a proof of that with it.
-/
namespace ClusterCost.Json

variable {ε φ α β : Type}

/-- A reader makes the same of two trees: it refuses both, or gives the same value for both. -/
def SameReading (read : Reader ε α) (j j' : Json) : Prop :=
  ∀ a, read j = .ok a ↔ read j' = .ok a

section SameReading

variable {read : Reader ε α} {j j' j'' : Json}

theorem SameReading.refl (read : Reader ε α) (j : Json) : SameReading read j j :=
  fun _ => Iff.rfl

theorem SameReading.symm (same : SameReading read j j') : SameReading read j' j :=
  fun a => (same a).symm

theorem SameReading.trans (first : SameReading read j j') (second : SameReading read j' j'') :
    SameReading read j j'' :=
  fun a => (first a).trans (second a)

theorem SameReading.map (f : α → β) (same : SameReading read j j') : SameReading (fun j => f <$> read j) j j' := by
  intro b
  exact map_eq_ok.trans ((exists_congr fun a => and_congr_left fun _ => same a).trans map_eq_ok.symm)

end SameReading

/-! ## Fields by their names -/

/-- A field is found by its name if no other field before it has that name. -/
theorem find?_field {before after : List (Field ε φ)} {field : Field ε φ}
    (fresh : field.name ∉ before.map Field.name) :
    (before ++ field :: after).find? (·.name == field.name) = some field := by
  have passed : before.find? (·.name == field.name) = none := by
    rw [List.find?_eq_none]
    intro earlier member same
    exact fresh (beq_iff_eq.mp same ▸ List.mem_map_of_mem member)
  rw [List.find?_append, passed, Option.none_or, List.find?_cons_of_pos (by simp)]

/-- Fields with names of their own are found by them wherever they stand. -/
theorem find?_of_getElem? {fields : List (Field ε φ)} {field : Field ε φ} {i : Nat}
    (distinct : (fields.map Field.name).Nodup) (placed : fields[i]? = some field) :
    fields.find? (·.name == field.name) = some field := by
  obtain ⟨before, after, rfl⟩ := List.append_of_mem (List.mem_of_getElem? placed)
  refine find?_field fun earlier => ?_
  rw [List.map_append] at distinct
  exact List.disjoint_of_nodup_append distinct earlier List.mem_cons_self

/-! ## The items of an array -/

section Items

variable {read : Reader ε α} {j j' : Json} {before after : List Json}

/-- What follows a value is read alike after two readings that are the same. -/
theorem bind_congr_of_same {next : α → Except (Fault ε) β} (same : SameReading read j j') (b : β) :
    (read j >>= next) = .ok b ↔ (read j' >>= next) = .ok b := by
  rw [bind_eq_ok, bind_eq_ok]
  exact exists_congr fun a => and_congr_left fun _ => same a

/-- One item of a list can be written in another way. By induction on the items before it. -/
theorem sameReading_list_item (same : SameReading read j j') :
    SameReading (readList read) (.array (before ++ j :: after)) (.array (before ++ j' :: after)) := by
  intro as
  change (before ++ j :: after).mapM read = .ok as ↔ (before ++ j' :: after).mapM read = .ok as
  induction before generalizing as with
  | nil =>
    rw [List.nil_append, List.nil_append, List.mapM_cons, List.mapM_cons]
    exact bind_congr_of_same same as
  | cons item before ih =>
    rw [List.cons_append, List.cons_append, List.mapM_cons, List.mapM_cons, bind_eq_ok, bind_eq_ok]
    refine exists_congr fun a => and_congr_right fun _ => ?_
    rw [bind_eq_ok, bind_eq_ok]
    exact exists_congr fun others => and_congr_left fun _ => ih others

/-- The value of a field that is known by its position can be written in another way. By induction on the values before
it. -/
theorem readItemsOf_congr {fields : List (Field ε φ)} {field : Field ε φ}
    (placed : fields[before.length]? = some field) (same : SameReading field.read j j') (items : List φ) :
    readItemsOf fields (before ++ j :: after) = .ok items ↔ readItemsOf fields (before ++ j' :: after) = .ok items := by
  induction before generalizing fields items with
  | nil =>
    cases fields with
    | nil => cases placed
    | cons first fields =>
      cases placed
      exact bind_congr_of_same same items
  | cons item before ih =>
    cases fields with
    | nil => cases placed
    | cons first fields =>
      rw [List.cons_append, List.cons_append, readItemsOf, readItemsOf, bind_eq_ok, bind_eq_ok]
      refine exists_congr fun value => and_congr_right fun _ => ?_
      rw [bind_eq_ok, bind_eq_ok]
      exact exists_congr fun others => and_congr_left fun _ => ih placed others

end Items

/-! ## The members of an object -/

/-- The members of an object give these values, in their order, when these names have been seen before. A member that is
no field is passed over, provided that it is JSON. -/
inductive Collects (fields : List (Field ε φ)) : List String → List (Option String × Json) → List φ → Prop where
  | nil {seen : List String} : Collects fields seen [] []
  | field {seen : List String} {name : String} {value : Json} {members : List (Option String × Json)}
      {field : Field ε φ} {item : φ} {items : List φ} (found : fields.find? (·.name == name) = some field)
      (fresh : name ∉ seen) (read : field.read value = .ok item)
      (others : Collects fields (name :: seen) members items) :
      Collects fields seen ((some name, value) :: members) (item :: items)
  | skip {seen : List String} {name : String} {value : Json} {members : List (Option String × Json)} {items : List φ}
      (unknown : fields.find? (·.name == name) = none) (whole : value.isWhole = true)
      (others : Collects fields seen members items) : Collects fields seen ((some name, value) :: members) items

section Collects

variable {fields : List (Field ε φ)} {seen seen' : List String} {members members' : List (Option String × Json)}
  {items : List φ}

theorem collects_iff : Collects fields seen members items ↔ readMembersOf fields seen members = .ok items := by
  constructor
  · intro collects
    induction collects with
    | nil => rfl
    | field found fresh read others ih =>
      rw [readMembersOf, found]
      dsimp only
      rw [if_neg (mt List.contains_iff_mem.mp fresh), read, ih]
      rfl
    | skip unknown whole others ih =>
      rw [readMembersOf, unknown]
      dsimp only
      rw [if_pos whole, ih]
  · intro read
    induction members generalizing seen items with
    | nil =>
      cases read
      exact .nil
    | cons member members ih =>
      obtain ⟨name, value⟩ := member
      cases name with
      | none => cases read
      | some name =>
        rw [readMembersOf] at read
        split at read
        · next found =>
          split at read
          · cases read
          · next fresh =>
            obtain ⟨item, value_read, read⟩ := bind_eq_ok.mp read
            obtain ⟨others, others_read, items_eq⟩ := bind_eq_ok.mp read
            cases items_eq
            exact .field found (mt List.contains_iff_mem.mpr fresh) value_read (ih others_read)
        · next unknown =>
          split at read
          · next whole => exact .skip unknown whole (ih read)
          · cases read

/-- Of the names that were seen, only those count that come again. -/
theorem Collects.seen_congr (collects : Collects fields seen members items)
    (same : ∀ name, some name ∈ members.map Prod.fst → (name ∈ seen ↔ name ∈ seen')) :
    Collects fields seen' members items := by
  induction collects generalizing seen' with
  | nil => exact .nil
  | field found fresh read others ih =>
    refine .field found (mt (same _ List.mem_cons_self).mpr fresh) read (ih fun name later => ?_)
    rw [List.mem_cons, List.mem_cons, same name (List.mem_cons_of_mem _ later)]
  | skip unknown whole others ih =>
    exact .skip unknown whole (ih fun name later => same name (List.mem_cons_of_mem _ later))

/-- In another order the members give the same values in another order. By induction on the permutation; where two
members change places, two fields have different names, since the second name was not seen at the first. -/
theorem Collects.perm (same : members.Perm members') (collects : Collects fields seen members items) :
    ∃ items', items.Perm items' ∧ Collects fields seen members' items' := by
  induction same generalizing seen items with
  | nil => exact ⟨items, .refl items, collects⟩
  | cons member _ ih =>
    cases collects with
    | field found fresh read others =>
      obtain ⟨items', items_perm, others'⟩ := ih others
      exact ⟨_, items_perm.cons _, .field found fresh read others'⟩
    | skip unknown whole others =>
      obtain ⟨items', items_perm, others'⟩ := ih others
      exact ⟨_, items_perm, .skip unknown whole others'⟩
  | swap first second members =>
    cases collects with
    | field found fresh read others =>
      cases others with
      | field found' fresh' read' others =>
        rw [List.mem_cons, not_or] at fresh'
        have swapped := others.seen_congr fun name _ => (List.Perm.swap _ _ seen).mem_iff
        refine ⟨_, .swap _ _ _, .field found' fresh'.2 read' (.field found ?_ read swapped)⟩
        rw [List.mem_cons, not_or]
        exact ⟨Ne.symm fresh'.1, fresh⟩
      | skip unknown whole others => exact ⟨_, .refl _, .skip unknown whole (.field found fresh read others)⟩
    | skip unknown whole others =>
      cases others with
      | field found fresh read others => exact ⟨_, .refl _, .field found fresh read (.skip unknown whole others)⟩
      | skip unknown' whole' others => exact ⟨_, .refl _, .skip unknown' whole' (.skip unknown whole others)⟩
  | trans _ _ ih ih' =>
    obtain ⟨between, to_between, collects'⟩ := ih collects
    obtain ⟨items', from_between, collects''⟩ := ih' collects'
    exact ⟨items', to_between.trans from_between, collects''⟩

/-- Values that can be told apart by the names of their fields come from different fields, none of which was seen
before. -/
theorem Collects.distinct {nameOf : φ → String}
    (named : ∀ field ∈ fields, ∀ j item, field.read j = .ok item → nameOf item = field.name)
    (collects : Collects fields seen members items) :
    (items.map nameOf).Nodup ∧ ∀ item ∈ items, nameOf item ∉ seen := by
  induction collects with
  | nil => exact ⟨List.nodup_nil, nofun⟩
  | @field seen name value members field item items found fresh read others ih =>
    have field_name : (field.name == name) = true := by
      rw [List.find?_eq_some_iff_append] at found
      exact found.1
    have item_name : nameOf item = name :=
      (named field (List.mem_of_find?_eq_some found) value item read).trans (beq_iff_eq.mp field_name)
    constructor
    · rw [List.map_cons, List.nodup_cons, item_name]
      refine ⟨fun again => ?_, ih.1⟩
      obtain ⟨other, member, other_name⟩ := List.mem_map.mp again
      exact ih.2 other member (other_name ▸ List.mem_cons_self)
    · intro other member
      cases List.mem_cons.mp member with
      | inl same => rwa [same, item_name]
      | inr later => exact mt (List.mem_cons_of_mem name) (ih.2 other later)
  | skip _ _ _ ih => exact ih

end Collects

/-! ## What a record takes from its values -/

/-- Values of different fields that are the same but for defaults. -/
structure SameValues (nameOf : φ → String) (defaults items items' : List φ) : Prop where
  distinct : (items.map nameOf).Nodup
  distinct' : (items'.map nameOf).Nodup
  same : ∀ item, item ∉ defaults → (item ∈ items ↔ item ∈ items')

section SameValues

variable {nameOf : φ → String} {pick : φ → Option α} {name : String} {defaults items items' : List φ} {a : α}

theorem SameValues.symm (same : SameValues nameOf defaults items items') : SameValues nameOf defaults items' items :=
  ⟨same.distinct', same.distinct, fun item other => (same.same item other).symm⟩

/-- What is taken from the values of one field is found wherever it stands, if no other value is of that field. -/
theorem findSome?_eq_some_iff (picks : ∀ item, (pick item).isSome → nameOf item = name)
    (distinct : (items.map nameOf).Nodup) : items.findSome? pick = some a ↔ ∃ item ∈ items, pick item = some a := by
  constructor
  · exact List.exists_of_findSome?_eq_some
  · rintro ⟨item, member, picked⟩
    cases found : items.findSome? pick with
    | none => exact absurd (List.findSome?_eq_none_iff.mp found item member) (by simp [picked])
    | some b =>
      obtain ⟨other, other_member, other_picked⟩ := List.exists_of_findSome?_eq_some found
      have item_name := picks item (by rw [picked]; rfl)
      have other_name := picks other (by rw [other_picked]; rfl)
      rw [← List.inj_on_of_nodup_map distinct member other_member (item_name.trans other_name.symm), picked]
        at other_picked
      exact other_picked.symm

/-- What is not taken from a default is found in the same values as well. -/
theorem SameValues.findSome?_eq_some (same : SameValues nameOf defaults items items')
    (picks : ∀ item, (pick item).isSome → nameOf item = name) (own : ∀ item ∈ defaults, pick item ≠ some a)
    (found : items.findSome? pick = some a) : items'.findSome? pick = some a := by
  rw [findSome?_eq_some_iff picks same.distinct] at found
  rw [findSome?_eq_some_iff picks same.distinct']
  obtain ⟨item, member, picked⟩ := found
  exact ⟨item, (same.same item fun default => own item default picked).mp member, picked⟩

theorem SameValues.required_eq (same : SameValues nameOf defaults items items') (name : String)
    (picks : ∀ item, (pick item).isSome → nameOf item = name) (needed : ∀ item ∈ defaults, pick item = none) :
    required (ε := ε) name pick items = required name pick items' := by
  have own (a : α) : ∀ item ∈ defaults, pick item ≠ some a := by
    intro item member
    rw [needed item member]
    exact nofun
  have found : items.findSome? pick = items'.findSome? pick :=
    Option.ext fun a => ⟨same.findSome?_eq_some picks (own a), same.symm.findSome?_eq_some picks (own a)⟩
  unfold required
  rw [found]

theorem SameValues.defaulted_eq {default : α} (same : SameValues nameOf defaults items items') (name : String)
    (picks : ∀ item, (pick item).isSome → nameOf item = name)
    (optional : ∀ item ∈ defaults, ∀ a, pick item = some a → a = default) :
    defaulted default pick items = defaulted default pick items' := by
  have kept {items items' : List φ} (same : SameValues nameOf defaults items items')
      (other : defaulted default pick items ≠ default) :
      defaulted default pick items = defaulted default pick items' := by
    unfold defaulted at other ⊢
    cases found : items.findSome? pick with
    | none => exact absurd (congrArg (Option.getD · default) found) other
    | some a =>
      rw [found] at other
      rw [same.findSome?_eq_some picks (fun item member picked => other (optional item member a picked)) found]
  by_cases other : defaulted default pick items = default
  · by_cases other' : defaulted default pick items' = default
    · rw [other, other']
    · exact (kept same.symm other').symm
  · exact kept same other

end SameValues

/-! ## Record types -/

/-- A record type that is indifferent to how a record is written: the values of its fields have the names of the fields,
and the record depends on those alone that are not defaults. -/
structure RecordType (ε α : Type) where
  Item : Type
  fields : List (Field ε Item)
  nameOf : Item → String
  defaults : List Item
  ofItems : List Item → Except (Fault ε) α
  named : ∀ field ∈ fields, ∀ j item, field.read j = .ok item → nameOf item = field.name
  depends : ∀ {items items' : List Item}, SameValues nameOf defaults items items' → ofItems items = ofItems items'

namespace RecordType

def read (record : RecordType ε α) : Reader ε α := fun j => do
  let items ← readFields record.fields j
  record.ofItems items

variable {record : RecordType ε α} {members members' before after : List (Option String × Json)}
  {name : String} {value j j' : Json} {field : Field ε record.Item}

theorem read_object_eq_ok {a : α} : record.read (.object members) = .ok a ↔
    ∃ items, Collects record.fields [] members items ∧ record.ofItems items = .ok a := by
  simp only [collects_iff]
  exact bind_eq_ok

/-- The members of a record can be written in any order. -/
theorem sameReading_reorder (same : members.Perm members') :
    SameReading record.read (.object members) (.object members') := by
  have reads {members members' : List (Option String × Json)} (same : members.Perm members') (a : α)
      (read : record.read (.object members) = .ok a) : record.read (.object members') = .ok a := by
    rw [read_object_eq_ok] at read ⊢
    obtain ⟨items, collects, items_eq⟩ := read
    obtain ⟨items', items_perm, collects'⟩ := collects.perm same
    have same_values : SameValues record.nameOf record.defaults items items' :=
      ⟨(collects.distinct record.named).1, (collects'.distinct record.named).1, fun _ _ => items_perm.mem_iff⟩
    exact ⟨items', collects', record.depends same_values ▸ items_eq⟩
  exact fun a => ⟨reads same a, reads same.symm a⟩

/-- A member says the same at the front as in any other place. -/
theorem sameReading_front (record : RecordType ε α) (member : Option String × Json) :
    SameReading record.read (.object (before ++ member :: after)) (.object (member :: (before ++ after))) :=
  sameReading_reorder List.perm_middle

/-- A member that is no field can be added. -/
theorem sameReading_unknown (unknown : name ∉ record.fields.map Field.name) (whole : value.isWhole = true) :
    SameReading record.read (.object (before ++ after)) (.object (before ++ (some name, value) :: after)) := by
  have not_found : record.fields.find? (·.name == name) = none := by
    rw [List.find?_eq_none]
    intro field member same
    exact unknown (beq_iff_eq.mp same ▸ List.mem_map_of_mem member)
  refine SameReading.trans (fun a => ?_) (record.sameReading_front (some name, value)).symm
  rw [read_object_eq_ok, read_object_eq_ok]
  refine exists_congr fun items => and_congr_left fun _ => ⟨.skip not_found whole, fun collects => ?_⟩
  cases collects with
  | field found => cases found.symm.trans not_found
  | skip _ _ others => exact others

/-- A member that gives a default can be added where there is none of its name. -/
theorem sameReading_default (found : record.fields.find? (·.name == name) = some field) {item : record.Item}
    (read : field.read value = .ok item) (default : item ∈ record.defaults)
    (absent : some name ∉ (before ++ after).map Prod.fst) :
    SameReading record.read (.object (before ++ after)) (.object (before ++ (some name, value) :: after)) := by
  refine SameReading.trans (fun a => ?_) (record.sameReading_front (some name, value)).symm
  have seen_iff (other : String) (later : some other ∈ (before ++ after).map Prod.fst) :
      other ∈ [] ↔ other ∈ [name] := by
    rw [List.mem_singleton]
    refine iff_of_false List.not_mem_nil fun same => ?_
    exact absent (same ▸ later)
  have same_values {items : List record.Item}
      (whole : Collects record.fields [] ((some name, value) :: (before ++ after)) (item :: items))
      (others : Collects record.fields [] (before ++ after) items) :
      SameValues record.nameOf record.defaults items (item :: items) := by
    refine ⟨(others.distinct record.named).1, (whole.distinct record.named).1, fun other not_default => ?_⟩
    rw [List.mem_cons, or_iff_right]
    intro same
    exact not_default (same ▸ default)
  rw [read_object_eq_ok, read_object_eq_ok]
  constructor
  · rintro ⟨items, others, items_eq⟩
    have whole := Collects.field found List.not_mem_nil read (others.seen_congr seen_iff)
    exact ⟨item :: items, whole, record.depends (same_values whole others) ▸ items_eq⟩
  · rintro ⟨_, whole, items_eq⟩
    cases whole with
    | field found' fresh read' later =>
      cases found.symm.trans found'
      cases read.symm.trans read'
      have others := later.seen_congr fun other later => (seen_iff other later).symm
      exact ⟨_, others, record.depends (same_values (.field found fresh read later) others) ▸ items_eq⟩
    | skip unknown => cases found.symm.trans unknown

/-- The value of a member can be written in another way. -/
theorem sameReading_member (found : record.fields.find? (·.name == name) = some field)
    (same : SameReading field.read j j') :
    SameReading record.read (.object (before ++ (some name, j) :: after))
      (.object (before ++ (some name, j') :: after)) := by
  have reads {j j' : Json} (same : SameReading field.read j j') (a : α)
      (read : record.read (.object ((some name, j) :: (before ++ after))) = .ok a) :
      record.read (.object ((some name, j') :: (before ++ after))) = .ok a := by
    rw [read_object_eq_ok] at read ⊢
    obtain ⟨_, collects, items_eq⟩ := read
    cases collects with
    | field found' fresh read others =>
      cases found.symm.trans found'
      exact ⟨_, .field found fresh ((same _).mp read) others, items_eq⟩
    | skip unknown => cases found.symm.trans unknown
  exact (record.sameReading_front (some name, j)).trans
    (SameReading.trans (fun a => ⟨reads same a, reads same.symm a⟩) (record.sameReading_front (some name, j')).symm)

/-- The value of a field in a record without names can be written in another way. -/
theorem sameReading_position {before after : List Json} (placed : record.fields[before.length]? = some field)
    (same : SameReading field.read j j') :
    SameReading record.read (.array (before ++ j :: after)) (.array (before ++ j' :: after)) := by
  intro a
  refine bind_eq_ok.trans (Iff.trans ?_ bind_eq_ok.symm)
  exact exists_congr fun items => and_congr_left fun _ => readItemsOf_congr placed same items

end RecordType

end ClusterCost.Json
