import ClusterCost.Proofs.Json.Records
import ClusterCost.Proofs.Snapshot.RoundTrip
import Mathlib.Data.List.Forall2

/-!
# Snapshots that are written in other ways

A snapshot document has records in it: a node with its pods, nodes, pods, owners and containers. `Restates` says which
changes to the objects of these records make another presentation of the same snapshot: another order of the members,
members that are no fields, and fields that have their default, in any number of places at any depth. Decoding does not
depend on the presentation (`decode_restated`). What is particular to a record type is in its `Json.RecordType`; the
rest is the same for all of them, by induction on how one presentation comes from the other.
-/
namespace ClusterCost

/-! ## The kinds of records -/

namespace Snapshot

inductive Kind where
  | nodeInfo
  | node
  | pod
  | owner
  | container
  deriving DecidableEq, Repr

/-- What a part of a snapshot is read as: one record, or a list of them. -/
inductive Shape where
  | one (kind : Kind)
  | many (kind : Kind)
  deriving DecidableEq, Repr

namespace Kind

def names : Kind → List String
  | nodeInfo => NodeInfo.fields.map Json.Field.name
  | node => Node.fields.map Json.Field.name
  | pod => Pod.fields.map Json.Field.name
  | owner => OwnerReference.fields.map Json.Field.name
  | container => Container.fields.map Json.Field.name

/-- The fields that may be missing, and the value that stands for none. -/
def defaults : Kind → List (String × Json)
  | nodeInfo => [("pods", .array [])]
  | node => [("labels", .object []), ("capacity", .object []), ("allocatable", .object [])]
  | pod => [("namespace", .string ""), ("annotations", .object []), ("owner_references", .array []),
      ("containers", .array []), ("deletion_timestamp", .null), ("termination_grace_period_secs", .null)]
  | owner => [("controller", .bool false)]
  | container => [("requests", .object [])]

/-- The fields that have records in them. -/
def parts : Kind → List (String × Shape)
  | nodeInfo => [("node", .one node), ("pods", .many pod)]
  | pod => [("owner_references", .many owner), ("containers", .many container)]
  | node | owner | container => []

end Kind

/-- Two presentations of one part of a snapshot. An object can have its members in another order; it can have one member
more that is no field, whatever its value; and it can have one member more that gives a default, if it has none of that
name yet. All this can be undone and repeated, and done to the records within: in a member of an object, in an item of a
list, and in a value of a record that is written without names. -/
inductive Restates : Shape → Json → Json → Prop where
  | refl {shape : Shape} (j : Json) : Restates shape j j
  | symm {shape : Shape} {j j' : Json} (restates : Restates shape j j') : Restates shape j' j
  | trans {shape : Shape} {j j' j'' : Json} (first : Restates shape j j') (second : Restates shape j' j'') :
      Restates shape j j''
  | reorder {kind : Kind} {members members' : List (Option String × Json)} (same : members.Perm members') :
      Restates (.one kind) (.object members) (.object members')
  | unknown {kind : Kind} {before after : List (Option String × Json)} {name : String} {value : Json}
      (unknown : name ∉ kind.names) (whole : value.isWhole = true) :
      Restates (.one kind) (.object (before ++ after)) (.object (before ++ (some name, value) :: after))
  | default {kind : Kind} {before after : List (Option String × Json)} {name : String} {value : Json}
      (declared : (name, value) ∈ kind.defaults) (absent : some name ∉ (before ++ after).map Prod.fst) :
      Restates (.one kind) (.object (before ++ after)) (.object (before ++ (some name, value) :: after))
  | member {kind : Kind} {before after : List (Option String × Json)} {name : String} {shape : Shape} {j j' : Json}
      (part : (name, shape) ∈ kind.parts) (restates : Restates shape j j') :
      Restates (.one kind) (.object (before ++ (some name, j) :: after)) (.object (before ++ (some name, j') :: after))
  | position {kind : Kind} {before after : List Json} {name : String} {shape : Shape} {j j' : Json}
      (part : (name, shape) ∈ kind.parts) (placed : kind.names[before.length]? = some name)
      (restates : Restates shape j j') :
      Restates (.one kind) (.array (before ++ j :: after)) (.array (before ++ j' :: after))
  | item {kind : Kind} {before after : List Json} {j j' : Json} (restates : Restates (.one kind) j j') :
      Restates (.many kind) (.array (before ++ j :: after)) (.array (before ++ j' :: after))

end Snapshot

open Json (RecordType SameReading)

/-! ## The record types -/

/-- The value of a field has the name that its constructor stands for. -/
theorem named_map {α φ : Type} {nameOf : φ → String} {item : α → φ} {name : String} {read : Snapshot.Reader α}
    (names : ∀ a, nameOf (item a) = name) (j : Json) (value : φ) (found : item <$> read j = .ok value) :
    nameOf value = name := by
  obtain ⟨a, -, rfl⟩ := map_eq_ok.mp found
  exact names a

def Node.Item.field : Node.Item → String
  | .name _ => "name"
  | .labels _ => "labels"
  | .capacity _ => "capacity"
  | .allocatable _ => "allocatable"

def Node.recordType : RecordType Snapshot.Cause Node where
  Item := Node.Item
  fields := Node.fields
  nameOf := Node.Item.field
  defaults := [.labels ∅, .capacity ∅, .allocatable ∅]
  ofItems := Node.ofItems
  named := by
    unfold Node.fields
    repeat refine List.forall_mem_cons.mpr ⟨named_map fun _ => rfl, ?_⟩
    exact List.forall_mem_nil _
  depends := by
    intro items items' same
    unfold Node.ofItems
    rw [same.required_eq "name" ?_ ?_, same.defaulted_eq "labels" ?_ ?_, same.defaulted_eq "capacity" ?_ ?_,
      same.defaulted_eq "allocatable" ?_ ?_]
    all_goals
      intro item
      cases item <;> simp [Node.Item.field]

def OwnerReference.Item.field : OwnerReference.Item → String
  | .kind _ => "kind"
  | .name _ => "name"
  | .controller _ => "controller"

def OwnerReference.recordType : RecordType Snapshot.Cause OwnerReference where
  Item := OwnerReference.Item
  fields := OwnerReference.fields
  nameOf := OwnerReference.Item.field
  defaults := [.controller false]
  ofItems := OwnerReference.ofItems
  named := by
    unfold OwnerReference.fields
    repeat refine List.forall_mem_cons.mpr ⟨named_map fun _ => rfl, ?_⟩
    exact List.forall_mem_nil _
  depends := by
    intro items items' same
    unfold OwnerReference.ofItems
    rw [same.required_eq "kind" ?_ ?_, same.required_eq "name" ?_ ?_, same.defaulted_eq "controller" ?_ ?_]
    all_goals
      intro item
      cases item <;> simp [OwnerReference.Item.field]

def Container.Item.field : Container.Item → String
  | .name _ => "name"
  | .requests _ => "requests"

def Container.recordType : RecordType Snapshot.Cause Container where
  Item := Container.Item
  fields := Container.fields
  nameOf := Container.Item.field
  defaults := [.requests ∅]
  ofItems := Container.ofItems
  named := by
    unfold Container.fields
    repeat refine List.forall_mem_cons.mpr ⟨named_map fun _ => rfl, ?_⟩
    exact List.forall_mem_nil _
  depends := by
    intro items items' same
    unfold Container.ofItems
    rw [same.required_eq "name" ?_ ?_, same.defaulted_eq "requests" ?_ ?_]
    all_goals
      intro item
      cases item <;> simp [Container.Item.field]

def Pod.Item.field : Pod.Item → String
  | .name _ => "name"
  | .namespaceName _ => "namespace"
  | .annotations _ => "annotations"
  | .owners _ => "owner_references"
  | .containers _ => "containers"
  | .deletionTime _ => "deletion_timestamp"
  | .gracePeriod _ => "termination_grace_period_secs"

def Pod.recordType : RecordType Snapshot.Cause Pod where
  Item := Pod.Item
  fields := Pod.fields
  nameOf := Pod.Item.field
  defaults := [.namespaceName "", .annotations ∅, .owners [], .containers [], .deletionTime none, .gracePeriod none]
  ofItems := Pod.ofItems
  named := by
    unfold Pod.fields
    repeat refine List.forall_mem_cons.mpr ⟨named_map fun _ => rfl, ?_⟩
    exact List.forall_mem_nil _
  depends := by
    intro items items' same
    unfold Pod.ofItems
    rw [same.required_eq "name" ?_ ?_, same.defaulted_eq "namespace" ?_ ?_, same.defaulted_eq "annotations" ?_ ?_,
      same.defaulted_eq "owner_references" ?_ ?_, same.defaulted_eq "containers" ?_ ?_,
      same.defaulted_eq "deletion_timestamp" ?_ ?_, same.defaulted_eq "termination_grace_period_secs" ?_ ?_]
    all_goals
      intro item
      cases item <;> simp [Pod.Item.field]

def NodeInfo.Item.field : NodeInfo.Item → String
  | .node _ => "node"
  | .pods _ => "pods"

def NodeInfo.recordType : RecordType Snapshot.Cause NodeInfo where
  Item := NodeInfo.Item
  fields := NodeInfo.fields
  nameOf := NodeInfo.Item.field
  defaults := [.pods []]
  ofItems := NodeInfo.ofItems
  named := by
    unfold NodeInfo.fields
    repeat refine List.forall_mem_cons.mpr ⟨named_map fun _ => rfl, ?_⟩
    exact List.forall_mem_nil _
  depends := by
    intro items items' same
    unfold NodeInfo.ofItems
    rw [same.required_eq "node" ?_ ?_, same.defaulted_eq "pods" ?_ ?_]
    all_goals
      intro item
      cases item <;> simp [NodeInfo.Item.field]

namespace Snapshot

/-! ## All kinds alike -/

def Kind.Value : Kind → Type
  | nodeInfo => NodeInfo
  | node => Node
  | pod => Pod
  | owner => OwnerReference
  | container => Container

def Kind.recordType : (kind : Kind) → RecordType Snapshot.Cause kind.Value
  | nodeInfo => NodeInfo.recordType
  | node => Node.recordType
  | pod => Pod.recordType
  | owner => OwnerReference.recordType
  | container => Container.recordType

/-- The reader of a shape makes the same of two trees. -/
def Shape.Same : Shape → Json → Json → Prop
  | one kind => SameReading kind.recordType.read
  | many kind => SameReading (Json.readList kind.recordType.read)

section Kinds

variable {kind : Kind} {shape : Shape} {j j' j'' : Json} {name : String} {value : Json}

theorem Shape.Same.refl (shape : Shape) (j : Json) : shape.Same j j := by
  cases shape with
  | one | many => exact SameReading.refl _ j

theorem Shape.Same.symm (same : shape.Same j j') : shape.Same j' j := by
  cases shape with
  | one | many => exact SameReading.symm same

theorem Shape.Same.trans (first : shape.Same j j') (second : shape.Same j' j'') : shape.Same j j'' := by
  cases shape with
  | one | many => exact SameReading.trans first second

theorem Kind.names_eq (kind : Kind) : kind.names = kind.recordType.fields.map Json.Field.name := by
  cases kind with
  | nodeInfo | node | pod | owner | container => rfl

/-- The values that stand for missing fields are read as the defaults, one by one. -/
theorem Kind.defaults_read (kind : Kind) :
    List.Forall₂ (fun entry item => ∃ field, kind.recordType.fields.find? (·.name == entry.1) = some field ∧
      field.read entry.2 = .ok item) kind.defaults kind.recordType.defaults := by
  cases kind with
  | nodeInfo | node | pod | owner | container =>
    repeat refine .cons ⟨_, rfl, rfl⟩ ?_
    exact .nil

theorem exists_mem_of_forall₂ {α β : Type} {related : α → β → Prop} {as : List α} {bs : List β}
    (all : List.Forall₂ related as bs) {a : α} (member : a ∈ as) : ∃ b ∈ bs, related a b := by
  induction all with
  | nil => cases member
  | @cons first first' as bs firsts _ ih =>
    cases List.mem_cons.mp member with
    | inl same => exact ⟨first', List.mem_cons_self, same ▸ firsts⟩
    | inr later =>
      obtain ⟨b, b_member, related⟩ := ih later
      exact ⟨b, List.mem_cons_of_mem first' b_member, related⟩

/-- A part is read as the field of its name. -/
theorem Kind.exists_part (part : (name, shape) ∈ kind.parts) : ∃ field,
    kind.recordType.fields.find? (·.name == name) = some field ∧
      ∀ j j', shape.Same j j' → SameReading field.read j j' := by
  cases kind with
  | nodeInfo =>
    simp only [parts, List.mem_cons, Prod.mk.injEq, List.not_mem_nil, or_false] at part
    rcases part with ⟨rfl, rfl⟩ | ⟨rfl, rfl⟩
    · exact ⟨_, rfl, fun _ _ same => SameReading.map NodeInfo.Item.node same⟩
    · exact ⟨_, rfl, fun _ _ same => SameReading.map NodeInfo.Item.pods same⟩
  | pod =>
    simp only [parts, List.mem_cons, Prod.mk.injEq, List.not_mem_nil, or_false] at part
    rcases part with ⟨rfl, rfl⟩ | ⟨rfl, rfl⟩
    · exact ⟨_, rfl, fun _ _ same => SameReading.map Pod.Item.owners same⟩
    · exact ⟨_, rfl, fun _ _ same => SameReading.map Pod.Item.containers same⟩
  | node | owner | container => cases part

theorem Kind.names_nodup (kind : Kind) : kind.names.Nodup := by
  cases kind with
  | nodeInfo | node | pod | owner | container => decide

/-- Another presentation is read as the same. By induction on how it comes from the first one. -/
theorem Restates.same (restates : Restates shape j j') : shape.Same j j' := by
  induction restates with
  | refl j => exact Shape.Same.refl _ j
  | symm _ ih => exact ih.symm
  | trans _ _ ih ih' => exact ih.trans ih'
  | reorder same => exact RecordType.sameReading_reorder same
  | @unknown kind _ _ _ _ unknown whole => exact RecordType.sameReading_unknown (kind.names_eq ▸ unknown) whole
  | default declared absent =>
    obtain ⟨item, default, field, found, read⟩ := exists_mem_of_forall₂ (Kind.defaults_read _) declared
    exact RecordType.sameReading_default found read default absent
  | member part _ ih =>
    obtain ⟨field, found, reads⟩ := Kind.exists_part part
    exact RecordType.sameReading_member found (reads _ _ ih)
  | @position kind _ _ _ _ _ _ part placed _ ih =>
    obtain ⟨field, found, reads⟩ := Kind.exists_part part
    rw [kind.names_eq, List.getElem?_map] at placed
    obtain ⟨other, other_placed, rfl⟩ := Option.map_eq_some_iff.mp placed
    have other_found := Json.find?_of_getElem? (kind.names_eq ▸ kind.names_nodup) other_placed
    cases found.symm.trans other_found
    exact RecordType.sameReading_position other_placed (reads _ _ ih)
  | item _ ih => exact Json.sameReading_list_item ih

end Kinds

/-- A snapshot that was written in another way than it is encoded is still read back. -/
theorem decode_of_restates_toJson {j : Json} :
    (∀ i : NodeInfo, Restates (.one .nodeInfo) i.toJson j → NodeInfo.ofJson j = .ok i) ∧
      (∀ n : Node, Restates (.one .node) n.toJson j → Node.ofJson j = .ok n) ∧
      ∀ p : Pod, Restates (.one .pod) p.toJson j → Pod.ofJson j = .ok p :=
  ⟨fun i restates => (restates.same i).mp (NodeInfo.ofJson_undoes i),
    fun n restates => (restates.same n).mp (Node.ofJson_undoes n),
    fun p restates => (restates.same p).mp (Pod.ofJson_undoes p)⟩

/-- Snapshots do not depend on how they are presented: where one tree restates another one as a node with its pods, as a
node or as a pod, either both are refused or both are decoded, as the same value. -/
theorem decode_restated (j j' : Json) :
    (Restates (.one .nodeInfo) j j' → ∀ i, NodeInfo.ofJson j = .ok i ↔ NodeInfo.ofJson j' = .ok i) ∧
      (Restates (.one .node) j j' → ∀ n, Node.ofJson j = .ok n ↔ Node.ofJson j' = .ok n) ∧
      (Restates (.one .pod) j j' → ∀ p, Pod.ofJson j = .ok p ↔ Pod.ofJson j' = .ok p) :=
  ⟨fun restates => restates.same, fun restates => restates.same, fun restates => restates.same⟩

/-- A node and a pod are written with defaults and with a member that is no field, and the other way round within the
object that holds both of them. -/
theorem decode_restated_small :
    let node : Json := .record [("name", .string "n")]
    let node' : Json := .record [("labels", .object []), ("name", .string "n")]
    let pod : Json := .record [("name", .string "p")]
    let pod' : Json := .record [("phase", .string "Running"), ("name", .string "p"), ("deletion_timestamp", .null)]
    let info : Json := .record [("node", node), ("pods", .array [pod])]
    let info' : Json := .record [("pods", .array [pod']), ("node", node')]
    Restates (.one .node) node node' ∧ Restates (.one .pod) pod pod' ∧ Restates (.one .nodeInfo) info info' ∧
      Node.ofJson node' = .ok { name := "n" } ∧ Pod.ofJson pod' = .ok { name := "p" } ∧
      NodeInfo.ofJson info' = .ok { node := { name := "n" }, pods := [{ name := "p" }] } := by
  intro node node' pod pod' info info'
  have node_restates : Restates (.one .node) node node' :=
    @Restates.default .node [] [(some "name", .string "n")] "labels" (.object []) (.head _) (by decide)
  have pod_restates : Restates (.one .pod) pod pod' :=
    .trans
      (@Restates.default .pod [(some "name", .string "p")] [] "deletion_timestamp" .null
        (List.mem_of_getElem? (i := 4) rfl) (by decide))
      (@Restates.unknown .pod [] [(some "name", .string "p"), (some "deletion_timestamp", .null)] "phase"
        (.string "Running") (by decide) rfl)
  have node_within : Restates (.one .nodeInfo) info (.record [("node", node'), ("pods", .array [pod])]) :=
    @Restates.member .nodeInfo [] [(some "pods", .array [pod])] "node" _ _ _ (.head _) node_restates
  have pod_within : Restates (.one .nodeInfo) (.record [("node", node'), ("pods", .array [pod])])
      (.record [("node", node'), ("pods", .array [pod'])]) :=
    @Restates.member .nodeInfo [(some "node", node')] [] "pods" _ _ _ (.tail _ (.head _))
      (@Restates.item .pod [] [] _ _ pod_restates)
  have info_restates : Restates (.one .nodeInfo) info info' :=
    node_within.trans (pod_within.trans (.reorder (.swap _ _ [])))
  refine ⟨node_restates, pod_restates, info_restates, ?_, ?_, ?_⟩
  · exact ((decode_restated _ _).2.1 node_restates _).mp rfl
  · exact ((decode_restated _ _).2.2 pod_restates _).mp rfl
  · exact ((decode_restated _ _).1 info_restates _).mp rfl

end Snapshot

end ClusterCost
