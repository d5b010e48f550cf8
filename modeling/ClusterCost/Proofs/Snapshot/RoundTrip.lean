import ClusterCost.Proofs.Json.Records
import ClusterCost.Proofs.Quantity.RoundTrip
import ClusterCost.Proofs.Table
import ClusterCost.Snapshot.Decode
import ClusterCost.Snapshot.Encode

/-!
# Snapshots that are read back

A reader `Undoes` a writer if it gives back whatever was written. Lists and tables inherit that from their items, tables
because no name comes twice in them. A record is read through its fields: the members of the object give the values of
the fields, each read by the reader of its name (`Writes`), and no member is missed or refused while the names of the
fields differ (`readFields_record`). The rest of each record type is what it does with its own list of values.
-/
namespace ClusterCost

namespace Json

variable {ε φ α : Type}

/-- A reader that gives back whatever was written. -/
def Undoes (read : Reader ε α) (encode : α → Json) : Prop :=
  ∀ a, read (encode a) = .ok a

theorem readText_undoes : Undoes (readText (ε := ε)) .string := fun _ => rfl

theorem readList_undoes {read : Reader ε α} {encode : α → Json} (undoes : Undoes read encode) :
    Undoes (readList read) fun l => .array (l.map encode) := by
  intro l
  change (l.map encode).mapM read = .ok l
  induction l with
  | nil => rfl
  | cons a l ih =>
    rw [List.map_cons, List.mapM_cons, undoes a, ih]
    rfl

theorem readEntries_map {read : Reader ε α} {encode : α → Json} (undoes : Undoes read encode)
    (entries : List (String × α)) :
    readEntries read (entries.map fun (name, value) => (some name, encode value)) = .ok entries := by
  induction entries with
  | nil => rfl
  | cons entry entries ih =>
    rw [List.map_cons, readEntries, undoes entry.2, ih]
    rfl

/-! ## Records -/

/-- The members of an object give these values of the fields of a record, in declaration order. -/
inductive Writes : List (Field ε φ) → List (String × Json) → List φ → Prop where
  | nil : Writes [] [] []
  | cons {field : Field ε φ} {fields : List (Field ε φ)} {json : Json} {members : List (String × Json)} {value : φ}
      {values : List φ} (first : field.read json = .ok value) (others : Writes fields members values) :
      Writes (field :: fields) ((field.name, json) :: members) (value :: values)

/-- The members are read in turn. By induction on the fields that are left: those before them have other names, and
their names are the only ones that were seen. -/
theorem readMembersOf_of_writes {fields : List (Field ε φ)} {members : List (String × Json)} {values : List φ}
    (writes : Writes fields members values) (before : List (Field ε φ)) (seen : List String)
    (distinct : ((before ++ fields).map Field.name).Nodup) (seen_iff : ∀ name ∈ seen, name ∈ before.map Field.name) :
    readMembersOf (before ++ fields) seen (members.map fun (name, value) => (some name, value)) = .ok values := by
  induction writes generalizing before seen with
  | nil => rfl
  | @cons field fields json members value values first others ih =>
    have fresh : field.name ∉ before.map Field.name := by
      rw [List.map_append] at distinct
      exact fun member => List.disjoint_of_nodup_append distinct member List.mem_cons_self
    have unseen : ¬seen.contains field.name := by
      rw [List.contains_iff_mem]
      exact fun member => fresh (seen_iff _ member)
    have regrouped : before ++ field :: fields = before ++ [field] ++ fields := by simp
    have rest := ih (before ++ [field]) (field.name :: seen) (regrouped ▸ distinct) (by
      intro name member
      rw [List.map_append, List.mem_append]
      cases List.mem_cons.mp member with
      | inl same => exact .inr (by simp [same])
      | inr earlier => exact .inl (seen_iff name earlier))
    rw [List.map_cons, readMembersOf, find?_field fresh]
    simp only
    rw [if_neg unseen, first, regrouped, rest]
    rfl

/-- An object whose members give the values of the fields is read as these values, if the fields have names of their
own. -/
theorem readFields_record {fields : List (Field ε φ)} {members : List (String × Json)} {values : List φ}
    (writes : Writes fields members values) (distinct : (fields.map Field.name).Nodup) :
    readFields fields (.record members) = .ok values :=
  readMembersOf_of_writes writes [] [] distinct fun _ member => nomatch member

end Json

open Json (Undoes Writes)

/-! ## The parts of a snapshot -/

theorem Table.ofJson_undoes {α : Type} {read : Snapshot.Reader α} {encode : α → Json} (undoes : Undoes read encode) :
    Undoes (Table.ofJson read) (Table.toJson encode) := by
  intro t
  unfold Table.ofJson Table.toJson Json.record
  simp only [List.map_map]
  have entries : Json.readEntries read (t.entries.map fun (name, value) => (some name, encode value)) = .ok t.entries :=
    Json.readEntries_map undoes t.entries
  exact (congrArg (Except.map Table.ofEntries) entries).trans (congrArg Except.ok t.ofEntries_entries)

theorem Quantity.ofJson_undoes : Undoes Quantity.ofJson Quantity.toJson := by
  intro q
  unfold Quantity.ofJson Quantity.toJson
  simp only
  rw [Quantity.parse_render]
  rfl

theorem Resources.ofJson_undoes : Undoes Resources.ofJson Resources.toJson :=
  Table.ofJson_undoes Quantity.ofJson_undoes

theorem readSeconds_undoes : Undoes readSeconds optionalSeconds := by
  intro seconds
  cases seconds with
  | none => rfl
  | some n =>
    have fits : 0 ≤ (n.toNat : Int) ∧ (n.toNat : Int) ≤ Json.maxUnsigned := by
      have := n.toNat_lt
      simp only [Json.maxUnsigned]
      omega
    unfold optionalSeconds readSeconds Json.ofInt
    simp only
    rw [if_pos fits, Int.toNat_natCast, UInt64.ofNat_toNat]

/-! ## The record types -/

/-- What a field's reader gives is what the reader of its type gives, as a value of that field. -/
theorem map_eq_ok_of_undoes {α φ : Type} {read : Snapshot.Reader α} {encode : α → Json} (undoes : Undoes read encode)
    (item : α → φ) (a : α) : item <$> read (encode a) = .ok (item a) := by
  rw [undoes a]
  rfl

theorem OwnerReference.ofJson_undoes : Undoes OwnerReference.ofJson OwnerReference.toJson := by
  intro o
  have writes : Writes OwnerReference.fields
      [("kind", .string o.kind), ("name", .string o.name), ("controller", .bool o.controller)]
      [.kind o.kind, .name o.name, .controller o.controller] :=
    .cons rfl (.cons rfl (.cons rfl .nil))
  unfold OwnerReference.ofJson OwnerReference.toJson
  rw [Json.readFields_record writes (by decide)]
  rfl

theorem Container.ofJson_undoes : Undoes Container.ofJson Container.toJson := by
  intro c
  have requests := map_eq_ok_of_undoes Resources.ofJson_undoes Container.Item.requests c.requests
  have writes : Writes Container.fields [("name", .string c.name), ("requests", Resources.toJson c.requests)]
      [.name c.name, .requests c.requests] :=
    .cons rfl (.cons requests .nil)
  unfold Container.ofJson Container.toJson
  rw [Json.readFields_record writes (by decide)]
  rfl

theorem Node.ofJson_undoes : Undoes Node.ofJson Node.toJson := by
  intro n
  have labels := map_eq_ok_of_undoes (Table.ofJson_undoes Json.readText_undoes) Node.Item.labels n.labels
  have capacity := map_eq_ok_of_undoes Resources.ofJson_undoes Node.Item.capacity n.capacity
  have allocatable := map_eq_ok_of_undoes Resources.ofJson_undoes Node.Item.allocatable n.allocatable
  have writes : Writes Node.fields
      [("name", .string n.name), ("labels", n.labels.toJson .string), ("capacity", Resources.toJson n.capacity),
        ("allocatable", Resources.toJson n.allocatable)]
      [.name n.name, .labels n.labels, .capacity n.capacity, .allocatable n.allocatable] :=
    .cons rfl (.cons labels (.cons capacity (.cons allocatable .nil)))
  unfold Node.ofJson Node.toJson
  rw [Json.readFields_record writes (by decide)]
  rfl

theorem Pod.ofJson_undoes : Undoes Pod.ofJson Pod.toJson := by
  intro p
  have annotations := map_eq_ok_of_undoes (Table.ofJson_undoes Json.readText_undoes) Pod.Item.annotations p.annotations
  have owners := map_eq_ok_of_undoes (Json.readList_undoes OwnerReference.ofJson_undoes) Pod.Item.owners p.owners
  have containers := map_eq_ok_of_undoes (Json.readList_undoes Container.ofJson_undoes) Pod.Item.containers p.containers
  have deletion := map_eq_ok_of_undoes readSeconds_undoes Pod.Item.deletionTime p.deletionTime
  have grace := map_eq_ok_of_undoes readSeconds_undoes Pod.Item.gracePeriod p.gracePeriod
  have writes : Writes Pod.fields
      [("name", .string p.name), ("namespace", .string p.namespaceName), ("annotations", p.annotations.toJson .string),
        ("owner_references", .array (p.owners.map OwnerReference.toJson)),
        ("containers", .array (p.containers.map Container.toJson)),
        ("deletion_timestamp", optionalSeconds p.deletionTime),
        ("termination_grace_period_secs", optionalSeconds p.gracePeriod)]
      [.name p.name, .namespaceName p.namespaceName, .annotations p.annotations, .owners p.owners,
        .containers p.containers, .deletionTime p.deletionTime, .gracePeriod p.gracePeriod] :=
    .cons rfl (.cons rfl (.cons annotations (.cons owners (.cons containers (.cons deletion (.cons grace .nil))))))
  unfold Pod.ofJson Pod.toJson
  rw [Json.readFields_record writes (by decide)]
  rfl

theorem NodeInfo.ofJson_undoes : Undoes NodeInfo.ofJson NodeInfo.toJson := by
  intro i
  have node := map_eq_ok_of_undoes Node.ofJson_undoes NodeInfo.Item.node i.node
  have pods := map_eq_ok_of_undoes (Json.readList_undoes Pod.ofJson_undoes) NodeInfo.Item.pods i.pods
  have writes : Writes NodeInfo.fields [("node", i.node.toJson), ("pods", .array (i.pods.map Pod.toJson))]
      [.node i.node, .pods i.pods] :=
    .cons node (.cons pods .nil)
  unfold NodeInfo.ofJson NodeInfo.toJson
  rw [Json.readFields_record writes (by decide)]
  rfl

/-- Snapshots are read back as they were written: nodes with their pods, nodes alone and pods alone. -/
theorem Snapshot.decode_encode :
    (∀ i : NodeInfo, NodeInfo.ofJson i.toJson = .ok i) ∧ (∀ n : Node, Node.ofJson n.toJson = .ok n) ∧
      ∀ p : Pod, Pod.ofJson p.toJson = .ok p :=
  ⟨NodeInfo.ofJson_undoes, Node.ofJson_undoes, Pod.ofJson_undoes⟩

end ClusterCost
