import ClusterCost.Quantity.FromJson
import ClusterCost.Snapshot.Basic

/-!
# Snapshots as JSON trees

Every field of a snapshot is written, also where it holds its default.
-/
namespace ClusterCost

def Table.toJson {α : Type} (encode : α → Json) (t : Table α) : Json :=
  .record (t.entries.map fun (name, value) => (name, encode value))

def Resources.toJson (r : Resources) : Json :=
  Table.toJson Quantity.toJson r

def Node.toJson (n : Node) : Json :=
  .record [
    ("name", .string n.name),
    ("labels", n.labels.toJson .string),
    ("capacity", Resources.toJson n.capacity),
    ("allocatable", Resources.toJson n.allocatable)]

def OwnerReference.toJson (o : OwnerReference) : Json :=
  .record [("kind", .string o.kind), ("name", .string o.name), ("controller", .bool o.controller)]

def Container.toJson (c : Container) : Json :=
  .record [("name", .string c.name), ("requests", Resources.toJson c.requests)]

def optionalSeconds (seconds : Option UInt64) : Json :=
  match seconds with
  | some n => .ofInt n.toNat
  | none => .null

def Pod.toJson (p : Pod) : Json :=
  .record [
    ("name", .string p.name),
    ("namespace", .string p.namespaceName),
    ("annotations", p.annotations.toJson .string),
    ("owner_references", .array (p.owners.map OwnerReference.toJson)),
    ("containers", .array (p.containers.map Container.toJson)),
    ("deletion_timestamp", optionalSeconds p.deletionTime),
    ("termination_grace_period_secs", optionalSeconds p.gracePeriod)]

def NodeInfo.toJson (i : NodeInfo) : Json :=
  .record [("node", i.node.toJson), ("pods", .array (i.pods.map Pod.toJson))]

end ClusterCost
