import ClusterCost.Quantity.FromJson
import ClusterCost.Snapshot.Basic

/-!
# Snapshots from JSON trees

Each snapshot type lists its fields in declaration order; what it does with the values that were read says which of them
are required and what the others are by default. A quantity that denotes nothing is the one fault with a cause of its
own.
-/
namespace ClusterCost

/-- How a quantity inside a snapshot ends the reading. -/
abbrev Snapshot.Cause := Halt Quantity.InvalidJson

abbrev Snapshot.Fault := Json.Fault Snapshot.Cause

abbrev Snapshot.Reader (α : Type) := Json.Reader Snapshot.Cause α

/-- A table, of whose values for one name the last one counts. -/
def Table.ofJson {α : Type} (read : Snapshot.Reader α) : Snapshot.Reader (Table α)
  | .object members => (Json.readEntries read members).map Table.ofEntries
  | other => Json.mismatch other

def Resources.ofJson : Snapshot.Reader Resources :=
  Table.ofJson Quantity.ofJson

def readSeconds : Snapshot.Reader (Option UInt64)
  | .null => .ok none
  | .number (.integer n) =>
    if 0 ≤ n ∧ n ≤ Json.maxUnsigned then .ok (some (UInt64.ofNat n.toNat)) else .error .mismatch
  | other => Json.mismatch other

/-! ## Nodes -/

inductive Node.Item where
  | name (s : String)
  | labels (t : Table String)
  | capacity (r : Resources)
  | allocatable (r : Resources)

def Node.fields : List (Json.Field Snapshot.Cause Node.Item) := [
  ⟨"name", fun j => .name <$> Json.readText j⟩,
  ⟨"labels", fun j => .labels <$> Table.ofJson Json.readText j⟩,
  ⟨"capacity", fun j => .capacity <$> Resources.ofJson j⟩,
  ⟨"allocatable", fun j => .allocatable <$> Resources.ofJson j⟩]

def Node.ofItems (items : List Node.Item) : Except Snapshot.Fault Node := do
  let name ← Json.required "name" (fun | .name s => some s | _ => none) items
  .ok {
    name
    labels := Json.defaulted ∅ (fun | .labels t => some t | _ => none) items
    capacity := Json.defaulted ∅ (fun | .capacity r => some r | _ => none) items
    allocatable := Json.defaulted ∅ (fun | .allocatable r => some r | _ => none) items }

def Node.ofJson : Snapshot.Reader Node := fun j => do
  let items ← Json.readFields Node.fields j
  Node.ofItems items

/-! ## Owners and containers -/

inductive OwnerReference.Item where
  | kind (s : String)
  | name (s : String)
  | controller (b : Bool)

def OwnerReference.fields : List (Json.Field Snapshot.Cause OwnerReference.Item) := [
  ⟨"kind", fun j => .kind <$> Json.readText j⟩,
  ⟨"name", fun j => .name <$> Json.readText j⟩,
  ⟨"controller", fun j => .controller <$> Json.readBool j⟩]

def OwnerReference.ofItems (items : List OwnerReference.Item) : Except Snapshot.Fault OwnerReference := do
  let kind ← Json.required "kind" (fun | .kind s => some s | _ => none) items
  let name ← Json.required "name" (fun | .name s => some s | _ => none) items
  .ok { kind, name, controller := Json.defaulted false (fun | .controller b => some b | _ => none) items }

def OwnerReference.ofJson : Snapshot.Reader OwnerReference := fun j => do
  let items ← Json.readFields OwnerReference.fields j
  OwnerReference.ofItems items

inductive Container.Item where
  | name (s : String)
  | requests (r : Resources)

def Container.fields : List (Json.Field Snapshot.Cause Container.Item) := [
  ⟨"name", fun j => .name <$> Json.readText j⟩,
  ⟨"requests", fun j => .requests <$> Resources.ofJson j⟩]

def Container.ofItems (items : List Container.Item) : Except Snapshot.Fault Container := do
  let name ← Json.required "name" (fun | .name s => some s | _ => none) items
  .ok { name, requests := Json.defaulted ∅ (fun | .requests r => some r | _ => none) items }

def Container.ofJson : Snapshot.Reader Container := fun j => do
  let items ← Json.readFields Container.fields j
  Container.ofItems items

/-! ## Pods -/

inductive Pod.Item where
  | name (s : String)
  | namespaceName (s : String)
  | annotations (t : Table String)
  | owners (os : List OwnerReference)
  | containers (cs : List Container)
  | deletionTime (seconds : Option UInt64)
  | gracePeriod (seconds : Option UInt64)

def Pod.fields : List (Json.Field Snapshot.Cause Pod.Item) := [
  ⟨"name", fun j => .name <$> Json.readText j⟩,
  ⟨"namespace", fun j => .namespaceName <$> Json.readText j⟩,
  ⟨"annotations", fun j => .annotations <$> Table.ofJson Json.readText j⟩,
  ⟨"owner_references", fun j => .owners <$> Json.readList OwnerReference.ofJson j⟩,
  ⟨"containers", fun j => .containers <$> Json.readList Container.ofJson j⟩,
  ⟨"deletion_timestamp", fun j => .deletionTime <$> readSeconds j⟩,
  ⟨"termination_grace_period_secs", fun j => .gracePeriod <$> readSeconds j⟩]

def Pod.ofItems (items : List Pod.Item) : Except Snapshot.Fault Pod := do
  let name ← Json.required "name" (fun | .name s => some s | _ => none) items
  .ok {
    name
    namespaceName := Json.defaulted "" (fun | .namespaceName s => some s | _ => none) items
    annotations := Json.defaulted ∅ (fun | .annotations t => some t | _ => none) items
    owners := Json.defaulted [] (fun | .owners os => some os | _ => none) items
    containers := Json.defaulted [] (fun | .containers cs => some cs | _ => none) items
    deletionTime := Json.defaulted none (fun | .deletionTime s => some s | _ => none) items
    gracePeriod := Json.defaulted none (fun | .gracePeriod s => some s | _ => none) items }

def Pod.ofJson : Snapshot.Reader Pod := fun j => do
  let items ← Json.readFields Pod.fields j
  Pod.ofItems items

/-! ## Nodes with their pods -/

inductive NodeInfo.Item where
  | node (n : Node)
  | pods (ps : List Pod)

def NodeInfo.fields : List (Json.Field Snapshot.Cause NodeInfo.Item) := [
  ⟨"node", fun j => .node <$> Node.ofJson j⟩,
  ⟨"pods", fun j => .pods <$> Json.readList Pod.ofJson j⟩]

def NodeInfo.ofItems (items : List NodeInfo.Item) : Except Snapshot.Fault NodeInfo := do
  let node ← Json.required "node" (fun | .node n => some n | _ => none) items
  .ok { node, pods := Json.defaulted [] (fun | .pods ps => some ps | _ => none) items }

def NodeInfo.ofJson : Snapshot.Reader NodeInfo := fun j => do
  let items ← Json.readFields NodeInfo.fields j
  NodeInfo.ofItems items

end ClusterCost
