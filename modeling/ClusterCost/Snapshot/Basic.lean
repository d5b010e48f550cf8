import ClusterCost.Resource

/-!
# Snapshots of nodes and pods

The parts of a cluster's nodes and pods that prices and utilization depend on, with the labels and annotations that
carry meaning.
-/
namespace ClusterCost

/-- A node: its labels, what its machine has, and what of it pods may use. -/
structure Node where
  name : String
  labels : Table String := ∅
  capacity : Resources := ∅
  allocatable : Resources := ∅
  deriving DecidableEq, Repr

structure OwnerReference where
  kind : String
  name : String
  controller : Bool := false
  deriving DecidableEq, Repr

structure Container where
  name : String
  requests : Resources := ∅
  deriving DecidableEq, Repr

/-- A pod. The two times are in whole seconds: when its deletion was asked for, and how long it may take to stop. -/
structure Pod where
  name : String
  namespaceName : String := ""
  annotations : Table String := ∅
  owners : List OwnerReference := []
  containers : List Container := []
  deletionTime : Option UInt64 := none
  gracePeriod : Option UInt64 := none
  deriving DecidableEq, Repr

structure NodeInfo where
  node : Node
  pods : List Pod := []
  deriving DecidableEq, Repr

/-! ## Nodes -/

namespace Label

def instanceType : String := "node.kubernetes.io/instance-type"

def olderInstanceType : String := "beta.kubernetes.io/instance-type"

def preemptible : String := "cloud.google.com/gke-preemptible"

def spot : String := "cloud.google.com/gke-spot"

/-- The label of the type of the node's graphics processors, unless the settings name another one. -/
def gpu : String := "cloud.google.com/gke-accelerator"

end Label

/-- The instance type of a node; the older label counts only where the other one is absent. -/
def Node.instanceType (n : Node) : Option String :=
  (n.labels.get? Label.instanceType).or (n.labels.get? Label.olderInstanceType)

/-- Whether the node is priced as preemptible. Spot machines are priced by the same tables. -/
def Node.isPreemptible (n : Node) : Bool :=
  n.labels.get? Label.preemptible == some "true" || n.labels.get? Label.spot == some "true"

def Resources.hasGpu (r : Resources) : Bool :=
  match r.get? Resource.gpu with
  | some q => !q.isZero
  | none => false

/-- Whether the node has graphics processors: it carries the label of their type, or lists some. -/
def Node.hasGpu (gpuLabel : String) (n : Node) : Bool :=
  n.labels.contains gpuLabel || n.allocatable.hasGpu || n.capacity.hasGpu

/-! ## Pods -/

/-- The requests of each container that lists the resource, in order. -/
def Pod.requests (p : Pod) (resource : String) : List Quantity :=
  p.containers.filterMap fun c => c.requests.get? resource

/-- What the pod requests of a resource: the sum over its containers. -/
def Pod.request (p : Pod) (resource : String) : Quantity :=
  Quantity.sum (p.requests resource)

def Pod.key (p : Pod) : String :=
  p.namespaceName ++ "/" ++ p.name

end ClusterCost
