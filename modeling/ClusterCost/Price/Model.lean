import ClusterCost.Billing.Window
import ClusterCost.Log
import ClusterCost.Price.Lookup
import ClusterCost.Snapshot.Basic

/-!
# Prices of nodes and pods

A node costs the price of its instance type, if the catalog has it, and otherwise that of its processors and memory with
the discount of a preemptible machine; graphics processors are added. A pod costs what its requests would cost on a
machine that fits them exactly, without any discount. All prices are for a billing window, in US dollars.
-/
namespace ClusterCost.Price

/-- A catalog, and the label of the type of a node's graphics processors. -/
structure Model where
  catalog : Catalog
  gpuLabel : String := Label.gpu

/-- Where the price of the machine itself came from. -/
inductive Basis where
  | instanceTable
  | perResource
  | unpriced
  deriving DecidableEq, Repr

def Basis.name : Basis → String
  | .instanceTable => "instance_table"
  | .perResource => "per_resource"
  | .unpriced => "unpriced"

def Basis.title : Basis → String
  | .instanceTable => "InstanceTable"
  | .perResource => "PerResource"
  | .unpriced => "Unpriced"

structure Estimate where
  hours : Float
  preemptible : Bool
  basis : Basis
  machine : Float
  gpu : Float
  deriving DecidableEq

def Estimate.total (e : Estimate) : Float :=
  e.machine + e.gpu

/-- What an estimate reports beside its result: a name that the catalog does not have. -/
inductive Warning where
  | unknownInstance (node instanceType : String) (preemptible : Bool)
  | unknownGpu (node gpuType : String) (preemptible : Bool)
  deriving DecidableEq, Repr

def Warning.event : Warning → Log.Event
  | .unknownInstance node instanceType preemptible =>
    { level := .warn
      message := "pricing information not found for instance type; falling back to per-resource pricing"
      fields := [("node", .text node), ("instance_type", .text instanceType), ("preemptible", .flag preemptible)] }
  | .unknownGpu node gpuType preemptible =>
    { level := .warn
      message := "pricing information not found for GPU type; falling back to base GPU price"
      fields := [("node", .text node), ("gpu_type", .text gpuType), ("preemptible", .flag preemptible)] }

/-- A result, and the warnings on the way to it. -/
structure Quote (α : Type) where
  value : α
  warnings : List Warning := []

namespace Model

def cpuRate (m : Model) (instanceType : String) : Float :=
  resolve (family instanceType) [m.catalog.cpuPrices (isCustom instanceType)] m.catalog.cpuPrice

def memoryRate (m : Model) (instanceType : String) : Float :=
  resolve (family instanceType) [m.catalog.memoryPrices (isCustom instanceType)] m.catalog.memoryPrice

/-- The price of the processors and the memory of a list of resources, at the rates of an instance type. Without an
instance type the empty name stands for it; an empty list costs nothing. -/
def basePrice (m : Model) (resources : Resources) (instanceType : Option String) (w : Billing.Window) : Float :=
  if resources.isEmpty then 0.0
  else
    let name := instanceType.getD ""
    let cpu := Float.ofInt (resources.milli Resource.cpu) / 1000.0 * m.cpuRate name * w.hours
    let memory :=
      Float.ofInt (resources.units Resource.memory) / Float.ofInt Resource.gibibyte * m.memoryRate name * w.hours
    cpu + memory

/-- The price of the graphics processors of a list of resources, at the flat rate. -/
def additionalPrice (m : Model) (resources : Resources) (w : Billing.Window) : Float :=
  if resources.isEmpty then 0.0
  else Float.ofInt (resources.milli Resource.gpu) / 1000.0 * m.catalog.gpuPrice * w.hours

/-- The factor that a preemptible node's price is multiplied with, where it is made of resource prices. -/
def discount (m : Model) (n : Node) : Float :=
  if n.isPreemptible then
    match n.instanceType with
    | some instanceType =>
      resolve (family instanceType) [m.catalog.discounts (isCustom instanceType)] m.catalog.discount
    | none => 1.0
  else 1.0

def machinePrice (m : Model) (n : Node) (w : Billing.Window) : Quote (Basis × Float) :=
  match n.instanceType with
  | none => { value := (.unpriced, 0.0) }
  | some instanceType =>
    match lookup? instanceType [m.catalog.instancePrices n.isPreemptible] with
    | some rate => { value := (.instanceTable, rate * w.hours) }
    | none =>
      { value := (.perResource, m.basePrice n.capacity (some instanceType) w * m.discount n)
        warnings := [.unknownInstance n.name instanceType n.isPreemptible] }

def gpuRate (m : Model) (n : Node) : Quote Float :=
  match n.labels.get? m.gpuLabel with
  | none => { value := m.catalog.gpuPrice }
  | some gpuType =>
    match lookup? gpuType [m.catalog.gpuPrices n.isPreemptible] with
    | some rate => { value := rate }
    | none => { value := m.catalog.gpuPrice, warnings := [.unknownGpu n.name gpuType n.isPreemptible] }

/-- The price of the node's graphics processors. Where it has none, no rate is looked up. -/
def gpuPrice (m : Model) (n : Node) (w : Billing.Window) : Quote Float :=
  match n.capacity.get? Resource.gpu with
  | none => { value := 0.0 }
  | some gpus =>
    if gpus.isZero then { value := 0.0 }
    else
      let rate := m.gpuRate n
      { value := Float.ofInt gpus.milli / 1000.0 * rate.value * w.hours, warnings := rate.warnings }

def estimate (m : Model) (n : Node) (w : Billing.Window) : Quote Estimate :=
  let machine := m.machinePrice n w
  let gpu := m.gpuPrice n w
  { value :=
      { hours := w.hours
        preemptible := n.isPreemptible
        basis := machine.value.1
        machine := machine.value.2
        gpu := gpu.value }
    warnings := machine.warnings ++ gpu.warnings }

def nodePrice (m : Model) (n : Node) (w : Billing.Window) : Float :=
  (m.estimate n w).value.total

def containerPrice (m : Model) (c : Container) (w : Billing.Window) : Float :=
  m.basePrice c.requests none w + m.additionalPrice c.requests w

/-- The price of a pod over a window: the sum over its containers from left to right. A pod without containers costs
minus zero, the sum that changes no number it is added to. -/
def podPrice (m : Model) (p : Pod) (w : Billing.Window) : Float :=
  p.containers.foldl (fun total c => total + m.containerPrice c w) (-0.0)

end Model

end ClusterCost.Price
