import ClusterCost.Proofs.Binary64.Neutral
import ClusterCost.Proofs.Price.Pods
import ClusterCost.Proofs.Table

/-!
# Where nodes and pods cost the same

A node and a pod are priced in two ways. The node has an instance type, a factor for preemptible machines, and graphics
processors of some type; the pod has none of these. `PricedFlat` says that no table lists anything under the names that
either way looks up. Then every rate of both is a flat price (`cpuRate_of_pricedFlat`, `gpuRate_of_pricedFlat`), the factor
is one, which changes no float, and so a pod that requests the whole capacity of a node costs what the node does
(`estimate_of_pricedFlat`).
-/
namespace ClusterCost.Price

namespace Model

/-- An on-demand node of a type that no table of a catalog has a price for: the type is no listed machine, its family is
listed neither for processors nor for memory of its shape, and the graphics processors have no label or one of an
unlisted type. Nor is the empty name listed, which stands for the type of a pod. -/
structure PricedFlat (m : Model) (n : Node) (T : String) : Prop where
  onDemand : ¬n.Preemptible
  typed : n.IsOfType T
  machine : m.catalog.instances.get? T = none
  cpu : ∀ name, IsFamily name T →
    (if IsCustom T then m.catalog.customCpu else m.catalog.predefinedCpu).get? name = none
  memory : ∀ name, IsFamily name T →
    (if IsCustom T then m.catalog.customMemory else m.catalog.predefinedMemory).get? name = none
  emptyCpu : m.catalog.predefinedCpu.get? "" = none
  emptyMemory : m.catalog.predefinedMemory.get? "" = none
  gpu : ∀ gpuType, n.labels.get? m.gpuLabel = some gpuType → m.catalog.gpus.get? gpuType = none

section Flat

variable {m : Model} {n : Node} {T : String}

/-- The two ways to a price of processors end at the flat one. -/
theorem cpuRate_of_pricedFlat (flat : m.PricedFlat n T) : m.cpuRate T = m.cpuRate "" := by
  have family_flat : m.cpuRate T = m.catalog.cpuPrice := by
    rw [cpuRate, cpuPrices_eq]
    exact resolve_of_unlisted _ (flat.cpu _ (isFamily_family T))
  rw [family_flat, cpuRate_empty, flat.emptyCpu, Option.getD_none]

theorem memoryRate_of_pricedFlat (flat : m.PricedFlat n T) : m.memoryRate T = m.memoryRate "" := by
  have family_flat : m.memoryRate T = m.catalog.memoryPrice := by
    rw [memoryRate, memoryPrices_eq]
    exact resolve_of_unlisted _ (flat.memory _ (isFamily_family T))
  rw [family_flat, memoryRate_empty, flat.emptyMemory, Option.getD_none]

theorem gpuRate_of_pricedFlat (flat : m.PricedFlat n T) : (m.gpuRate n).value = m.catalog.gpuPrice := by
  cases labelled : n.labels.get? m.gpuLabel with
  | none => rw [gpuRate_of_unlabelled labelled]
  | some gpuType =>
    have unlisted : (m.catalog.gpuPrices n.isPreemptible).get? gpuType = none := by
      rw [gpuPrices_eq, if_neg flat.onDemand]
      exact flat.gpu gpuType labelled
    rw [gpuRate_of_unlisted labelled unlisted]

theorem machinePrice_of_pricedFlat (flat : m.PricedFlat n T) (w : Billing.Window) :
    (m.machinePrice n w).value = (.perResource, m.basePrice n.capacity (some T) w * 1.0) := by
  have unlisted : (m.catalog.instancePrices n.isPreemptible).get? T = none := by
    rw [instancePrices_eq, if_neg flat.onDemand]
    exact flat.machine
  rw [machinePrice_of_unlisted (Node.instanceType_eq_some_iff.mpr flat.typed) unlisted,
    discount_of_not_preemptible flat.onDemand]

theorem additionalPrice_of_present {r : Resources} {gpus : Quantity} (listed : r.get? Resource.gpu = some gpus)
    (w : Billing.Window) :
    m.additionalPrice r w = Float.ofInt gpus.milli / 1000.0 * m.catalog.gpuPrice * w.hours := by
  have nonempty : ¬r.isEmpty = true := by
    intro empty
    rw [Table.isEmpty_iff.mp empty] at listed
    cases listed
  unfold additionalPrice Resources.milli
  rw [if_neg nonempty, listed]

end Flat

/-- A pod with one container costs what the container does. -/
theorem podPrice_single (m : Model) (p : Pod) (c : Container) (w : Billing.Window) :
    m.podPrice { p with containers := [c] } w = m.containerPrice c w := by
  unfold podPrice
  rw [List.foldl_cons, List.foldl_nil, Binary64.negZero_add]

/-- Where no table lists anything for a node, it is priced by its resources, at the prices of a pod and with the factor
one, and so its machine costs what the processors and the memory of a container with the same requests do. If the node
has graphics processors, they cost the same as well, and a pod with just this container costs what the node does. -/
theorem estimate_of_pricedFlat {m : Model} {n : Node} {T : String} (flat : m.PricedFlat n T) {requests : Resources}
    (same : ∀ resource, requests.get? resource = n.capacity.get? resource) (w : Billing.Window) :
    let e := (m.estimate n w).value
    e.basis = .perResource ∧ e.machine = m.basePrice requests none w * 1.0 ∧
    (∀ name, m.containerPrice ⟨name, requests⟩ w = e.machine + m.additionalPrice requests w) ∧
    ∀ gpus, n.capacity.get? Resource.gpu = some gpus → gpus.milli ≠ 0 →
      e.gpu = m.additionalPrice requests w ∧
      ∀ (p : Pod) name, m.podPrice { p with containers := [⟨name, requests⟩] } w = e.total := by
  intro e
  have machine_eq : (e.basis, e.machine) = (m.machinePrice n w).value := rfl
  have gpu_eq : e.gpu = (m.gpuPrice n w).value := rfl
  have base_eq : m.basePrice n.capacity (some T) w = m.basePrice requests none w := by
    apply basePrice_congr w
    · exact (Resources.milli_congr (same Resource.cpu)).symm
    · exact (Resources.milli_congr (same Resource.memory)).symm
    · exact (Table.isEmpty_congr same).symm
    · exact cpuRate_of_pricedFlat flat
    · exact memoryRate_of_pricedFlat flat
  rw [machinePrice_of_pricedFlat flat, base_eq, Prod.mk.injEq] at machine_eq
  obtain ⟨basis_eq, machine_eq⟩ := machine_eq
  have container_eq (name : String) :
      m.containerPrice ⟨name, requests⟩ w = e.machine + m.additionalPrice requests w := by
    rw [machine_eq, Binary64.float_mul_one]
    rfl
  refine ⟨basis_eq, machine_eq, container_eq, ?_⟩
  intro gpus present nonzero
  have gpu_price : e.gpu = m.additionalPrice requests w := by
    rw [gpu_eq, gpuPrice_of_present present nonzero, gpuRate_of_pricedFlat flat,
      additionalPrice_of_present ((same Resource.gpu).trans present)]
  refine ⟨gpu_price, fun p name => ?_⟩
  rw [podPrice_single, container_eq, ← gpu_price]
  rfl

/-- A machine of a custom shape with graphics processors of a type that is listed for preemptible machines only. -/
def gpuNode : Node where
  name := "gpu"
  labels := Table.ofEntries [(Label.instanceType, "n1-custom-2-4096"), (Label.gpu, "nvidia-tesla-p4")]
  capacity := Table.ofEntries [(Resource.cpu, .ofUnits 2), (Resource.memory, .ofUnits 4294967296), (Resource.gpu, .ofUnits 1)]

def otherCatalog : Catalog where
  cpuPrice := 0.03
  memoryPrice := 0.004
  gpuPrice := 0.95
  instances := Table.ofEntries [("n1-standard-2", 0.1)]
  preemptibleInstances := Table.ofEntries [("n1-custom-2-4096", 0.05)]
  predefinedCpu := Table.ofEntries [("n1", 0.02)]
  customMemory := Table.ofEntries [("n2", 0.003)]
  gpus := Table.ofEntries [("nvidia-tesla-t4", 0.35)]
  preemptibleGpus := Table.ofEntries [("nvidia-tesla-p4", 0.2)]
  discount := 0.2

def wholeNode : Resources :=
  Table.ofEntries [(Resource.gpu, .ofUnits 1), (Resource.memory, .ofUnits 4294967296), (Resource.cpu, .ofUnits 2)]

theorem pricedFlat_gpuNode : PricedFlat ⟨otherCatalog, Label.gpu⟩ gpuNode "n1-custom-2-4096" := by
  have only {name : String} (family_eq : IsFamily name "n1-custom-2-4096") : name = "n1" := by
    rw [isFamily_iff.mp family_eq]
    decide
  refine ⟨by decide, .inl (by decide), by decide, ?_, ?_, by decide, by decide, ?_⟩
  · intro name family_eq
    rw [only family_eq]
    decide
  · intro name family_eq
    rw [only family_eq]
    decide
  · intro gpuType labelled
    have label : gpuNode.labels.get? Label.gpu = some "nvidia-tesla-p4" := by decide
    rw [label, Option.some.injEq] at labelled
    rw [← labelled]
    decide

theorem wholeNode_eq (resource : String) : wholeNode.get? resource = gpuNode.capacity.get? resource := by
  unfold wholeNode gpuNode Table.ofEntries
  simp only [List.foldl_cons, List.foldl_nil, Table.get?_insert]
  split_ifs <;> simp_all [Resource.cpu, Resource.memory, Resource.gpu]

/-- A pod with one container that requests the whole machine costs what the machine does. -/
theorem estimate_gpuNode :
    let e := (estimate ⟨otherCatalog, Label.gpu⟩ gpuNode firstHour).value
    PricedFlat ⟨otherCatalog, Label.gpu⟩ gpuNode "n1-custom-2-4096" ∧
    (∀ resource, wholeNode.get? resource = gpuNode.capacity.get? resource) ∧
    e.basis = .perResource ∧ e.machine = basePrice ⟨otherCatalog, Label.gpu⟩ wholeNode none firstHour * 1.0 ∧
    podPrice ⟨otherCatalog, Label.gpu⟩ { name := "all", containers := [⟨"main", wholeNode⟩] } firstHour = e.total := by
  obtain ⟨basis_eq, machine_eq, -, present⟩ := estimate_of_pricedFlat pricedFlat_gpuNode wholeNode_eq firstHour
  have agree := (present (.ofUnits 1) (by decide) (by decide)).2 { name := "all" } "main"
  exact ⟨pricedFlat_gpuNode, wholeNode_eq, basis_eq, machine_eq, agree⟩

end Model

end ClusterCost.Price
