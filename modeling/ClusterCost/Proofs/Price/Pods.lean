import ClusterCost.Proofs.Price.Dependence
import Mathlib.Data.List.Forall2

/-!
# What the price of a pod may depend on

The price of a pod is made of its requests alone, and of five numbers of a catalog: the flat prices, and what the tables
for predefined shapes list under the empty name, which stands for the instance type that a pod does not have.
`Pod.PricedAlike` and `AgreeForPods` say when two pods and two catalogs are the same in this. `containerPrice_congr` is the
law for one container, and `podPrice_congr` for a pod, by induction on its containers. `podPrice_dependence` adds what is
left out of it, above all every discount.
-/
namespace ClusterCost

/-- Two containers that no catalog prices apart: they request the same amounts of the three resources that have a price,
and both list a request or none does. A resource that is not listed is one of which nothing is requested. -/
structure Container.PricedAlike (c c' : Container) : Prop where
  cpu : c.requests.milli Resource.cpu = c'.requests.milli Resource.cpu
  memory : c.requests.milli Resource.memory = c'.requests.milli Resource.memory
  gpu : c.requests.milli Resource.gpu = c'.requests.milli Resource.gpu
  isEmpty : c.requests.isEmpty = c'.requests.isEmpty

/-- Two pods that no catalog prices apart: they have as many containers, and these are alike one by one. -/
def Pod.PricedAlike (p p' : Pod) : Prop :=
  List.Forall₂ Container.PricedAlike p.containers p'.containers

theorem Container.PricedAlike.refl (c : Container) : c.PricedAlike c :=
  ⟨rfl, rfl, rfl, rfl⟩

theorem Pod.PricedAlike.refl (p : Pod) : p.PricedAlike p :=
  List.forall₂_same.mpr fun c _ => .refl c

/-- Containers whose requests are found alike under the names of the three resources that have a price. -/
theorem Container.pricedAlike_of_requests {c c' : Container} (isEmpty : c.requests.isEmpty = c'.requests.isEmpty)
    (same : ∀ resource ∈ [Resource.cpu, Resource.memory, Resource.gpu],
      c.requests.get? resource = c'.requests.get? resource) : c.PricedAlike c' := by
  simp only [List.mem_cons, List.not_mem_nil, or_false, forall_eq_or_imp, forall_eq] at same
  obtain ⟨cpu, memory, gpu⟩ := same
  exact ⟨Resources.milli_congr cpu, Resources.milli_congr memory, Resources.milli_congr gpu, isEmpty⟩

namespace Price

/-- Two catalogs that agree on all numbers that the price of a pod may be made of. -/
structure AgreeForPods (c c' : Catalog) : Prop where
  cpuPrice : c.cpuPrice = c'.cpuPrice
  memoryPrice : c.memoryPrice = c'.memoryPrice
  gpuPrice : c.gpuPrice = c'.gpuPrice
  cpu : c.predefinedCpu.get? "" = c'.predefinedCpu.get? ""
  memory : c.predefinedMemory.get? "" = c'.predefinedMemory.get? ""

theorem AgreeForPods.refl (c : Catalog) : AgreeForPods c c :=
  ⟨rfl, rfl, rfl, rfl, rfl⟩

namespace Model

/-! ## Rates without an instance type -/

theorem family_empty : family "" = "" := by
  decide

theorem isCustom_empty : isCustom "" = false := by
  decide

theorem cpuRate_empty (m : Model) : m.cpuRate "" = (m.catalog.predefinedCpu.get? "").getD m.catalog.cpuPrice := by
  rw [cpuRate, family_empty, isCustom_empty, resolve_single]
  rfl

theorem memoryRate_empty (m : Model) :
    m.memoryRate "" = (m.catalog.predefinedMemory.get? "").getD m.catalog.memoryPrice := by
  rw [memoryRate, family_empty, isCustom_empty, resolve_single]
  rfl

section Runs

variable {m m' : Model} (w : Billing.Window)

theorem additionalPrice_congr {r r' : Resources} (gpu : r.milli Resource.gpu = r'.milli Resource.gpu)
    (isEmpty : r.isEmpty = r'.isEmpty) (gpuPrice : m.catalog.gpuPrice = m'.catalog.gpuPrice) :
    m.additionalPrice r w = m'.additionalPrice r' w := by
  unfold additionalPrice
  rw [gpu, isEmpty, gpuPrice]

theorem containerPrice_congr {c c' : Container} (containers : c.PricedAlike c')
    (catalogs : AgreeForPods m.catalog m'.catalog) : m.containerPrice c w = m'.containerPrice c' w := by
  have base : m.basePrice c.requests none w = m'.basePrice c'.requests none w := by
    apply basePrice_congr w containers.cpu containers.memory containers.isEmpty
    · rw [Option.getD_none, cpuRate_empty, cpuRate_empty, catalogs.cpu, catalogs.cpuPrice]
    · rw [Option.getD_none, memoryRate_empty, memoryRate_empty, catalogs.memory, catalogs.memoryPrice]
  unfold containerPrice
  rw [base, additionalPrice_congr w containers.gpu containers.isEmpty catalogs.gpuPrice]

/-- Adding up containers that are alike one by one comes to the same from any total on. -/
theorem foldl_containerPrice_congr (catalogs : AgreeForPods m.catalog m'.catalog) {cs cs' : List Container}
    (alike : List.Forall₂ Container.PricedAlike cs cs') (total : Float) :
    cs.foldl (fun total c => total + m.containerPrice c w) total =
      cs'.foldl (fun total c => total + m'.containerPrice c w) total := by
  induction alike generalizing total with
  | nil => rw [List.foldl_nil, List.foldl_nil]
  | cons first _ ih =>
    rw [List.foldl_cons, List.foldl_cons, containerPrice_congr w first catalogs]
    exact ih _

/-- Two pods that are priced alike cost the same in catalogs that agree for pods. -/
theorem podPrice_congr {p p' : Pod} (pods : p.PricedAlike p') (catalogs : AgreeForPods m.catalog m'.catalog) :
    m.podPrice p w = m'.podPrice p' w := by
  unfold podPrice
  exact foldl_containerPrice_congr w catalogs pods _

end Runs

/-- What the price of a pod may depend on. Pods that are priced alike cost the same in catalogs that agree for pods. So
these can be exchanged without changing the price: the name of a pod, its annotations, its owners, and when and how it
stops; the names of its containers, and their requests of other resources as long as no list becomes empty or stops to be;
of a catalog, every table of machines and of graphics processors, those for custom shapes, every discount, and all entries
of the two tables for predefined shapes but those under the empty name; and the label that names graphics processors. -/
theorem podPrice_dependence (w : Billing.Window) :
    let price (m : Model) (p : Pod) : Float := m.podPrice p w
    (∀ m m' p p', p.PricedAlike p' → AgreeForPods m.catalog m'.catalog → price m p = price m' p') ∧
    -- Parts of a pod.
    (∀ m p name namespaceName annotations owners deletionTime gracePeriod,
      price m { p with name, namespaceName, annotations, owners, deletionTime, gracePeriod } = price m p) ∧
    (∀ m p (names : Container → String) (requests : Container → Resources),
      (∀ c ∈ p.containers, (requests c).isEmpty = c.requests.isEmpty ∧
        ∀ resource ∈ [Resource.cpu, Resource.memory, Resource.gpu],
          (requests c).get? resource = c.requests.get? resource) →
      price m { p with containers := p.containers.map fun c => ⟨names c, requests c⟩ } = price m p) ∧
    -- Tables of a catalog.
    (∀ c gpuLabel gpuLabel' p instances preemptibleInstances gpus preemptibleGpus customCpu customMemory
      predefinedDiscount customDiscount discount,
      price ⟨{ c with
        instances
        preemptibleInstances
        gpus
        preemptibleGpus
        customCpu
        customMemory
        predefinedDiscount
        customDiscount
        discount }, gpuLabel'⟩ p = price ⟨c, gpuLabel⟩ p) ∧
    (∀ c gpuLabel p (predefinedCpu predefinedMemory : PriceTable),
      predefinedCpu.get? "" = c.predefinedCpu.get? "" → predefinedMemory.get? "" = c.predefinedMemory.get? "" →
      price ⟨{ c with predefinedCpu, predefinedMemory }, gpuLabel⟩ p = price ⟨c, gpuLabel⟩ p) := by
  intro price
  have law {m m' : Model} {p p' : Pod} (pods : p.PricedAlike p') (catalogs : AgreeForPods m.catalog m'.catalog) :
      price m p = price m' p' := podPrice_congr w pods catalogs
  refine ⟨fun m m' p p' => law, ?_, ?_, ?_, ?_⟩
  · intro m p name namespaceName annotations owners deletionTime gracePeriod
    exact law (.refl p) (.refl m.catalog)
  · intro m p names requests same
    refine law (List.forall₂_map_left_iff.mpr (List.forall₂_same.mpr ?_)) (.refl m.catalog)
    intro c member
    exact Container.pricedAlike_of_requests (same c member).1 (same c member).2
  · intro c gpuLabel gpuLabel' p instances preemptibleInstances gpus preemptibleGpus customCpu customMemory
      predefinedDiscount customDiscount discount
    exact law (.refl p) ⟨rfl, rfl, rfl, rfl, rfl⟩
  · intro c gpuLabel p predefinedCpu predefinedMemory cpu memory
    exact law (.refl p) ⟨rfl, rfl, rfl, cpu, memory⟩

/-- A pod of a daemon set that runs on spot machines and is about to stop. -/
def spotPod : Pod where
  name := "agent"
  annotations := Table.ofEntries [(Label.spot, "true")]
  owners := [⟨"DaemonSet", "agent", true⟩]
  containers := [⟨"agent", Table.ofEntries [(Resource.cpu, .ofUnits 2), (Resource.memory, .ofUnits 1073741824)]⟩,
    ⟨"idle", ∅⟩]
  deletionTime := some 0

def onDemandPod : Pod where
  name := "web"
  namespaceName := "shop"
  containers := [⟨"web", Table.ofEntries [("pods", .ofUnits 1), (Resource.memory, .ofUnits 1073741824),
    (Resource.gpu, 0), (Resource.cpu, .ofUnits 2)]⟩, ⟨"wait", ∅⟩]

/-- Both pods cost the same, each in a catalog with other discounts. -/
theorem podPrice_spotPod : spotPod.PricedAlike onDemandPod ∧ AgreeForPods shortCatalog longCatalog ∧
    podPrice ⟨shortCatalog, Label.gpu⟩ spotPod firstHour = podPrice ⟨longCatalog, Label.spot⟩ onDemandPod firstHour := by
  have pods : spotPod.PricedAlike onDemandPod := by
    refine .cons ?_ (.cons ?_ .nil)
    · constructor <;> decide
    · constructor <;> decide
  have catalogs : AgreeForPods shortCatalog longCatalog := by
    refine ⟨rfl, rfl, rfl, ?_, ?_⟩ <;> decide
  exact ⟨pods, catalogs, (podPrice_dependence firstHour).1 _ _ _ _ pods catalogs⟩

end Model

end Price

end ClusterCost
