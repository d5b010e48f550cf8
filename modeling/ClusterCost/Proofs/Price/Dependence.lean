import ClusterCost.Proofs.Price.Itemised

/-!
# What a price may depend on

Two runs of the price model with the same answer: `Node.PricedAlike` says on which parts two nodes have to agree, and
`Catalog.AgreeOn` on which numbers two catalogs have to, for the price of a node to be the same. `estimate_congr` is the
law, from one such lemma for each function of the model. `estimate_dependence` adds what is left out of it: parts of a
node and tables of a catalog that can be exchanged without changing a price.
-/
namespace ClusterCost

/-- Two nodes that no catalog prices apart: they agree on the instance type, on being preemptible, on the type of their
graphics processors, and on the three resources that have a price. An empty list of resources is not the same as one
that lists other resources only, since it costs nothing at any rate. -/
structure Node.PricedAlike (gpuLabel : String) (n n' : Node) : Prop where
  instanceType : n.instanceType = n'.instanceType
  isPreemptible : n.isPreemptible = n'.isPreemptible
  gpuType : n.labels.get? gpuLabel = n'.labels.get? gpuLabel
  cpu : n.capacity.get? Resource.cpu = n'.capacity.get? Resource.cpu
  memory : n.capacity.get? Resource.memory = n'.capacity.get? Resource.memory
  gpu : n.capacity.get? Resource.gpu = n'.capacity.get? Resource.gpu
  isEmpty : n.capacity.isEmpty = n'.capacity.isEmpty

theorem Node.PricedAlike.refl (gpuLabel : String) (n : Node) : n.PricedAlike gpuLabel n :=
  ⟨rfl, rfl, rfl, rfl, rfl, rfl, rfl⟩

namespace Resources

theorem milli_congr {r r' : Resources} {resource : String} (same : r.get? resource = r'.get? resource) :
    r.milli resource = r'.milli resource := by
  unfold milli
  rw [same]

theorem units_eq (r : Resources) (resource : String) :
    r.units resource = r.milli resource / 1000 + if r.milli resource % 1000 = 0 then 0 else 1 := by
  unfold units milli
  cases r.get? resource with
  | none => rfl
  | some q => rfl

/-- The whole units are those of the milli-units, also where nothing is listed. -/
theorem units_congr {r r' : Resources} {resource : String} (same : r.milli resource = r'.milli resource) :
    r.units resource = r'.units resource := by
  rw [units_eq, units_eq, same]

end Resources

namespace Price

/-- Two catalogs that agree on all numbers that the price of a node may be made of: the flat prices; the entry of the
instance type, or that there is none, among the machines of the node's kind; those of its family for processors and
memory among the prices for its shape, and for a preemptible node also among the discounts, with the flat discount; and
that of the type of graphics processors among those of the node's kind. -/
structure AgreeOn (gpuLabel : String) (n : Node) (c c' : Catalog) : Prop where
  cpuPrice : c.cpuPrice = c'.cpuPrice
  memoryPrice : c.memoryPrice = c'.memoryPrice
  gpuPrice : c.gpuPrice = c'.gpuPrice
  discount : n.isPreemptible = true → c.discount = c'.discount
  machine : ∀ T, n.instanceType = some T →
    (c.instancePrices n.isPreemptible).get? T = (c'.instancePrices n.isPreemptible).get? T
  cpu : ∀ T, n.instanceType = some T →
    (c.cpuPrices (isCustom T)).get? (family T) = (c'.cpuPrices (isCustom T)).get? (family T)
  memory : ∀ T, n.instanceType = some T →
    (c.memoryPrices (isCustom T)).get? (family T) = (c'.memoryPrices (isCustom T)).get? (family T)
  discounts : n.isPreemptible = true → ∀ T, n.instanceType = some T →
    (c.discounts (isCustom T)).get? (family T) = (c'.discounts (isCustom T)).get? (family T)
  gpus : ∀ gpuType, n.labels.get? gpuLabel = some gpuType →
    (c.gpuPrices n.isPreemptible).get? gpuType = (c'.gpuPrices n.isPreemptible).get? gpuType

theorem AgreeOn.refl (gpuLabel : String) (n : Node) (c : Catalog) : AgreeOn gpuLabel n c c :=
  ⟨rfl, rfl, rfl, fun _ => rfl, fun _ _ => rfl, fun _ _ => rfl, fun _ _ => rfl, fun _ _ _ => rfl, fun _ _ => rfl⟩

theorem resolve_congr {name : String} {table table' : PriceTable} {flat flat' : Float}
    (entries : table.get? name = table'.get? name) (flats : flat = flat') :
    resolve name [table] flat = resolve name [table'] flat' := by
  rw [resolve_single, resolve_single, entries, flats]

namespace Model

/-- The price of resources depends on two amounts, on whether anything is listed, and on two rates. -/
theorem basePrice_congr {m m' : Model} {r r' : Resources} {instanceType instanceType' : Option String}
    (w : Billing.Window) (cpu : r.milli Resource.cpu = r'.milli Resource.cpu)
    (memory : r.milli Resource.memory = r'.milli Resource.memory) (isEmpty : r.isEmpty = r'.isEmpty)
    (cpuRate : m.cpuRate (instanceType.getD "") = m'.cpuRate (instanceType'.getD ""))
    (memoryRate : m.memoryRate (instanceType.getD "") = m'.memoryRate (instanceType'.getD "")) :
    m.basePrice r instanceType w = m'.basePrice r' instanceType' w := by
  unfold basePrice
  dsimp only
  rw [cpu, Resources.units_congr memory, isEmpty, cpuRate, memoryRate]

section Runs

variable {gpuLabel : String} {c c' : Catalog} {n n' : Node} (w : Billing.Window)

theorem discount_congr (nodes : n.PricedAlike gpuLabel n') (catalogs : AgreeOn gpuLabel n c c') :
    discount ⟨c, gpuLabel⟩ n = discount ⟨c', gpuLabel⟩ n' := by
  by_cases preemptible : n.isPreemptible = true
  · unfold discount
    rw [← nodes.isPreemptible, ← nodes.instanceType, if_pos preemptible, if_pos preemptible]
    cases typed : n.instanceType with
    | none => rfl
    | some T => exact resolve_congr (catalogs.discounts preemptible T typed) (catalogs.discount preemptible)
  · unfold discount
    rw [← nodes.isPreemptible, if_neg preemptible, if_neg preemptible]

/-- The machines have one price. Their warnings may differ in the name of the node. -/
theorem machinePrice_congr (nodes : n.PricedAlike gpuLabel n') (catalogs : AgreeOn gpuLabel n c c') :
    (machinePrice ⟨c, gpuLabel⟩ n w).value = (machinePrice ⟨c', gpuLabel⟩ n' w).value := by
  rcases machinePrice_cases ⟨c, gpuLabel⟩ n w with
    ⟨untyped, item⟩ | ⟨T, rate, typed, listed, item⟩ | ⟨T, typed, unlisted, item⟩
  · have untyped' : n'.instanceType = none := nodes.instanceType ▸ untyped
    rw [item, machinePrice_of_untyped untyped']
  · have typed' : n'.instanceType = some T := nodes.instanceType ▸ typed
    have listed' : (c'.instancePrices n'.isPreemptible).get? T = some rate := by
      rw [← nodes.isPreemptible, ← catalogs.machine T typed]
      exact listed
    rw [item, machinePrice_of_listed typed' listed']
  · have typed' : n'.instanceType = some T := nodes.instanceType ▸ typed
    have unlisted' : (c'.instancePrices n'.isPreemptible).get? T = none := by
      rw [← nodes.isPreemptible, ← catalogs.machine T typed]
      exact unlisted
    have resources : basePrice ⟨c, gpuLabel⟩ n.capacity (some T) w =
        basePrice ⟨c', gpuLabel⟩ n'.capacity (some T) w := by
      apply basePrice_congr w (Resources.milli_congr nodes.cpu) (Resources.milli_congr nodes.memory) nodes.isEmpty
      · exact resolve_congr (catalogs.cpu T typed) catalogs.cpuPrice
      · exact resolve_congr (catalogs.memory T typed) catalogs.memoryPrice
    rw [item, machinePrice_of_unlisted typed' unlisted', resources, discount_congr nodes catalogs]

theorem gpuRate_congr (nodes : n.PricedAlike gpuLabel n') (catalogs : AgreeOn gpuLabel n c c') :
    (gpuRate ⟨c, gpuLabel⟩ n).value = (gpuRate ⟨c', gpuLabel⟩ n').value := by
  cases labelled : n.labels.get? gpuLabel with
  | none =>
    have labelled' : n'.labels.get? gpuLabel = none := nodes.gpuType ▸ labelled
    rw [gpuRate_of_unlabelled labelled, gpuRate_of_unlabelled labelled']
    exact catalogs.gpuPrice
  | some gpuType =>
    have labelled' : n'.labels.get? gpuLabel = some gpuType := nodes.gpuType ▸ labelled
    have entries := catalogs.gpus gpuType labelled
    cases listed : (c.gpuPrices n.isPreemptible).get? gpuType with
    | none =>
      rw [listed, nodes.isPreemptible] at entries
      rw [gpuRate_of_unlisted labelled listed, gpuRate_of_unlisted labelled' entries.symm]
      exact catalogs.gpuPrice
    | some rate =>
      rw [listed, nodes.isPreemptible] at entries
      rw [gpuRate_of_listed labelled listed, gpuRate_of_listed labelled' entries.symm]

theorem gpuPrice_congr (nodes : n.PricedAlike gpuLabel n') (catalogs : AgreeOn gpuLabel n c c') :
    (gpuPrice ⟨c, gpuLabel⟩ n w).value = (gpuPrice ⟨c', gpuLabel⟩ n' w).value := by
  by_cases present : ∃ q, n.capacity.get? Resource.gpu = some q ∧ q.milli ≠ 0
  · obtain ⟨q, listed, nonzero⟩ := present
    have listed' : n'.capacity.get? Resource.gpu = some q := nodes.gpu ▸ listed
    rw [gpuPrice_of_present listed nonzero, gpuPrice_of_present listed' nonzero, gpuRate_congr nodes catalogs]
  · rw [gpuPrice_of_absent _ n w present, gpuPrice_of_absent _ n' w (nodes.gpu ▸ present)]

/-- Nodes that are priced alike have one estimate in catalogs that agree on what it is made of. -/
theorem estimate_congr (nodes : n.PricedAlike gpuLabel n') (catalogs : AgreeOn gpuLabel n c c') :
    (estimate ⟨c, gpuLabel⟩ n w).value = (estimate ⟨c', gpuLabel⟩ n' w).value := by
  unfold estimate
  dsimp only
  rw [machinePrice_congr w nodes catalogs, gpuPrice_congr w nodes catalogs, nodes.isPreemptible]

end Runs

/-! ## What a price leaves out -/

section Exchange

variable {gpuLabel : String} {c : Catalog} {n : Node}

/-- Labels that agree under five names, of which one is chosen by the settings, are priced alike. -/
theorem pricedAlike_of_labels {name : String} {allocatable : Resources} {labels : Table String}
    (same : ∀ key ∈ [Label.instanceType, Label.olderInstanceType, Label.preemptible, Label.spot, gpuLabel],
      labels.get? key = n.labels.get? key) :
    Node.PricedAlike gpuLabel { n with name, allocatable, labels } n := by
  simp only [List.mem_cons, List.not_mem_nil, or_false, forall_eq_or_imp, forall_eq] at same
  obtain ⟨instanceType, older, preemptible, spot, gpuType⟩ := same
  refine ⟨?_, ?_, gpuType, rfl, rfl, rfl, rfl⟩
  · unfold Node.instanceType
    rw [instanceType, older]
  · unfold Node.isPreemptible
    rw [preemptible, spot]

/-- Both labels of preemptible machines have the same meaning, as long as neither names graphics processors. -/
theorem pricedAlike_of_preemptible_labels (notPreemptible : gpuLabel ≠ Label.preemptible)
    (notSpot : gpuLabel ≠ Label.spot) :
    Node.PricedAlike gpuLabel { n with labels := n.labels.insert Label.preemptible "true" }
      { n with labels := n.labels.insert Label.spot "true" } := by
  have other {key : String} (key_ne : key ≠ Label.preemptible) (key_ne' : key ≠ Label.spot) :
      (n.labels.insert Label.preemptible "true").get? key = (n.labels.insert Label.spot "true").get? key := by
    rw [Table.get?_insert, Table.get?_insert, if_neg key_ne, if_neg key_ne']
  refine ⟨?_, ?_, other notPreemptible notSpot, rfl, rfl, rfl, rfl⟩
  · unfold Node.instanceType
    rw [other (by decide) (by decide), other (by decide) (by decide)]
  · unfold Node.isPreemptible
    simp [Table.get?_insert]

/-- Catalogs that agree on the flat prices and on all tables of a node's kind and shape agree on its entries in them. -/
theorem agreeOn_of_tables {c' : Catalog} (cpuPrice : c.cpuPrice = c'.cpuPrice)
    (memoryPrice : c.memoryPrice = c'.memoryPrice) (gpuPrice : c.gpuPrice = c'.gpuPrice)
    (discount : n.isPreemptible = true → c.discount = c'.discount)
    (kind : c.instancePrices n.isPreemptible = c'.instancePrices n.isPreemptible ∧
      c.gpuPrices n.isPreemptible = c'.gpuPrices n.isPreemptible)
    (shape : ∀ T, n.instanceType = some T → c.cpuPrices (isCustom T) = c'.cpuPrices (isCustom T) ∧
      c.memoryPrices (isCustom T) = c'.memoryPrices (isCustom T) ∧
      (n.isPreemptible = true → c.discounts (isCustom T) = c'.discounts (isCustom T))) :
    AgreeOn gpuLabel n c c' where
  cpuPrice := cpuPrice
  memoryPrice := memoryPrice
  gpuPrice := gpuPrice
  discount := discount
  machine T _ := by rw [kind.1]
  cpu T typed := by rw [(shape T typed).1]
  memory T typed := by rw [(shape T typed).2.1]
  discounts preemptible T typed := by rw [(shape T typed).2.2 preemptible]
  gpus gpuType _ := by rw [kind.2]

theorem agreeOn_of_onDemand (onDemand : ¬n.Preemptible) (instances gpus predefined custom : PriceTable)
    (flat : Float) :
    AgreeOn gpuLabel n
      { c with
        preemptibleInstances := instances
        preemptibleGpus := gpus
        predefinedDiscount := predefined
        customDiscount := custom
        discount := flat } c := by
  have notPreemptible : ¬n.isPreemptible = true := mt n.isPreemptible_iff.mp onDemand
  refine agreeOn_of_tables rfl rfl rfl ?_ ?_ ?_
  · exact fun preemptible => absurd preemptible notPreemptible
  · rw [Bool.eq_false_iff.mpr notPreemptible]
    exact ⟨rfl, rfl⟩
  · exact fun T typed => ⟨rfl, rfl, fun preemptible => absurd preemptible notPreemptible⟩

theorem agreeOn_of_preemptible (preemptible : n.Preemptible) (instances gpus : PriceTable) :
    AgreeOn gpuLabel n { c with instances, gpus } c := by
  refine agreeOn_of_tables rfl rfl rfl (fun _ => rfl) ?_ fun T typed => ⟨rfl, rfl, fun _ => rfl⟩
  rw [n.isPreemptible_iff.mpr preemptible]
  exact ⟨rfl, rfl⟩

theorem agreeOn_of_custom {T : String} (typed : n.IsOfType T) (custom : IsCustom T)
    (cpu memory discounts : PriceTable) :
    AgreeOn gpuLabel n
      { c with predefinedCpu := cpu, predefinedMemory := memory, predefinedDiscount := discounts } c := by
  refine agreeOn_of_tables rfl rfl rfl (fun _ => rfl) ⟨rfl, rfl⟩ fun T' typed' => ?_
  rw [typed.unique (Node.instanceType_eq_some_iff.mp typed'), ← isCustom_iff] at custom
  rw [custom]
  exact ⟨rfl, rfl, fun _ => rfl⟩

theorem agreeOn_of_predefined {T : String} (typed : n.IsOfType T) (predefined : ¬IsCustom T)
    (cpu memory discounts : PriceTable) :
    AgreeOn gpuLabel n { c with customCpu := cpu, customMemory := memory, customDiscount := discounts } c := by
  refine agreeOn_of_tables rfl rfl rfl (fun _ => rfl) ⟨rfl, rfl⟩ fun T' typed' => ?_
  rw [typed.unique (Node.instanceType_eq_some_iff.mp typed'), ← isCustom_iff, Bool.not_eq_true] at predefined
  rw [predefined]
  exact ⟨rfl, rfl, fun _ => rfl⟩

end Exchange

/-- What a price may depend on. Nodes that are priced alike have one estimate in catalogs that agree on what it is made
of. So these can be exchanged without changing any part of an estimate: the name of a node, what of it pods may use, its
labels under other names, and its capacity of other resources as long as no list becomes empty or stops to be; for an
on-demand node all tables of preemptible machines and all discounts, for a preemptible one the tables of on-demand
machines; for a custom shape the prices and discounts of predefined shapes, and for any other the custom ones; and the
label that makes a node preemptible. -/
theorem estimate_dependence (gpuLabel : String) (w : Billing.Window) :
    let price (c : Catalog) (n : Node) : Estimate := (estimate ⟨c, gpuLabel⟩ n w).value
    (∀ (c c' : Catalog) (n n' : Node), n.PricedAlike gpuLabel n' → AgreeOn gpuLabel n c c' →
      price c n = price c' n') ∧
    -- Parts of a node.
    (∀ (c : Catalog) (n : Node) name allocatable labels,
      (∀ key ∈ [Label.instanceType, Label.olderInstanceType, Label.preemptible, Label.spot, gpuLabel],
        labels.get? key = n.labels.get? key) →
      price c { n with name, allocatable, labels } = price c n) ∧
    (∀ (c : Catalog) (n : Node) capacity, capacity.isEmpty = n.capacity.isEmpty →
      (∀ resource ∈ [Resource.cpu, Resource.memory, Resource.gpu],
        capacity.get? resource = n.capacity.get? resource) →
      price c { n with capacity } = price c n) ∧
    -- Tables of a catalog.
    (∀ (c : Catalog) (n : Node), ¬n.Preemptible → ∀ instances gpus predefined custom flat,
      price { c with
        preemptibleInstances := instances
        preemptibleGpus := gpus
        predefinedDiscount := predefined
        customDiscount := custom
        discount := flat } n = price c n) ∧
    (∀ (c : Catalog) (n : Node), n.Preemptible → ∀ instances gpus, price { c with instances, gpus } n = price c n) ∧
    (∀ (c : Catalog) (n : Node) T, n.IsOfType T → IsCustom T → ∀ cpu memory discounts,
      price { c with predefinedCpu := cpu, predefinedMemory := memory, predefinedDiscount := discounts } n =
        price c n) ∧
    (∀ (c : Catalog) (n : Node) T, n.IsOfType T → ¬IsCustom T → ∀ cpu memory discounts,
      price { c with customCpu := cpu, customMemory := memory, customDiscount := discounts } n = price c n) ∧
    -- The two labels of preemptible machines.
    (gpuLabel ≠ Label.preemptible → gpuLabel ≠ Label.spot → ∀ (c : Catalog) (n : Node),
      price c { n with labels := n.labels.insert Label.preemptible "true" } =
        price c { n with labels := n.labels.insert Label.spot "true" }) := by
  intro price
  have law {c c' : Catalog} {n n' : Node} (nodes : n.PricedAlike gpuLabel n') (catalogs : AgreeOn gpuLabel n c c') :
      price c n = price c' n' := estimate_congr w nodes catalogs
  have same_catalog {c : Catalog} {n n' : Node} (nodes : n.PricedAlike gpuLabel n') : price c n = price c n' :=
    law nodes (.refl gpuLabel n c)
  have same_node {c c' : Catalog} {n : Node} (catalogs : AgreeOn gpuLabel n c c') : price c n = price c' n :=
    law (.refl gpuLabel n) catalogs
  refine ⟨fun c c' n n' => law, ?_, ?_, ?_, ?_, ?_, ?_, ?_⟩
  · intro c n name allocatable labels same
    exact same_catalog (pricedAlike_of_labels same)
  · intro c n capacity isEmpty same
    simp only [List.mem_cons, List.not_mem_nil, or_false, forall_eq_or_imp, forall_eq] at same
    obtain ⟨cpu, memory, gpu⟩ := same
    exact same_catalog ⟨rfl, rfl, rfl, cpu, memory, gpu, isEmpty⟩
  · intro c n onDemand instances gpus predefined custom flat
    exact same_node (agreeOn_of_onDemand onDemand instances gpus predefined custom flat)
  · intro c n preemptible instances gpus
    exact same_node (agreeOn_of_preemptible preemptible instances gpus)
  · intro c n T typed custom cpu memory discounts
    exact same_node (agreeOn_of_custom typed custom cpu memory discounts)
  · intro c n T typed predefined cpu memory discounts
    exact same_node (agreeOn_of_predefined typed predefined cpu memory discounts)
  · intro notPreemptible notSpot c n
    exact same_catalog (pricedAlike_of_preemptible_labels notPreemptible notSpot)

def spotNode : Node where
  name := "spot"
  labels := Table.ofEntries [(Label.instanceType, "n1-custom-2-4096"), (Label.spot, "true")]
  capacity := Table.ofEntries [(Resource.cpu, .ofUnits 2)]

def preemptibleNode : Node where
  name := "preemptible"
  labels := Table.ofEntries
    [("team", "data"), (Label.olderInstanceType, "n1-custom-2-4096"), (Label.preemptible, "true")]
  capacity := Table.ofEntries [("pods", .ofUnits 110), (Resource.cpu, .ofUnits 2)]
  allocatable := Table.ofEntries [(Resource.gpu, .ofUnits 1)]

def shortCatalog : Catalog where
  cpuPrice := 0.04
  customDiscount := Table.ofEntries [("n1", 0.3)]

def longCatalog : Catalog :=
  { shortCatalog with
    predefinedCpu := Table.ofEntries [("n1", 0.03)]
    customCpu := Table.ofEntries [("n2", 0.05)]
    instances := Table.ofEntries [("n1-custom-2-4096", 0.5)]
    predefinedDiscount := Table.ofEntries [("n1", 0.2)] }

def firstHour : Billing.Window where
  start := Instant.epoch
  finish := (Instant.epoch.addSeconds? 3600).getD Instant.epoch

/-- Both machines have one estimate, each in its own catalog. -/
theorem estimate_spotNode : spotNode.PricedAlike Label.gpu preemptibleNode ∧
    AgreeOn Label.gpu spotNode shortCatalog longCatalog ∧
    (estimate ⟨shortCatalog, Label.gpu⟩ spotNode firstHour).value =
      (estimate ⟨longCatalog, Label.gpu⟩ preemptibleNode firstHour).value := by
  have only {T : String} (typed : spotNode.instanceType = some T) : T = "n1-custom-2-4096" := by
    have shape : spotNode.instanceType = some "n1-custom-2-4096" := by decide
    rw [shape, Option.some.injEq] at typed
    exact typed.symm
  have nodes : spotNode.PricedAlike Label.gpu preemptibleNode := by
    constructor <;> decide
  have catalogs : AgreeOn Label.gpu spotNode shortCatalog longCatalog := by
    refine ⟨rfl, rfl, rfl, fun _ => rfl, ?_, ?_, ?_, ?_, fun _ _ => rfl⟩
    · intro T typed
      rw [only typed]
      decide
    · intro T typed
      rw [only typed]
      decide
    · intro T typed
      rw [only typed]
      decide
    · intro _ T typed
      rw [only typed]
      decide
  exact ⟨nodes, catalogs, (estimate_dependence Label.gpu firstHour).1 _ _ _ _ nodes catalogs⟩

end Model

end Price

end ClusterCost
