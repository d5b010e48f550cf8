import ClusterCost.Price.Model
import ClusterCost.Proofs.Text.Trim
import Mathlib.Data.List.TakeWhile
import Mathlib.Logic.Basic

/-!
# What an estimate is made of

The estimate of a node has two items, the machine and its graphics processors. Where their prices come from is said here
in terms of labels and entries: `Node.Untyped`, `Node.IsOfType` and `Node.Preemptible` read the labels of a node,
`IsFamily` and `IsCustom` the name of an instance type, and `Gives` is the entry of a table, or a flat number where the
table has none. An entry is an entry whatever its number is, so a price of zero is not a missing price.

Every function of the price model has a lemma for each of its outcomes, and `estimate_itemised` puts them together: the
basis, both amounts and the log of the estimate of any node, in any catalog.
-/
namespace ClusterCost

/-! ## What the labels of a node say -/

/-- A node carries no label of an instance type, neither the present one nor the older one. -/
def Node.Untyped (n : Node) : Prop :=
  n.labels.get? Label.instanceType = none ∧ n.labels.get? Label.olderInstanceType = none

/-- The instance type of a node is the value of its label, or of the older label where that one is absent. -/
def Node.IsOfType (n : Node) (instanceType : String) : Prop :=
  n.labels.get? Label.instanceType = some instanceType ∨
    n.labels.get? Label.instanceType = none ∧ n.labels.get? Label.olderInstanceType = some instanceType

/-- A node is preemptible if the label of preemptible machines or that of spot machines has exactly this value. -/
def Node.Preemptible (n : Node) : Prop :=
  n.labels.get? Label.preemptible = some "true" ∨ n.labels.get? Label.spot = some "true"

instance (n : Node) : Decidable n.Preemptible :=
  inferInstanceAs (Decidable (_ ∨ _))

theorem Node.instanceType_eq_none_iff (n : Node) : n.instanceType = none ↔ n.Untyped :=
  Option.or_eq_none_iff

theorem Node.instanceType_eq_some_iff {n : Node} {instanceType : String} :
    n.instanceType = some instanceType ↔ n.IsOfType instanceType :=
  Option.or_eq_some_iff

/-- A node has at most one instance type. -/
theorem Node.IsOfType.unique {n : Node} {T T' : String} (typed : n.IsOfType T) (typed' : n.IsOfType T') : T = T' := by
  rw [← Node.instanceType_eq_some_iff] at typed typed'
  rw [typed, Option.some.injEq] at typed'
  exact typed'

theorem Node.isPreemptible_iff (n : Node) : n.isPreemptible = true ↔ n.Preemptible := by
  unfold Node.isPreemptible Node.Preemptible
  rw [Bool.or_eq_true, beq_iff_eq, beq_iff_eq]

namespace Price

/-! ## What the name of an instance type says -/

/-- The family of an instance type is what stands before its first hyphen, all of the name if it has none. -/
def IsFamily (family instanceType : String) : Prop :=
  '-' ∉ family.toList ∧
    (instanceType.toList = family.toList ∨ ∃ rest, instanceType.toList = family.toList ++ '-' :: rest)

/-- An instance type is of a custom shape if the word stands somewhere in its name. -/
def IsCustom (instanceType : String) : Prop :=
  ∃ before after, instanceType.toList = before ++ "custom".toList ++ after

theorem isCustom_iff (instanceType : String) : isCustom instanceType = true ↔ IsCustom instanceType :=
  Text.occurs_iff

instance (instanceType : String) : Decidable (IsCustom instanceType) :=
  decidable_of_iff _ (isCustom_iff instanceType)

theorem isFamily_family (instanceType : String) : IsFamily (family instanceType) instanceType := by
  unfold IsFamily family
  rw [String.toList_ofList]
  constructor
  · intro member
    have inside := Text.mem_takeWhile member
    simp at inside
  · have halves := List.takeWhile_append_dropWhile (p := (· != '-')) (l := instanceType.toList)
    have stop := Text.stop_of_dropWhile (p := (· != '-')) instanceType.toList
    cases rest_eq : instanceType.toList.dropWhile (· != '-') with
    | nil =>
      rw [rest_eq, List.append_nil] at halves
      exact .inl halves.symm
    | cons c rest =>
      rw [rest_eq] at halves stop
      have hyphen : c = '-' := by simpa using stop c rfl
      rw [hyphen] at halves
      exact .inr ⟨rest, halves.symm⟩

/-- An instance type has one family. -/
theorem isFamily_iff {prefixName instanceType : String} :
    IsFamily prefixName instanceType ↔ prefixName = family instanceType := by
  constructor
  · rintro ⟨no_hyphen, whole⟩
    have inside : ∀ c ∈ prefixName.toList, (c != '-') = true := by
      intro c member
      rw [bne_iff_ne]
      rintro rfl
      exact no_hyphen member
    have taken : instanceType.toList.takeWhile (· != '-') = prefixName.toList := by
      rcases whole with same | ⟨rest, cut⟩
      · rw [same, List.takeWhile_eq_self_iff]
        exact inside
      · rw [cut]
        apply Text.takeWhile_of_stop inside
        intro c first
        cases first
        rfl
    rw [family, taken, String.ofList_toList]
  · rintro rfl
    exact isFamily_family instanceType

/-! ## Entries and flat numbers -/

/-- A number is the entry of a table under a name, or a flat number where the table has no such entry. -/
def Gives (table : PriceTable) (name : String) (flat x : Float) : Prop :=
  table.get? name = some x ∨ table.get? name = none ∧ x = flat

theorem lookup?_single (name : String) (table : PriceTable) : lookup? name [table] = table.get? name := by
  unfold lookup?
  rw [List.findSome?_cons]
  cases table.get? name with
  | none => rfl
  | some x => rfl

theorem resolve_single (name : String) (table : PriceTable) (flat : Float) :
    resolve name [table] flat = (table.get? name).getD flat := by
  rw [resolve, lookup?_single]

theorem resolve_of_unlisted {name : String} {table : PriceTable} (flat : Float) (unlisted : table.get? name = none) :
    resolve name [table] flat = flat := by
  rw [resolve_single, unlisted, Option.getD_none]

theorem gives_resolve (name : String) (table : PriceTable) (flat : Float) :
    Gives table name flat (resolve name [table] flat) := by
  unfold Gives
  rw [resolve_single]
  cases table.get? name with
  | none => exact .inr ⟨rfl, rfl⟩
  | some x => exact .inl rfl

theorem instancePrices_eq (c : Catalog) (n : Node) : c.instancePrices n.isPreemptible =
    if n.Preemptible then c.preemptibleInstances else c.instances :=
  if_congr n.isPreemptible_iff rfl rfl

theorem gpuPrices_eq (c : Catalog) (n : Node) : c.gpuPrices n.isPreemptible =
    if n.Preemptible then c.preemptibleGpus else c.gpus :=
  if_congr n.isPreemptible_iff rfl rfl

theorem cpuPrices_eq (c : Catalog) (instanceType : String) : c.cpuPrices (isCustom instanceType) =
    if IsCustom instanceType then c.customCpu else c.predefinedCpu :=
  if_congr (isCustom_iff instanceType) rfl rfl

theorem memoryPrices_eq (c : Catalog) (instanceType : String) : c.memoryPrices (isCustom instanceType) =
    if IsCustom instanceType then c.customMemory else c.predefinedMemory :=
  if_congr (isCustom_iff instanceType) rfl rfl

theorem discounts_eq (c : Catalog) (instanceType : String) : c.discounts (isCustom instanceType) =
    if IsCustom instanceType then c.customDiscount else c.predefinedDiscount :=
  if_congr (isCustom_iff instanceType) rfl rfl

namespace Model

section Outcomes

variable {m : Model} {n : Node} {w : Billing.Window} {instanceType gpuType : String} {rate : Float} {gpus : Quantity}

/-! ## The machine -/

theorem machinePrice_of_untyped (untyped : n.instanceType = none) :
    m.machinePrice n w = { value := (.unpriced, 0.0) } := by
  unfold machinePrice
  rw [untyped]

theorem machinePrice_of_listed (typed : n.instanceType = some instanceType)
    (listed : (m.catalog.instancePrices n.isPreemptible).get? instanceType = some rate) :
    m.machinePrice n w = { value := (.instanceTable, rate * w.hours) } := by
  unfold machinePrice
  rw [typed]
  dsimp only
  rw [lookup?_single, listed]

theorem machinePrice_of_unlisted (typed : n.instanceType = some instanceType)
    (unlisted : (m.catalog.instancePrices n.isPreemptible).get? instanceType = none) :
    m.machinePrice n w =
      { value := (.perResource, m.basePrice n.capacity (some instanceType) w * m.discount n)
        warnings := [.unknownInstance n.name instanceType n.isPreemptible] } := by
  unfold machinePrice
  rw [typed]
  dsimp only
  rw [lookup?_single, unlisted]

theorem discount_of_not_preemptible (onDemand : ¬n.Preemptible) : m.discount n = 1.0 :=
  if_neg (mt n.isPreemptible_iff.mp onDemand)

theorem discount_of_preemptible (preemptible : n.Preemptible) (typed : n.instanceType = some instanceType) :
    m.discount n =
      resolve (family instanceType) [m.catalog.discounts (isCustom instanceType)] m.catalog.discount := by
  unfold discount
  rw [if_pos (n.isPreemptible_iff.mpr preemptible), typed]

/-! ## The graphics processors -/

/-- Without an amount of graphics processors their price is zero, and no rate of them is looked up. -/
theorem gpuPrice_of_absent (m : Model) (n : Node) (w : Billing.Window)
    (absent : ¬∃ q, n.capacity.get? Resource.gpu = some q ∧ q.milli ≠ 0) : m.gpuPrice n w = { value := 0.0 } := by
  unfold gpuPrice
  cases listed : n.capacity.get? Resource.gpu with
  | none => rfl
  | some q =>
    have zero : q.milli = 0 := by_contra fun nonzero => absent ⟨q, listed, nonzero⟩
    exact if_pos ((Quantity.isZero_iff q).mpr zero)

theorem gpuPrice_of_present (present : n.capacity.get? Resource.gpu = some gpus) (nonzero : gpus.milli ≠ 0) :
    m.gpuPrice n w =
      { value := Float.ofInt gpus.milli / 1000.0 * (m.gpuRate n).value * w.hours
        warnings := (m.gpuRate n).warnings } := by
  unfold gpuPrice
  rw [present]
  exact if_neg (mt (Quantity.isZero_iff gpus).mp nonzero)

theorem gpuRate_of_unlabelled (unlabelled : n.labels.get? m.gpuLabel = none) :
    m.gpuRate n = { value := m.catalog.gpuPrice } := by
  unfold gpuRate
  rw [unlabelled]

theorem gpuRate_of_listed (labelled : n.labels.get? m.gpuLabel = some gpuType)
    (listed : (m.catalog.gpuPrices n.isPreemptible).get? gpuType = some rate) : m.gpuRate n = { value := rate } := by
  unfold gpuRate
  rw [labelled]
  dsimp only
  rw [lookup?_single, listed]

theorem gpuRate_of_unlisted (labelled : n.labels.get? m.gpuLabel = some gpuType)
    (unlisted : (m.catalog.gpuPrices n.isPreemptible).get? gpuType = none) :
    m.gpuRate n =
      { value := m.catalog.gpuPrice, warnings := [.unknownGpu n.name gpuType n.isPreemptible] } := by
  unfold gpuRate
  rw [labelled]
  dsimp only
  rw [lookup?_single, unlisted]

end Outcomes

/-! ## The items of an estimate -/

/-- All outcomes for the machine: no type, a type with an entry, a type without one. -/
theorem machinePrice_cases (m : Model) (n : Node) (w : Billing.Window) :
    (n.instanceType = none ∧ m.machinePrice n w = { value := (.unpriced, 0.0) }) ∨
    (∃ instanceType rate, n.instanceType = some instanceType ∧
      (m.catalog.instancePrices n.isPreemptible).get? instanceType = some rate ∧
      m.machinePrice n w = { value := (.instanceTable, rate * w.hours) }) ∨
    (∃ instanceType, n.instanceType = some instanceType ∧
      (m.catalog.instancePrices n.isPreemptible).get? instanceType = none ∧
      m.machinePrice n w =
        { value := (.perResource, m.basePrice n.capacity (some instanceType) w * m.discount n)
          warnings := [.unknownInstance n.name instanceType n.isPreemptible] }) := by
  cases typed : n.instanceType with
  | none => exact .inl ⟨rfl, machinePrice_of_untyped typed⟩
  | some instanceType =>
    cases listed : (m.catalog.instancePrices n.isPreemptible).get? instanceType with
    | some rate => exact .inr (.inl ⟨instanceType, rate, rfl, listed, machinePrice_of_listed typed listed⟩)
    | none => exact .inr (.inr ⟨instanceType, rfl, listed, machinePrice_of_unlisted typed listed⟩)

/-- The basis of an estimate tells the three outcomes for the machine apart. -/
theorem basis_iff (m : Model) (n : Node) (w : Billing.Window) :
    let basis := (m.estimate n w).value.basis
    let table := m.catalog.instancePrices n.isPreemptible
    (basis = .unpriced ↔ n.instanceType = none) ∧
    (basis = .instanceTable ↔ ∃ T rate, n.instanceType = some T ∧ table.get? T = some rate) ∧
    (basis = .perResource ↔ ∃ T, n.instanceType = some T ∧ table.get? T = none) := by
  intro basis table
  have basis_eq : basis = (m.machinePrice n w).value.1 := rfl
  rcases machinePrice_cases m n w with
    ⟨untyped, item⟩ | ⟨T, rate, typed, listed, item⟩ | ⟨T, typed, unlisted, item⟩
  · simp [basis_eq, item, untyped]
  · simp [basis_eq, item, typed, table, listed]
  · simp [basis_eq, item, typed, table, unlisted]

/-- The factor on resource prices is one, or that of the family among machines of its shape. -/
theorem discount_spec {m : Model} {n : Node} {instanceType : String} (typed : n.instanceType = some instanceType) :
    (¬n.Preemptible → m.discount n = 1.0) ∧
    (n.Preemptible → ∃ name, IsFamily name instanceType ∧
      Gives (if IsCustom instanceType then m.catalog.customDiscount else m.catalog.predefinedDiscount) name
        m.catalog.discount (m.discount n)) := by
  refine ⟨discount_of_not_preemptible, fun preemptible => ⟨family instanceType, isFamily_iff.mpr rfl, ?_⟩⟩
  rw [discount_of_preemptible preemptible typed, ← discounts_eq]
  exact gives_resolve _ _ _

/-- The rate of graphics processors is that of the type their label names, if it has an entry, and else the flat one. -/
theorem gpuRate_spec (m : Model) (n : Node) :
    (∃ gpuType, n.labels.get? m.gpuLabel = some gpuType ∧
        Gives (m.catalog.gpuPrices n.isPreemptible) gpuType m.catalog.gpuPrice (m.gpuRate n).value) ∨
      n.labels.get? m.gpuLabel = none ∧ (m.gpuRate n).value = m.catalog.gpuPrice := by
  cases labelled : n.labels.get? m.gpuLabel with
  | none =>
    rw [gpuRate_of_unlabelled labelled]
    exact .inr ⟨rfl, rfl⟩
  | some gpuType =>
    cases listed : (m.catalog.gpuPrices n.isPreemptible).get? gpuType with
    | some rate =>
      rw [gpuRate_of_listed labelled listed]
      exact .inl ⟨gpuType, rfl, .inl listed⟩
    | none =>
      rw [gpuRate_of_unlisted labelled listed]
      exact .inl ⟨gpuType, rfl, .inr ⟨listed, rfl⟩⟩

/-- A model does not know the graphics processors of a node: their label names a type without an entry. -/
def UnknownGpu (m : Model) (n : Node) (gpuType : String) : Prop :=
  n.labels.get? m.gpuLabel = some gpuType ∧
    (if n.Preemptible then m.catalog.preemptibleGpus else m.catalog.gpus).get? gpuType = none

theorem gpuRate_of_unknown {m : Model} {n : Node} {gpuType : String} (unknown : m.UnknownGpu n gpuType) :
    m.gpuRate n =
      { value := m.catalog.gpuPrice, warnings := [.unknownGpu n.name gpuType n.isPreemptible] } := by
  unfold UnknownGpu at unknown
  rw [← gpuPrices_eq] at unknown
  exact gpuRate_of_unlisted unknown.1 unknown.2

theorem gpuRate_warnings_of_known {m : Model} {n : Node} (known : ∀ gpuType, ¬m.UnknownGpu n gpuType) :
    (m.gpuRate n).warnings = [] := by
  cases labelled : n.labels.get? m.gpuLabel with
  | none => rw [gpuRate_of_unlabelled labelled]
  | some gpuType =>
    cases listed : (m.catalog.gpuPrices n.isPreemptible).get? gpuType with
    | some rate => rw [gpuRate_of_listed labelled listed]
    | none =>
      rw [gpuPrices_eq] at listed
      exact absurd ⟨labelled, listed⟩ (known gpuType)

theorem machinePrice_warnings_of_basis_ne {m : Model} {n : Node} {w : Billing.Window}
    (priced : (m.estimate n w).value.basis ≠ .perResource) : (m.machinePrice n w).warnings = [] := by
  have basis_eq : (m.estimate n w).value.basis = (m.machinePrice n w).value.1 := rfl
  rcases machinePrice_cases m n w with ⟨-, item⟩ | ⟨T, rate, -, -, item⟩ | ⟨T, -, -, item⟩
  · rw [item]
  · rw [item]
  · rw [basis_eq, item] at priced
    exact absurd rfl priced

theorem machinePrice_warnings_of_basis_eq {m : Model} {n : Node} {w : Billing.Window} {instanceType : String}
    (typed : n.instanceType = some instanceType) (fallback : (m.estimate n w).value.basis = .perResource) :
    (m.machinePrice n w).warnings = [.unknownInstance n.name instanceType n.isPreemptible] := by
  obtain ⟨T, typed', unlisted⟩ := (basis_iff m n w).2.2.mp fallback
  rw [typed, Option.some.injEq] at typed'
  subst typed'
  rw [machinePrice_of_unlisted typed unlisted]

theorem gpuPrice_warnings_of_known {m : Model} {n : Node} (w : Billing.Window)
    (known : ¬∃ gpuType, (∃ q, n.capacity.get? Resource.gpu = some q ∧ q.milli ≠ 0) ∧ m.UnknownGpu n gpuType) :
    (m.gpuPrice n w).warnings = [] := by
  by_cases present : ∃ q, n.capacity.get? Resource.gpu = some q ∧ q.milli ≠ 0
  · obtain ⟨q, listed, nonzero⟩ := present
    rw [gpuPrice_of_present listed nonzero]
    exact gpuRate_warnings_of_known fun gpuType unknown => known ⟨gpuType, ⟨q, listed, nonzero⟩, unknown⟩
  · rw [gpuPrice_of_absent m n w present]

/-- The estimate of a node, item by item.

* A machine without a type costs nothing. One whose type has an entry in the table of its kind costs that entry for each
  hour, whatever the entry is. Any other one costs what its resources do, times a factor: one unless the node is
  preemptible, and then the entry of the family among the discounts for its shape, or else the flat discount.
* Graphics processors cost nothing where there are none, and otherwise their number times the entry of their type in the
  table of the node's kind, or else times the flat price, for each hour.
* The log is one warning about the type exactly where the machine is priced by its resources, and after it one about the
  graphics processors exactly where there are some and their label names a type without an entry. -/
theorem estimate_itemised (m : Model) (n : Node) (w : Billing.Window) :
    let c := m.catalog
    let quote := m.estimate n w
    let e := quote.value
    let instances := if n.Preemptible then c.preemptibleInstances else c.instances
    let gpuTable := if n.Preemptible then c.preemptibleGpus else c.gpus
    let someGpus := ∃ q, n.capacity.get? Resource.gpu = some q ∧ q.milli ≠ 0
    (e.hours = w.hours ∧ (e.preemptible = true ↔ n.Preemptible)) ∧
    -- The machine.
    ((e.basis = .unpriced ↔ n.Untyped) ∧ (n.Untyped → e.machine = 0.0)) ∧
    ((e.basis = .instanceTable ↔ ∃ T rate, n.IsOfType T ∧ instances.get? T = some rate) ∧
      ∀ T rate, n.IsOfType T → instances.get? T = some rate → e.machine = rate * w.hours) ∧
    ((e.basis = .perResource ↔ ∃ T, n.IsOfType T ∧ instances.get? T = none) ∧
      ∀ T, n.IsOfType T → instances.get? T = none →
        ∃ d, e.machine = m.basePrice n.capacity (some T) w * d ∧
          (¬n.Preemptible → d = 1.0) ∧
          (n.Preemptible → ∃ name, IsFamily name T ∧
            Gives (if IsCustom T then c.customDiscount else c.predefinedDiscount) name c.discount d)) ∧
    -- The graphics processors.
    (¬someGpus → e.gpu = 0.0) ∧
    (∀ q, n.capacity.get? Resource.gpu = some q → q.milli ≠ 0 →
      ∃ u, e.gpu = Float.ofInt q.milli / 1000.0 * u * w.hours ∧
        ((∃ gpuType, n.labels.get? m.gpuLabel = some gpuType ∧ Gives gpuTable gpuType c.gpuPrice u) ∨
          n.labels.get? m.gpuLabel = none ∧ u = c.gpuPrice)) ∧
    -- The log.
    ∃ machineLog gpuLog, quote.warnings.map Warning.event = machineLog ++ gpuLog ∧
      (e.basis ≠ .perResource → machineLog = []) ∧
      (∀ T, n.IsOfType T → e.basis = .perResource → machineLog = [
        ⟨.warn, "pricing information not found for instance type; falling back to per-resource pricing",
          [("node", .text n.name), ("instance_type", .text T), ("preemptible", .flag e.preemptible)]⟩]) ∧
      ((¬∃ gpuType, someGpus ∧ m.UnknownGpu n gpuType) → gpuLog = []) ∧
      ∀ gpuType, someGpus → m.UnknownGpu n gpuType → gpuLog = [
        ⟨.warn, "pricing information not found for GPU type; falling back to base GPU price",
          [("node", .text n.name), ("gpu_type", .text gpuType), ("preemptible", .flag e.preemptible)]⟩] := by
  intro c quote e instances gpuTable someGpus
  have instances_eq : instances = c.instancePrices n.isPreemptible := (instancePrices_eq c n).symm
  have gpuTable_eq : gpuTable = c.gpuPrices n.isPreemptible := (gpuPrices_eq c n).symm
  have machine_eq : e.machine = (m.machinePrice n w).value.2 := rfl
  have gpu_eq : e.gpu = (m.gpuPrice n w).value := rfl
  have typed_iff {T : String} : n.instanceType = some T ↔ n.IsOfType T := Node.instanceType_eq_some_iff
  obtain ⟨unpriced, instanceTable, perResource⟩ := basis_iff m n w
  rw [n.instanceType_eq_none_iff] at unpriced
  simp only [typed_iff] at instanceTable perResource
  have free (untyped : n.Untyped) : e.machine = 0.0 := by
    rw [machine_eq, machinePrice_of_untyped (n.instanceType_eq_none_iff.mpr untyped)]
  have by_entry (T : String) (rate : Float) (typed : n.IsOfType T)
      (listed : (c.instancePrices n.isPreemptible).get? T = some rate) : e.machine = rate * w.hours := by
    rw [machine_eq, machinePrice_of_listed (typed_iff.mpr typed) listed]
  have by_resources (T : String) (typed : n.IsOfType T)
      (unlisted : (c.instancePrices n.isPreemptible).get? T = none) :
      e.machine = m.basePrice n.capacity (some T) w * m.discount n := by
    rw [machine_eq, machinePrice_of_unlisted (typed_iff.mpr typed) unlisted]
  have gpu_free (nothing : ¬someGpus) : e.gpu = 0.0 := by
    rw [gpu_eq, gpuPrice_of_absent m n w nothing]
  have gpu_priced (q : Quantity) (present : n.capacity.get? Resource.gpu = some q) (nonzero : q.milli ≠ 0) :
      e.gpu = Float.ofInt q.milli / 1000.0 * (m.gpuRate n).value * w.hours := by
    rw [gpu_eq, gpuPrice_of_present present nonzero]
  rw [instances_eq, gpuTable_eq]
  refine ⟨⟨rfl, n.isPreemptible_iff⟩, ⟨unpriced, free⟩, ⟨instanceTable, by_entry⟩, ⟨perResource, ?_⟩, gpu_free, ?_,
    (m.machinePrice n w).warnings.map Warning.event, (m.gpuPrice n w).warnings.map Warning.event, List.map_append,
    ?_, ?_, ?_, ?_⟩
  · intro T typed unlisted
    exact ⟨m.discount n, by_resources T typed unlisted, discount_spec (typed_iff.mpr typed)⟩
  · intro q present nonzero
    exact ⟨(m.gpuRate n).value, gpu_priced q present nonzero, gpuRate_spec m n⟩
  · intro priced
    rw [machinePrice_warnings_of_basis_ne priced]
    rfl
  · intro T typed fallback
    rw [machinePrice_warnings_of_basis_eq (typed_iff.mpr typed) fallback]
    rfl
  · intro known
    rw [gpuPrice_warnings_of_known w known]
    rfl
  · rintro gpuType ⟨q, present, nonzero⟩ unknown
    rw [gpuPrice_of_present present nonzero, gpuRate_of_unknown unknown]
    rfl

end Model

end Price

end ClusterCost
