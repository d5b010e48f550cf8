import ClusterCost.Catalog.Bundled
import ClusterCost.Catalog.FromToml
import ClusterCost.Proofs.Price.Itemised
import ClusterCost.Proofs.Table
import ClusterCost.Settings.File

/-!
# The check of a catalog, and what look-ups inherit from it

`Catalog.Sound` says field by field what the numbers of a catalog have to be: `IsPrice` for flat prices and for all
entries of price tables, `IsDiscount` for the flat discount and for all entries of discount tables. The check goes through
lists of named numbers instead; `valid_iff_sound` says that these lists leave nothing out and misfile nothing, and
`validate_eq_ok_iff` that the check accepts exactly the sound catalogs. Readers return no others.

Every look-up in a sound catalog falls back to a flat number of the same kind, so whatever it finds passes the check of
its kind (`resolve_of_every`). `validate_inherited` carries this to every unit price that a price is made of.
-/
namespace ClusterCost

namespace Catalog

/-! ## What numbers have to be -/

def IsPrice (x : Float) : Prop :=
  x.isFinite = true ∧ ¬x < 0.0

def IsDiscount (x : Float) : Prop :=
  0.0 ≤ x ∧ x ≤ 1.0

theorem admits_price_iff (x : Float) : Kind.price.admits x = true ↔ IsPrice x := by
  simp [Kind.admits, isPrice, IsPrice]

theorem admits_discount_iff (x : Float) : Kind.discount.admits x = true ↔ IsDiscount x := by
  simp [Kind.admits, isDiscount, IsDiscount]

theorem unpack_of_isNaN {x : Float} (nan : x.isNaN = true) : x.toModel.unpack = .notANumber := by
  change x.toModel.unpack.isNaN = true at nan
  cases shape : x.toModel.unpack with
  | notANumber => rfl
  | infinity s | zero s | finite s m e pos =>
    rw [shape] at nan
    cases nan

/-- What is not a number is no price, since it is not finite. -/
theorem not_isPrice_of_isNaN {x : Float} (nan : x.isNaN = true) : ¬IsPrice x := by
  rintro ⟨finite, -⟩
  change x.toModel.unpack.isFinite = true at finite
  rw [unpack_of_isNaN nan] at finite
  cases finite

/-- What is not a number is no discount factor, since it compares with none. -/
theorem not_isDiscount_of_isNaN {x : Float} (nan : x.isNaN = true) : ¬IsDiscount x := by
  rintro ⟨-, (le : x.le 1.0 = true)⟩
  have compared : x.toModel.unpack.le (1.0 : Float).toModel.unpack = true := of_decide_eq_true le
  rw [unpack_of_isNaN nan] at compared
  cases compared

/-- Every entry of a table, under any name, has a property. -/
def Every (holds : Float → Prop) (table : PriceTable) : Prop :=
  ∀ name x, table.get? name = some x → holds x

/-- A catalog in which every number is what it stands for. -/
structure Sound (c : Catalog) : Prop where
  cpuPrice : IsPrice c.cpuPrice
  memoryPrice : IsPrice c.memoryPrice
  gpuPrice : IsPrice c.gpuPrice
  discount : IsDiscount c.discount
  predefinedCpu : Every IsPrice c.predefinedCpu
  customCpu : Every IsPrice c.customCpu
  predefinedMemory : Every IsPrice c.predefinedMemory
  customMemory : Every IsPrice c.customMemory
  instances : Every IsPrice c.instances
  preemptibleInstances : Every IsPrice c.preemptibleInstances
  gpus : Every IsPrice c.gpus
  preemptibleGpus : Every IsPrice c.preemptibleGpus
  predefinedDiscount : Every IsDiscount c.predefinedDiscount
  customDiscount : Every IsDiscount c.customDiscount

/-! ## The check -/

variable {c : Catalog}

/-- The check finds nothing exactly if all numbers are what they stand for. -/
theorem invalid?_eq_none_iff : c.invalid? = none ↔ ∀ n ∈ c.numbers, n.2.1.admits n.2.2 = true := by
  unfold invalid?
  rw [List.findSome?_eq_none_iff]
  simp

/-- What the check finds is a number of the catalog that is not what it stands for, under its name. -/
theorem mem_numbers_of_invalid? {e : Invalid} (found : c.invalid? = some e) :
    (e.name, e.kind, e.value) ∈ c.numbers ∧ e.kind.admits e.value = false := by
  obtain ⟨⟨name, kind, value⟩, member, failed⟩ := List.exists_of_findSome?_eq_some found
  dsimp only at failed
  split at failed
  · cases failed
  · next refused =>
    cases failed
    exact ⟨member, Bool.eq_false_iff.mpr refused⟩

/-- The list of the check holds the flat numbers and the entries of the tables. -/
theorem invalid?_eq_none_iff_valid : c.invalid? = none ↔ c.Valid := by
  rw [invalid?_eq_none_iff]
  unfold numbers
  constructor
  · intro all
    refine ⟨fun n member => all n (List.mem_append_left _ member), fun table member entry inside => ?_⟩
    refine all (table.1 ++ "." ++ entry.1, table.2.1, entry.2) (List.mem_append_right _ ?_)
    exact List.mem_flatMap.mpr ⟨table, member, List.mem_map.mpr ⟨entry, inside, rfl⟩⟩
  · rintro ⟨flat, tables⟩ n member
    rcases List.mem_append.mp member with listed | listed
    · exact flat n listed
    · obtain ⟨table, among, inside⟩ := List.mem_flatMap.mp listed
      obtain ⟨entry, within, rfl⟩ := List.mem_map.mp inside
      exact tables table among entry within

/-- The lists of the check name every field once, and under the kind that it is of. -/
theorem valid_iff_sound : c.Valid ↔ c.Sound := by
  have every_price (table : PriceTable) :
      (∀ entry ∈ table.entries, Kind.price.admits entry.2 = true) ↔ Every IsPrice table := by
    simp only [admits_price_iff]
    exact Table.forall_entries_iff IsPrice
  have every_discount (table : PriceTable) :
      (∀ entry ∈ table.entries, Kind.discount.admits entry.2 = true) ↔ Every IsDiscount table := by
    simp only [admits_discount_iff]
    exact Table.forall_entries_iff IsDiscount
  constructor
  · rintro ⟨flat, tables⟩
    simp only [flatNumbers, List.forall_mem_cons, admits_price_iff, admits_discount_iff] at flat
    simp only [Catalog.tables, List.forall_mem_cons, every_price, every_discount] at tables
    obtain ⟨cpuPrice, memoryPrice, gpuPrice, discount, -⟩ := flat
    obtain ⟨predefinedCpu, customCpu, predefinedMemory, customMemory, instances, preemptibleInstances, gpus,
      preemptibleGpus, predefinedDiscount, customDiscount, -⟩ := tables
    exact ⟨cpuPrice, memoryPrice, gpuPrice, discount, predefinedCpu, customCpu, predefinedMemory, customMemory,
      instances, preemptibleInstances, gpus, preemptibleGpus, predefinedDiscount, customDiscount⟩
  · intro sound
    constructor
    · simp only [flatNumbers, List.forall_mem_cons, admits_price_iff, admits_discount_iff]
      exact ⟨sound.cpuPrice, sound.memoryPrice, sound.gpuPrice, sound.discount, by simp⟩
    · simp only [Catalog.tables, List.forall_mem_cons, every_price, every_discount]
      exact ⟨sound.predefinedCpu, sound.customCpu, sound.predefinedMemory, sound.customMemory, sound.instances,
        sound.preemptibleInstances, sound.gpus, sound.preemptibleGpus, sound.predefinedDiscount,
        sound.customDiscount, by simp⟩

theorem validate_eq_ok_iff {c' : Catalog} : c.validate = .ok c' ↔ c' = c ∧ c.Sound := by
  rw [← valid_iff_sound, ← invalid?_eq_none_iff_valid]
  unfold validate
  cases c.invalid? with
  | some e => simp
  | none =>
    simp only [Except.ok.injEq, and_true]
    exact eq_comm

theorem invalid?_of_validate {e : Invalid} (refused : c.validate = .error e) : c.invalid? = some e := by
  unfold validate at refused
  cases found : c.invalid? with
  | some e' =>
    rw [found] at refused
    cases refused
    rfl
  | none =>
    rw [found] at refused
    cases refused

theorem validate_of_sound (sound : c.Sound) : c.validate = .ok c :=
  validate_eq_ok_iff.mpr ⟨rfl, sound⟩

/-- Reading a text ends with the check of what it holds. -/
theorem ofToml_eq_ok_iff {text : String} : ofToml text = .ok c ↔
    Toml.Document.read readMembers text = .ok c ∧ c.Sound := by
  unfold ofToml
  cases Toml.Document.read readMembers text with
  | error cause => simp
  | ok read =>
    dsimp only
    cases checked : read.validate with
    | error cause =>
      have unsound : ¬read.Sound := fun sound => by
        rw [validate_of_sound sound] at checked
        cases checked
      simp only [reduceCtorEq, Except.ok.injEq, false_iff, not_and]
      rintro rfl
      exact unsound
    | ok valid =>
      obtain ⟨rfl, sound⟩ := validate_eq_ok_iff.mp checked
      simp only [Except.ok.injEq, iff_self_and]
      rintro rfl
      exact sound

end Catalog

/-! ## Look-ups -/

namespace Price.Model

open Catalog

/-- A look-up with a flat number to fall back to finds a number of their kind. -/
theorem resolve_of_every {holds : Float → Prop} {table : PriceTable} {flat : Float} (entries : Every holds table)
    (default : holds flat) (name : String) : holds (resolve name [table] flat) := by
  rcases gives_resolve name table flat with found | ⟨-, fallback⟩
  · exact entries name _ found
  · rw [fallback]
    exact default

section Sound

variable {m : Model} (sound : m.catalog.Sound)
include sound

theorem isPrice_cpuRate (instanceType : String) : IsPrice (m.cpuRate instanceType) := by
  apply resolve_of_every _ sound.cpuPrice
  unfold Catalog.cpuPrices
  split
  · exact sound.customCpu
  · exact sound.predefinedCpu

theorem isPrice_memoryRate (instanceType : String) : IsPrice (m.memoryRate instanceType) := by
  apply resolve_of_every _ sound.memoryPrice
  unfold Catalog.memoryPrices
  split
  · exact sound.customMemory
  · exact sound.predefinedMemory

theorem every_instancePrices (preemptible : Bool) : Every IsPrice (m.catalog.instancePrices preemptible) := by
  unfold Catalog.instancePrices
  split
  · exact sound.preemptibleInstances
  · exact sound.instances

theorem every_gpuPrices (preemptible : Bool) : Every IsPrice (m.catalog.gpuPrices preemptible) := by
  unfold Catalog.gpuPrices
  split
  · exact sound.preemptibleGpus
  · exact sound.gpus

theorem isPrice_gpuRate (n : Node) : IsPrice (m.gpuRate n).value := by
  rcases gpuRate_spec m n with ⟨gpuType, -, listed | ⟨-, fallback⟩⟩ | ⟨-, fallback⟩
  · exact every_gpuPrices sound n.isPreemptible gpuType _ listed
  · rw [fallback]
    exact sound.gpuPrice
  · rw [fallback]
    exact sound.gpuPrice

theorem isDiscount_discount (n : Node) : IsDiscount (m.discount n) := by
  have one : IsDiscount 1.0 := by
    unfold IsDiscount
    decide
  unfold discount
  split
  · split
    · apply resolve_of_every _ sound.discount
      unfold Catalog.discounts
      split
      · exact sound.customDiscount
      · exact sound.predefinedDiscount
    · exact one
  · exact one

/-- A machine of a listed type is charged at a price. Any other typed one is charged for its resources. -/
theorem machine_of_sound (n : Node) (w : Billing.Window) {T : String} (typed : n.instanceType = some T) :
    (∃ rate, IsPrice rate ∧ (m.catalog.instancePrices n.isPreemptible).get? T = some rate ∧
      (m.estimate n w).value.machine = rate * w.hours) ∨
    (m.estimate n w).value.machine = m.basePrice n.capacity (some T) w * m.discount n := by
  have machine_eq : (m.estimate n w).value.machine = (m.machinePrice n w).value.2 := rfl
  cases listed : (m.catalog.instancePrices n.isPreemptible).get? T with
  | some rate =>
    have priced : IsPrice rate := every_instancePrices sound n.isPreemptible T rate listed
    exact .inl ⟨rate, priced, rfl, by rw [machine_eq, machinePrice_of_listed typed listed]⟩
  | none => exact .inr (by rw [machine_eq, machinePrice_of_unlisted typed listed])

end Sound

end Price.Model

namespace Catalog

open Price.Model in
/-- The check of a catalog is complete, and every look-up inherits it. A catalog passes exactly if each of its flat prices
and each entry of its price tables is finite and not below zero, and its flat discount and each entry of its discount
tables lies between zero and one, which nothing does that is not a number; what is named in a refusal is a number that
does not. Texts and files give no other catalogs.

With a catalog that passes, the entry of an instance type, the prices of processors and memory, and those of graphics
processors, which are all that a node, a list of resources or a container is charged at, are prices by the same check,
and the factor of a preemptible node is a discount by the same check. -/
theorem validate_inherited :
    (∀ c c' : Catalog, c.validate = .ok c' ↔ c' = c ∧ c.Sound) ∧
    (∀ x : Float, x.isNaN = true → ¬IsPrice x ∧ ¬IsDiscount x) ∧
    (∀ (c : Catalog) (e : Invalid), c.validate = .error e →
      (e.name, e.kind, e.value) ∈ c.numbers ∧ e.kind.admits e.value = false) ∧
    -- What is read.
    (∀ text c, ofToml text = .ok c → c.validate = .ok c) ∧
    (∀ content c, decodeFile ofToml content = .ok c → c.validate = .ok c) ∧
    -- What is charged.
    ∀ m : Price.Model, m.catalog.validate = .ok m.catalog → ∀ (n : Node) (w : Billing.Window),
      (∀ T, n.instanceType = some T →
        (∃ rate, IsPrice rate ∧ (m.catalog.instancePrices n.isPreemptible).get? T = some rate ∧
          (m.estimate n w).value.machine = rate * w.hours) ∨
        (m.estimate n w).value.machine = m.basePrice n.capacity (some T) w * m.discount n) ∧
      IsDiscount (m.discount n) ∧
      (∀ (r : Resources) (T : Option String),
        let cpu := m.cpuRate (T.getD "")
        let memory := m.memoryRate (T.getD "")
        IsPrice cpu ∧ IsPrice memory ∧ m.basePrice r T w =
          if r.isEmpty then 0.0
          else Float.ofInt (r.milli Resource.cpu) / 1000.0 * cpu * w.hours +
            Float.ofInt (r.units Resource.memory) / Float.ofInt Resource.gibibyte * memory * w.hours) ∧
      (IsPrice (m.gpuRate n).value ∧ ∀ q, n.capacity.get? Resource.gpu = some q → q.milli ≠ 0 →
        (m.estimate n w).value.gpu = Float.ofInt q.milli / 1000.0 * (m.gpuRate n).value * w.hours) ∧
      (IsPrice m.catalog.gpuPrice ∧ ∀ r : Resources, m.additionalPrice r w =
        if r.isEmpty then 0.0 else Float.ofInt (r.milli Resource.gpu) / 1000.0 * m.catalog.gpuPrice * w.hours) := by
  refine ⟨fun c c' => validate_eq_ok_iff, fun x nan => ⟨not_isPrice_of_isNaN nan, not_isDiscount_of_isNaN nan⟩, ?_, ?_,
    ?_, ?_⟩
  · intro c e refused
    exact mem_numbers_of_invalid? (invalid?_of_validate refused)
  · intro text c read
    exact validate_of_sound (ofToml_eq_ok_iff.mp read).2
  · intro content c decoded
    obtain ⟨text, -, read⟩ := decodeFile_eq_ok_iff.mp decoded
    exact validate_of_sound (ofToml_eq_ok_iff.mp read).2
  · intro m passed n w
    have sound : m.catalog.Sound := (validate_eq_ok_iff.mp passed).2
    refine ⟨fun T typed => machine_of_sound sound n w typed, isDiscount_discount sound n, fun r T => ?_,
      ⟨isPrice_gpuRate sound n, fun q present nonzero => ?_⟩, sound.gpuPrice, fun r => rfl⟩
    · exact ⟨isPrice_cpuRate sound _, isPrice_memoryRate sound _, rfl⟩
    · have gpu_eq : (m.estimate n w).value.gpu = (m.gpuPrice n w).value := rfl
      rw [gpu_eq, gpuPrice_of_present present nonzero]

/-- A preemptible node of a custom shape, with graphics processors of a type that the bundled catalog does not have. -/
def customNode : Node where
  name := "custom"
  labels := Table.ofEntries [
    (Label.instanceType, "n2d-custom-8-16384"), (Label.preemptible, "true"), (Label.gpu, "unlisted")]
  capacity := Table.ofEntries [
    (Resource.cpu, .ofUnits 8), (Resource.memory, .ofUnits 17179869184), (Resource.gpu, .ofUnits 1)]

/-- The bundled catalog passes the check, so all that it charges the node at are prices. -/
theorem validate_bundled :
    bundled.validate = .ok bundled ∧ (0.0 / 0.0 : Float).isNaN = true ∧ ¬IsPrice (0.0 / 0.0) ∧
      let m : Price.Model := { catalog := bundled }
      IsDiscount (m.discount customNode) ∧ IsPrice (m.cpuRate "n2d-custom-8-16384") ∧
        IsPrice (m.gpuRate customNode).value := by
  have passed : bundled.validate = .ok bundled := by
    have nothing : bundled.invalid? = none := by decide +kernel
    rw [validate, nothing]
  have nan : (0.0 / 0.0 : Float).isNaN = true := by decide
  obtain ⟨-, nans, -, -, -, charges⟩ := validate_inherited
  obtain ⟨-, discount, resources, ⟨gpu, -⟩, -⟩ :=
    charges { catalog := bundled } passed customNode ⟨Instant.epoch, Instant.epoch⟩
  exact ⟨passed, nan, (nans _ nan).1, discount, (resources ∅ (some "n2d-custom-8-16384")).1, gpu⟩

end Catalog

end ClusterCost
