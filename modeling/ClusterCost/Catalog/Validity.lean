import ClusterCost.Catalog.Basic
import ClusterCost.Decimal.Layout

/-!
# Valid catalogs

Every price has to be finite and not below zero, every discount factor between zero and one. The check goes through the
catalog in a fixed order and names the first number that fails; `Catalog.Valid` says the same without an order.
-/
namespace ClusterCost.Catalog

/-- What a number of a catalog stands for. -/
inductive Kind where
  | price
  | discount
  deriving DecidableEq, Repr

/-- Whether a number is a price: finite and not below zero. -/
def isPrice (x : Float) : Bool :=
  x.isFinite && !decide (x < 0.0)

/-- Whether a number is a discount factor: between zero and one. -/
def isDiscount (x : Float) : Bool :=
  decide (0.0 ≤ x) && decide (x ≤ 1.0)

def Kind.admits : Kind → Float → Bool
  | .price, x => isPrice x
  | .discount, x => isDiscount x

/-- A number of a catalog that is not what it stands for. -/
structure Invalid where
  name : String
  kind : Kind
  value : Float
  deriving DecidableEq

def Kind.demand : Kind → String
  | .price => " must be a non-negative price, got "
  | .discount => " must be within [0, 1], got "

def Invalid.message (e : Invalid) : String :=
  "invalid price catalog: " ++ e.name ++ e.kind.demand ++ Decimal.plain.render e.value

/-- The flat numbers of a catalog, in the order of the check. -/
def flatNumbers (c : Catalog) : List (String × Kind × Float) := [
  ("base_cpu_price_per_hour", .price, c.cpuPrice),
  ("base_memory_price_per_hour_per_gib", .price, c.memoryPrice),
  ("base_gpu_price_per_hour", .price, c.gpuPrice),
  ("preemptible_discount", .discount, c.discount)]

/-- The tables of a catalog, in the order of the check. -/
def tables (c : Catalog) : List (String × Kind × PriceTable) := [
  ("predefined_cpu_prices", .price, c.predefinedCpu),
  ("custom_cpu_prices", .price, c.customCpu),
  ("predefined_memory_prices", .price, c.predefinedMemory),
  ("custom_memory_prices", .price, c.customMemory),
  ("instance_prices", .price, c.instances),
  ("preemptible_instance_prices", .price, c.preemptibleInstances),
  ("gpu_prices", .price, c.gpus),
  ("preemptible_gpu_prices", .price, c.preemptibleGpus),
  ("predefined_preemptible_discount", .discount, c.predefinedDiscount),
  ("custom_preemptible_discount", .discount, c.customDiscount)]

/-- All numbers of a catalog with the names that messages give them, in the order of the check. -/
def numbers (c : Catalog) : List (String × Kind × Float) :=
  c.flatNumbers ++ c.tables.flatMap fun (table, kind, entries) =>
    entries.entries.map fun (key, value) => (table ++ "." ++ key, kind, value)

/-- The first number that is not what it stands for, if there is one. -/
def invalid? (c : Catalog) : Option Invalid :=
  c.numbers.findSome? fun (name, kind, value) =>
    if kind.admits value then none else some { name, kind, value }

/-- The catalog itself, if all its numbers are what they stand for. -/
def validate (c : Catalog) : Except Invalid Catalog :=
  match c.invalid? with
  | some e => .error e
  | none => .ok c

/-- A catalog whose prices are prices and whose discounts are discounts, under every name of every table. -/
structure Valid (c : Catalog) : Prop where
  flat : ∀ n ∈ c.flatNumbers, n.2.1.admits n.2.2 = true
  tables : ∀ t ∈ c.tables, ∀ entry ∈ t.2.2.entries, t.2.1.admits entry.2 = true

end ClusterCost.Catalog
