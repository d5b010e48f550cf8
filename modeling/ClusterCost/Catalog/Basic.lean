import ClusterCost.Table

/-!
# Price catalogs

A catalog holds flat prices for every resource and tables of prices by instance family, by instance type and by type of
graphics processor. Tables come in pairs: for predefined and custom shapes, or for on-demand and preemptible machines.
-/
namespace ClusterCost

/-- Hourly prices, or discount factors, by name. -/
abbrev PriceTable := Table Float

/-- A price catalog. The flat prices and the flat discount stand in where a table has no entry. -/
structure Catalog where
  cpuPrice : Float := 0.0
  memoryPrice : Float := 0.0
  gpuPrice : Float := 0.0
  discount : Float := 1.0
  predefinedCpu : PriceTable := ∅
  customCpu : PriceTable := ∅
  predefinedMemory : PriceTable := ∅
  customMemory : PriceTable := ∅
  instances : PriceTable := ∅
  preemptibleInstances : PriceTable := ∅
  gpus : PriceTable := ∅
  preemptibleGpus : PriceTable := ∅
  predefinedDiscount : PriceTable := ∅
  customDiscount : PriceTable := ∅
  deriving DecidableEq

namespace Catalog

/-- Prices of a core by instance family. -/
def cpuPrices (c : Catalog) (custom : Bool) : PriceTable :=
  if custom then c.customCpu else c.predefinedCpu

/-- Prices of a gibibyte of memory by instance family. -/
def memoryPrices (c : Catalog) (custom : Bool) : PriceTable :=
  if custom then c.customMemory else c.predefinedMemory

def instancePrices (c : Catalog) (preemptible : Bool) : PriceTable :=
  if preemptible then c.preemptibleInstances else c.instances

def gpuPrices (c : Catalog) (preemptible : Bool) : PriceTable :=
  if preemptible then c.preemptibleGpus else c.gpus

/-- Discount factors of preemptible machines by instance family. -/
def discounts (c : Catalog) (custom : Bool) : PriceTable :=
  if custom then c.customDiscount else c.predefinedDiscount

end Catalog

end ClusterCost
