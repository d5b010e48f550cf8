import ClusterCost.Catalog.Validity
import ClusterCost.Toml.Record

/-!
# Catalogs from TOML

Every price, discount and table may be missing. A catalog that reads well is still refused if one of its numbers is not
what it stands for.
-/
namespace ClusterCost.Catalog

/-- Why a text holds no catalog. -/
inductive Refusal where
  | unreadable (cause : Toml.Fault)
  | invalid (cause : Invalid)
  deriving DecidableEq

def readMembers (members : List (String × Toml)) : Except Toml.Fault Catalog := do
  let number (name : String) (default : Float) : Except Toml.Fault Float :=
    Toml.field default Toml.readFloat name members
  let table (name : String) : Except Toml.Fault PriceTable :=
    Toml.field ∅ (Toml.readTable Toml.readFloat) name members
  .ok {
    cpuPrice := ← number "base_cpu_price_per_hour" 0.0
    memoryPrice := ← number "base_memory_price_per_hour_per_gib" 0.0
    gpuPrice := ← number "base_gpu_price_per_hour" 0.0
    discount := ← number "preemptible_discount" 1.0
    predefinedCpu := ← table "predefined_cpu_prices"
    customCpu := ← table "custom_cpu_prices"
    predefinedMemory := ← table "predefined_memory_prices"
    customMemory := ← table "custom_memory_prices"
    instances := ← table "instance_prices"
    preemptibleInstances := ← table "preemptible_instance_prices"
    gpus := ← table "gpu_prices"
    preemptibleGpus := ← table "preemptible_gpu_prices"
    predefinedDiscount := ← table "predefined_preemptible_discount"
    customDiscount := ← table "custom_preemptible_discount" }

def ofToml (text : String) : Except Refusal Catalog :=
  match Toml.Document.read readMembers text with
  | .ok c =>
    match c.validate with
    | .ok valid => .ok valid
    | .error cause => .error (.invalid cause)
  | .error cause => .error (.unreadable cause)

end ClusterCost.Catalog
