import ClusterCost.Quantity.Basic
import ClusterCost.Table

/-!
# Resources

The resources that prices and utilization are made of, by the names under which snapshots list them.
-/
namespace ClusterCost

abbrev Resources := Table Quantity

namespace Resource

/-- Processor time, in cores. -/
def cpu : String := "cpu"

/-- Memory, in bytes. -/
def memory : String := "memory"

/-- Graphics processors, in devices. -/
def gpu : String := "nvidia.com/gpu"

def gibibyte : Int := 1024 * 1024 * 1024

end Resource

/-- The amount of a resource in milli-units, nothing if it is not listed. -/
def Resources.milli (r : Resources) (resource : String) : Int :=
  match r.get? resource with
  | some q => q.milli
  | none => 0

/-- The amount of a resource in whole units, rounded up, nothing if it is not listed. -/
def Resources.units (r : Resources) (resource : String) : Int :=
  match r.get? resource with
  | some q => q.units
  | none => 0

end ClusterCost
