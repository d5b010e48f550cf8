import ClusterCost.Snapshot.Basic
import ClusterCost.Text.Blank

/-!
# Settings

What a settings file can choose: which pods count as part of the machine, the label of the type of graphics processors,
and the price catalog. Settings with a blank label are refused.
-/
namespace ClusterCost

structure UtilizationSettings where
  skipDaemonsetPods : Bool := true
  skipMirrorPods : Bool := true
  gpuLabel : String := Label.gpu
  deriving DecidableEq, Repr

/-- How prices are found. Without a catalog the bundled one is used. -/
structure PricingSettings where
  catalog : Option String := none
  gpuLabel : String := Label.gpu
  deriving DecidableEq, Repr

structure Settings where
  utilization : UtilizationSettings := {}
  pricing : PricingSettings := {}
  deriving DecidableEq, Repr

namespace Settings

inductive Section where
  | utilization
  | pricing
  deriving DecidableEq, Repr

def Section.name : Section → String
  | .utilization => "utilization"
  | .pricing => "pricing"

/-- The first section whose label is blank, if one is. -/
def blankLabel? (s : Settings) : Option Section :=
  if Text.isAllBlank s.utilization.gpuLabel then some .utilization
  else if Text.isAllBlank s.pricing.gpuLabel then some .pricing
  else none

end Settings

end ClusterCost
