import ClusterCost.Text.Numeral
import ClusterCost.Utilization.Accounting

/-!
# The utilization of one resource

The requests of the counted pods over what is left for them: the allocatable amount less the requests of the reserved
pods. Sums are kept in milli-units; only the quotient is a float.
-/
namespace ClusterCost.Utilization

inductive Fault where
  | missing (resource node : String)
  | zero (resource node : String)
  | exhausted (resource node : String) (allocatable reserved : Int)
  deriving DecidableEq, Repr

def Fault.message : Fault → String
  | .missing resource node => "failed to get " ++ resource ++ " from " ++ node
  | .zero resource node => resource ++ " is 0 at " ++ node
  | .exhausted resource node allocatable reserved =>
    resource ++ " at " ++ node ++ ": daemonset and mirror pods reserve " ++ String.ofList (Text.numeral reserved) ++
      "m of " ++ String.ofList (Text.numeral allocatable) ++ "m allocatable"

/-- A quotient of whole numbers, each of them taken as the nearest float. -/
def quotient (n d : Int) : Float :=
  Float.ofInt n / Float.ofInt d

def ratio (settings : UtilizationSettings) (now : Instant) (info : NodeInfo) (resource : String) :
    Except Fault Float :=
  match info.node.allocatable.get? resource with
  | none => .error (.missing resource info.node.name)
  | some allocatable =>
    if allocatable.isZero then .error (.zero resource info.node.name)
    else
      let reserved := requested settings now resource .reserved info.pods
      let available := allocatable - reserved
      if available.milli ≤ 0 then
        .error (.exhausted resource info.node.name allocatable.milli reserved.milli)
      else .ok (quotient (requested settings now resource .counted info.pods).milli available.milli)

end ClusterCost.Utilization
