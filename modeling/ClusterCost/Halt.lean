/-!
# Halts

A step that gives no result either reports a cause, or breaks off the whole program: a sum that is formed without a
check and leaves its word is nobody's to report.
-/
namespace ClusterCost

/-- How a step ends that gives no result. -/
inductive Halt (ε : Type) where
  | reported (cause : ε)
  | aborted
  deriving DecidableEq, Repr

def Halt.map {ε ε' : Type} (f : ε → ε') : Halt ε → Halt ε'
  | .reported cause => .reported (f cause)
  | .aborted => .aborted

end ClusterCost
