import ClusterCost.Instant
import ClusterCost.Snapshot.Basic

/-!
# The life of a pod

Which pods belong to the machine rather than to its load, and which have been stopping for too long to count.
-/
namespace ClusterCost

namespace Annotation

/-- Marks the copy of a pod that the node itself started. -/
def mirror : String := "kubernetes.io/config.mirror"

/-- Marks a pod that counts as one of a daemon set although none owns it. -/
def daemonset : String := "cluster-autoscaler.kubernetes.io/daemonset-pod"

end Annotation

namespace Pod

def isDaemonset (p : Pod) : Bool :=
  p.owners.any (fun owner => owner.controller && owner.kind == "DaemonSet") ||
    p.annotations.get? Annotation.daemonset == some "true"

def isMirror (p : Pod) : Bool :=
  p.annotations.contains Annotation.mirror

/-- The seconds that a pod may take to stop if it does not say. -/
def defaultGracePeriod : Nat := 30

/-- The seconds after its grace period from which on a stopping pod no longer counts. -/
def overtime : Nat := 300

/-- The last instant at which a stopping pod still counts, if the pod is stopping and the clock reaches it. -/
def deadline? (p : Pod) : Option Instant := do
  let deletion ← p.deletionTime
  let grace : Nat := match p.gracePeriod with
    | some seconds => seconds.toNat
    | none => defaultGracePeriod
  let deleted ← Instant.epoch.addSeconds? deletion.toNat
  let stopped ← deleted.addSeconds? grace
  stopped.addSeconds? overtime

/-- Whether the pod has been stopping for longer than its grace period and the overtime. -/
def isLongTerminating (p : Pod) (now : Instant) : Bool :=
  match p.deadline? with
  | some deadline => deadline < now
  | none => false

end Pod

end ClusterCost
