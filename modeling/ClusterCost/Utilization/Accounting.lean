import ClusterCost.Settings.Basic
import ClusterCost.Snapshot.Lifecycle

/-!
# How pods are counted

Every pod of a node is in one of three classes: its requests are load, or they belong to the machine and reduce what is
available, or they are left out because the pod has been stopping for too long.
-/
namespace ClusterCost.Utilization

inductive Accounting where
  | counted
  | reserved
  | ignored
  deriving DecidableEq, Repr

/-- The class of a pod. A pod that belongs to the machine is reserved even if it is stopping. -/
def accounting (settings : UtilizationSettings) (now : Instant) (p : Pod) : Accounting :=
  if settings.skipDaemonsetPods && p.isDaemonset then .reserved
  else if settings.skipMirrorPods && p.isMirror then .reserved
  else if p.isLongTerminating now then .ignored
  else .counted

def requested (settings : UtilizationSettings) (now : Instant) (resource : String) (wanted : Accounting)
    (pods : List Pod) : Quantity :=
  Quantity.sum ((pods.filter fun p => accounting settings now p = wanted).map (·.request resource))

end ClusterCost.Utilization
