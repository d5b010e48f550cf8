import ClusterCost.Catalog.Bundled
import ClusterCost.Price.Model
import ClusterCost.Utilization.Assessment

/-!
# Sessions

A session follows one node through changes of its labels, its resources, its pods, the settings, the catalog and the
clock, and prices and assesses it after each. A change of a pod that is not there is refused and leaves the session
as it was.
-/
namespace ClusterCost

/-- A node with all that its price and its utilization depend on. -/
structure Session where
  info : NodeInfo
  settings : Settings := {}
  catalog : Catalog := Catalog.bundled
  now : Instant := Instant.epoch
  window : Billing.Window

namespace Session

inductive Change where
  | label (key value : String)
  | unlabel (key : String)
  | capacity (resource : String) (amount : Quantity)
  | allocatable (resource : String) (amount : Quantity)
  | addPod (p : Pod)
  | removePod (index : Nat)
  | deletePod (index : Nat) (deletionTime gracePeriod : Option UInt64)
  | settings (s : Settings)
  | catalog (c : Catalog)
  | now (t : Instant)
  | window (w : Billing.Window)

def firstHour : Billing.Window :=
  ⟨Instant.epoch, (Instant.epoch.addSeconds? 3600).getD Instant.epoch⟩

def start (name : String) : Session :=
  { info := { node := { name } }, window := firstHour }

def mapNode (f : Node → Node) (s : Session) : Session :=
  { s with info := { s.info with node := f s.info.node } }

def withPods (pods : List Pod) (s : Session) : Session :=
  { s with info := { s.info with pods } }

/-- The session after a change, unless that is about a pod that is not there. -/
def after? (s : Session) : Change → Option Session
  | .label key value => some (s.mapNode fun n => { n with labels := n.labels.insert key value })
  | .unlabel key => some (s.mapNode fun n => { n with labels := n.labels.erase key })
  | .capacity resource amount =>
    some (s.mapNode fun n => { n with capacity := n.capacity.insert resource amount })
  | .allocatable resource amount =>
    some (s.mapNode fun n => { n with allocatable := n.allocatable.insert resource amount })
  | .addPod p => some (s.withPods (s.info.pods ++ [p]))
  | .removePod index =>
    if index < s.info.pods.length then some (s.withPods (s.info.pods.eraseIdx index)) else none
  | .deletePod index deletionTime gracePeriod =>
    match s.info.pods[index]? with
    | some p => some (s.withPods (s.info.pods.set index { p with deletionTime, gracePeriod }))
    | none => none
  | .settings settings => some { s with settings }
  | .catalog catalog => some { s with catalog }
  | .now now => some { s with now }
  | .window window => some { s with window }

/-- One step of a session: what the change makes of it, or the session as it was if the change is refused. -/
def step (s : Session) (c : Change) : Session :=
  (s.after? c).getD s

def run (s : Session) (changes : List Change) : Session :=
  changes.foldl step s

def model (s : Session) : Price.Model :=
  { catalog := s.catalog, gpuLabel := s.settings.pricing.gpuLabel }

def assess (s : Session) : Utilization.Assessment :=
  Utilization.assess s.settings.utilization s.now s.info

def estimate (s : Session) : Price.Quote Price.Estimate :=
  s.model.estimate s.info.node s.window

/-- What assessing and pricing the node report, in this order. -/
def events (s : Session) : List Log.Event :=
  s.assess.notices.map Utilization.Notice.event ++ s.estimate.warnings.map Price.Warning.event

end Session

end ClusterCost
