import ClusterCost.Settings.Basic
import ClusterCost.Toml.Record

/-!
# Settings from TOML

Every section and every field may be missing and then has its default. Settings that read well are still refused if a
label is blank.
-/
namespace ClusterCost.Settings

inductive Invalid where
  | unreadable (cause : Toml.Fault)
  | blankLabel (place : Section)
  deriving DecidableEq, Repr

def blankLabelMessage (place : Section) : String :=
  "invalid config: " ++ place.name ++ ".gpu_label must not be empty"

def readUtilization : Toml.Reader UtilizationSettings := fun v => do
  let values ← Toml.readFields ["skip_daemonset_pods", "skip_mirror_pods", "gpu_label"] v
  .ok {
    skipDaemonsetPods := ← Toml.field true Toml.readBool "skip_daemonset_pods" values
    skipMirrorPods := ← Toml.field true Toml.readBool "skip_mirror_pods" values
    gpuLabel := ← Toml.field Label.gpu Toml.readText "gpu_label" values }

def readPricing : Toml.Reader PricingSettings := fun v => do
  let values ← Toml.readFields ["catalog", "gpu_label"] v
  .ok {
    catalog := ← Toml.field none (fun v => some <$> Toml.readText v) "catalog" values
    gpuLabel := ← Toml.field Label.gpu Toml.readText "gpu_label" values }

def readSections (members : List (String × Toml)) : Except Toml.Fault Settings := do
  .ok {
    utilization := ← Toml.field {} readUtilization Section.utilization.name members
    pricing := ← Toml.field {} readPricing Section.pricing.name members }

/-- The settings themselves, if no label is blank. -/
def validate (s : Settings) : Except Invalid Settings :=
  match s.blankLabel? with
  | some place => .error (.blankLabel place)
  | none => .ok s

def ofToml (text : String) : Except Invalid Settings :=
  match Toml.Document.read readSections text with
  | .ok s => s.validate
  | .error cause => .error (.unreadable cause)

end ClusterCost.Settings
