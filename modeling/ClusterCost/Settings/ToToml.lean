import ClusterCost.Settings.Basic
import ClusterCost.Toml.Spelling

/-!
# Settings as TOML

Both sections are written with all their fields, in declaration order. A catalog that is not set is left out.
-/
namespace ClusterCost.Settings

open Toml in
def utilizationLines (u : UtilizationSettings) : List Char :=
  renderHeader Section.utilization.name ++
    renderLine "skip_daemonset_pods" (renderBool u.skipDaemonsetPods) ++
    renderLine "skip_mirror_pods" (renderBool u.skipMirrorPods) ++
    renderLine "gpu_label" (renderText u.gpuLabel.toList)

open Toml in
def pricingLines (p : PricingSettings) : List Char :=
  renderHeader Section.pricing.name ++
    (match p.catalog with
      | some path => renderLine "catalog" (renderText path.toList)
      | none => []) ++
    renderLine "gpu_label" (renderText p.gpuLabel.toList)

/-- Settings as a TOML document, with an empty line between the sections. -/
def toToml (s : Settings) : String :=
  String.ofList (utilizationLines s.utilization ++ '\n' :: pricingLines s.pricing)

end ClusterCost.Settings
