import ClusterCost.Proofs.Toml.Document
import ClusterCost.Settings.FromToml
import ClusterCost.Settings.ToToml

/-!
# Settings that are read back

Settings are two sections, and their lines state these sections (`states_toToml`). So the document that is written holds
the two as tables, and what is read from them are the settings that were written (`readSections_sections`). Only a blank
label can be in the way of that, and no settings that a reader has accepted have one.
-/
namespace ClusterCost.Settings

open Toml (Bare Denotes States)

/-! ## The two sections -/

def utilizationFields (u : UtilizationSettings) : List (String × Toml) := [
  ("skip_daemonset_pods", .boolean u.skipDaemonsetPods),
  ("skip_mirror_pods", .boolean u.skipMirrorPods),
  ("gpu_label", .string u.gpuLabel)]

/-- The fields on prices. A catalog that is not set is no field. -/
def pricingFields (p : PricingSettings) : List (String × Toml) :=
  (p.catalog.toList.map fun path => ("catalog", .string path)) ++ [("gpu_label", .string p.gpuLabel)]

def sections (s : Settings) : List Toml.Section :=
  [(Section.utilization.name, utilizationFields s.utilization), (Section.pricing.name, pricingFields s.pricing)]

theorem fields_nodup (s : Settings) : ∀ part ∈ s.sections, (part.2.map Prod.fst).Nodup := by
  have utilization : ((utilizationFields s.utilization).map Prod.fst).Nodup := by
    unfold utilizationFields
    simp only [List.map_cons, List.map_nil]
    decide
  have pricing : ((pricingFields s.pricing).map Prod.fst).Nodup := by
    unfold pricingFields
    cases s.pricing.catalog <;> simp
  simp only [sections, List.forall_mem_cons]
  exact ⟨utilization, pricing, nofun⟩

theorem readSections_sections (s : Settings) :
    readSections (s.sections.map fun part => (part.1, .table part.2)) = .ok s := by
  obtain ⟨utilization, catalog, gpuLabel⟩ := s
  cases catalog <;> rfl

/-! ## The lines of the sections -/

theorem states_utilizationLines (u : UtilizationSettings) :
    States (utilizationLines u) (Toml.Section.statements (Section.utilization.name, utilizationFields u)) := by
  have header := Toml.states_renderHeader (show Bare Section.utilization.name by decide)
  have daemonset := Toml.states_renderLine (show Bare "skip_daemonset_pods" by decide)
    (Toml.denotes_renderBool u.skipDaemonsetPods)
  have mirror := Toml.states_renderLine (show Bare "skip_mirror_pods" by decide)
    (Toml.denotes_renderBool u.skipMirrorPods)
  have label := Toml.states_renderLine (show Bare "gpu_label" by decide) (Toml.denotes_renderText u.gpuLabel)
  exact ((header.append daemonset).append mirror).append label

theorem states_pricingLines (p : PricingSettings) :
    States (pricingLines p) (Toml.Section.statements (Section.pricing.name, pricingFields p)) := by
  have header := Toml.states_renderHeader (show Bare Section.pricing.name by decide)
  have label := Toml.states_renderLine (show Bare "gpu_label" by decide) (Toml.denotes_renderText p.gpuLabel)
  obtain ⟨catalog, gpuLabel⟩ := p
  cases catalog with
  | none => exact (header.append .nil).append label
  | some path =>
    have catalog := Toml.states_renderLine (show Bare "catalog" by decide) (Toml.denotes_renderText path)
    exact (header.append catalog).append label

theorem states_lines (s : Settings) :
    States (utilizationLines s.utilization ++ '\n' :: pricingLines s.pricing)
      (s.sections.flatMap Toml.Section.statements) := by
  have rest := Toml.states_blank.append (states_pricingLines s.pricing)
  rw [sections, List.flatMap_cons, List.flatMap_singleton]
  exact (states_utilizationLines s.utilization).append rest

theorem parse?_toToml (s : Settings) :
    Toml.Document.parse? s.toToml = some (s.sections.map fun part => (part.1, .table part.2)) := by
  have distinct : (s.sections.map Prod.fst).Nodup := by
    change [Section.utilization.name, Section.pricing.name].Nodup
    decide
  exact Toml.parse?_sections s.states_lines rfl distinct s.fields_nodup

/-! ## Reading what was written -/

/-- What is read from written settings are these settings, if they pass the check that all settings have to pass. -/
theorem ofToml_toToml (s : Settings) : ofToml s.toToml = s.validate := by
  unfold ofToml Toml.Document.read
  rw [parse?_toToml]
  simp only
  rw [readSections_sections]

theorem validate_of_labelled {s : Settings} (utilization : Text.isAllBlank s.utilization.gpuLabel = false)
    (pricing : Text.isAllBlank s.pricing.gpuLabel = false) : s.validate = .ok s := by
  unfold validate blankLabel?
  rw [utilization, pricing]
  rfl

/-- The check gives back what it accepts. -/
theorem eq_of_validate {found s : Settings} (accepted : found.validate = .ok s) : found = s := by
  unfold validate at accepted
  split at accepted
  · cases accepted
  · exact Except.ok.inj accepted

/-- Settings that were read have passed the check. -/
theorem validate_of_ofToml {text : String} {s : Settings} (accepted : ofToml text = .ok s) : s.validate = .ok s := by
  unfold ofToml at accepted
  split at accepted
  · have same := eq_of_validate accepted
    subst same
    exact accepted
  · cases accepted

/-- Settings are read back as they were written, whatever characters their labels and their path consist of, as long as
no label is blank. So settings that were read can be written and read again. -/
theorem toToml_faithful :
    (∀ s : Settings, Text.isAllBlank s.utilization.gpuLabel = false → Text.isAllBlank s.pricing.gpuLabel = false →
      ofToml s.toToml = .ok s) ∧
    ∀ (text : String) (s : Settings), ofToml text = .ok s → ofToml s.toToml = .ok s := by
  constructor
  · intro s utilization pricing
    rw [ofToml_toToml, validate_of_labelled utilization pricing]
  · intro text s accepted
    rw [ofToml_toToml, validate_of_ofToml accepted]

/-- Settings whose texts hold both kinds of quotes, backslashes, controls and line breaks. -/
def quotedSettings : Settings where
  utilization := { gpuLabel := "it's \"a\"\\\x01\x7f\t\r\n\"\"\"\"'''" }
  pricing := { catalog := some "C:\\catalog's \"copy\"\n\n'' ü", gpuLabel := "\\x\"" }

theorem toToml_faithful_quoted :
    Text.isAllBlank quotedSettings.utilization.gpuLabel = false ∧
      Text.isAllBlank quotedSettings.pricing.gpuLabel = false ∧
      ofToml quotedSettings.toToml = .ok quotedSettings ∧
      ofToml "" = .ok {} ∧ ofToml (toToml {}) = .ok {} :=
  have utilization : Text.isAllBlank quotedSettings.utilization.gpuLabel = false := by decide
  have pricing : Text.isAllBlank quotedSettings.pricing.gpuLabel = false := by decide
  have accepted : ofToml "" = .ok {} := by decide
  ⟨utilization, pricing, toToml_faithful.1 quotedSettings utilization pricing, accepted,
    toToml_faithful.2 "" {} accepted⟩

end ClusterCost.Settings
