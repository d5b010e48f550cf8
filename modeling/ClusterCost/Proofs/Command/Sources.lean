import ClusterCost.Proofs.Command.Stages
import ClusterCost.Proofs.Path

/-!
# Which catalog prices a run

Three places can name the catalog of a run: the command line, the settings, and the program itself, which brings one
along. The first of them that does decides, and a catalog that cannot be read there is an error; no other place is asked
instead. A relative path on the command line starts at the working directory, and one in the settings at the directory
of the settings file.
-/
namespace ClusterCost.Command

/-- A file as it is read from a working directory, where files are known by their absolute paths. A path without steps
leads to a directory, which has no text. -/
def readFrom (texts : String → Option String) (directory path : String) : Option String :=
  if Path.steps path = [] then none else texts (Path.join directory path)

def priceModel (files : String → Option String) (clock : Instant) (file : String) (override : Option String) :
    Except Failure Price.Model :=
  outcome (do
    let settings ← loadSettings (inMemory files clock) (some file)
    loadModel (inMemory files clock) settings override)

/-- A run that prices a node or a pod builds its price model first, and reads the snapshot afterwards. -/
theorem outcome_pricing_run {files : String → Option String} {clock : Instant} {r : Request} {file : String}
    (named : r.settings = some file) (path duration : String) (override : Option String) :
    (r.task = .nodePrice path duration override → outcome (r.run (inMemory files clock)) =
      (priceModel files clock file override).mapError .reported >>= fun model => outcome (do
        let n ← loadSnapshot (inMemory files clock) Node.ofJson path
        let w ← failing (windowOf duration)
        pure (nodeReport model n w))) ∧
      (r.task = .podPrice path duration override → outcome (r.run (inMemory files clock)) =
        (priceModel files clock file override).mapError .reported >>= fun model => outcome (do
          let p ← loadSnapshot (inMemory files clock) Pod.ofJson path
          let w ← failing (windowOf duration)
          pure (podReport model p w))) := by
  constructor
  · intro task
    simp only [Request.run, named, task, Task.run, priceModel, outcome_bind, outcome_failing, mapError_bind, bind_assoc]
  · intro task
    simp only [Request.run, named, task, Task.run, priceModel, outcome_bind, outcome_failing, mapError_bind, bind_assoc]

/-! ## The place that decides -/

/-- A relative path that stands in a file, as seen from where the file is seen: it is joined to the directory of the
file, leads on from there, and starts where the path of the file starts. -/
structure Stands (file path seen : String) : Prop where
  joined : ∃ directory, Path.parent? file = some directory ∧ seen = Path.join directory path
  leads_on : Path.steps seen = (Path.steps file).dropLast ++ Path.steps path
  starts : Path.isAbsolute seen = Path.isAbsolute file

/-- The file of the catalog, if it is not the bundled one, by the path in the settings and the path on the command
line. -/
inductive Selects (file : String) : Option String → Option String → Option String → Prop where
  | override {named : Option String} {path : String} : Selects file named (some path) (some path)
  | absolute {path : String} (absolute : Path.isAbsolute path = true) : Selects file (some path) none (some path)
  | relative {path seen : String} (relative : Path.isAbsolute path = false) (stands : Stands file path seen) :
      Selects file (some path) none (some seen)
  | bundled : Selects file none none none

/-- Settings as they stand in a file, beside those that are written there: only the catalog can be seen differently. -/
structure Anchors (file : String) (written settings : Settings) : Prop where
  rest : settings = { written with pricing := { written.pricing with catalog := settings.pricing.catalog } }
  catalog : Selects file written.pricing.catalog none settings.pricing.catalog

/-- What building a price model comes to, once the file of the catalog is known. -/
inductive Builds (files : String → Option String) (label : String) (source : Option String) :
    Except Failure Price.Model → Prop where
  | badCatalog {path : String} (named : source = some path) (bad : ∀ catalog, ¬Supplies files (some path) catalog) :
      Builds files label source (.error (.catalog path))
  | built {catalog : Catalog} (supplied : Supplies files source catalog) :
      Builds files label source (.ok { catalog, gpuLabel := label })

section Places

variable {texts files : String → Option String} {clock : Instant} {directory directory' file path : String}
  {settings : Settings} {override : Option String}

theorem steps_ne_nil_of_readFrom {text : String} (there : readFrom texts directory path = some text) :
    Path.steps path ≠ [] := by
  intro stays
  rw [readFrom, if_pos stays] at there
  cases there

/-- An absolute path leads to the same file from everywhere. -/
theorem readFrom_of_absolute (absolute : Path.isAbsolute path = true) :
    readFrom texts directory path = readFrom texts directory' path := by
  unfold readFrom
  rw [Path.join_of_absolute absolute, Path.join_of_absolute absolute]

theorem anchored_of_absolute (absolute : Path.isAbsolute path = true) : Path.anchored file path = path :=
  if_pos absolute

theorem stands_anchored (relative : Path.isAbsolute path = false) (named : Path.steps file ≠ []) :
    Stands file path (Path.anchored file path) := by
  obtain ⟨leads_on, starts⟩ := Path.steps_anchored relative named
  refine ⟨?_, leads_on, starts⟩
  unfold Path.anchored
  rw [if_neg (Bool.eq_false_iff.mp relative)]
  cases parent : Path.parent? file with
  | none => exact absurd (Path.steps_of_parent?_eq_none parent) named
  | some directory => exact ⟨directory, rfl, rfl⟩

theorem Stands.unique {seen seen' : String} (first : Stands file path seen) (second : Stands file path seen') :
    seen = seen' := by
  obtain ⟨directory, parent, rfl⟩ := first.joined
  obtain ⟨directory', parent', rfl⟩ := second.joined
  rw [Option.some.inj (parent.symm.trans parent')]

/-- In the settings of a file that can be read, one place decides. -/
theorem selects_iff {named source : Option String} (there : Path.steps file ≠ []) :
    Selects file named override source ↔ source = override.or (named.map (Path.anchored file)) := by
  constructor
  · intro selects
    cases selects with
    | override => rfl
    | absolute absolute => exact congrArg some (anchored_of_absolute absolute).symm
    | relative relative stands => exact congrArg some (stands.unique (stands_anchored relative there))
    | bundled => rfl
  · intro source_eq
    subst source_eq
    cases override with
    | some path => exact .override
    | none =>
      cases named with
      | none => exact .bundled
      | some path =>
        cases start : Path.isAbsolute path with
        | true =>
          have seen : Path.anchored file path = path := anchored_of_absolute start
          simpa [seen] using Selects.absolute start
        | false => exact .relative start (stands_anchored start there)

theorem anchors_anchored (there : Path.steps file ≠ []) : Anchors file settings (settings.anchored file) :=
  ⟨rfl, (selects_iff there).mpr rfl⟩

/-- The path in the settings of a file with an absolute path is absolute. -/
theorem Selects.isAbsolute {named : Option String} (selects : Selects file named override (some path))
    (file_absolute : Path.isAbsolute file = true)
    (override_absolute : ∀ path, override = some path → Path.isAbsolute path = true) : Path.isAbsolute path = true := by
  cases selects with
  | override => exact override_absolute path rfl
  | absolute absolute => exact absolute
  | relative relative stands => rw [stands.starts, file_absolute]

/-! ## The model that is built -/

theorem outcome_loadModel (o : Except Failure Price.Model) :
    outcome (loadModel (inMemory files clock) settings override) = o ↔
      Builds files settings.pricing.gpuLabel (catalogPath settings override) o := by
  unfold loadModel
  cases o with
  | ok model =>
    simp only [outcome_bind, bind_eq_ok, outcome_loadCatalog_eq_ok, outcome_pure, Except.ok.injEq]
    constructor
    · rintro ⟨catalog, supplied, rfl⟩
      exact .built supplied
    · intro builds
      cases builds with
      | built supplied => exact ⟨_, supplied, rfl⟩
  | error cause =>
    simp only [outcome_bind, bind_eq_error, outcome_loadCatalog_eq_error, outcome_pure, reduceCtorEq, and_false,
      exists_false, or_false]
    constructor
    · rintro ⟨path, named, rfl, bad⟩
      exact .badCatalog named bad
    · intro builds
      cases builds with
      | badCatalog named bad => exact ⟨_, named, rfl, bad⟩

theorem priceModel_of_configures (configured : Configures files (some file) settings) (o : Except Failure Price.Model) :
    priceModel files clock file override = o ↔
      Builds files settings.pricing.gpuLabel (catalogPath settings override) o := by
  rw [priceModel, outcome_bind, outcome_loadSettings_eq_ok.mpr configured]
  exact outcome_loadModel o

/-- What is built depends on the one file only that decides. -/
theorem Builds.congr {files' : String → Option String} {label : String} {source : Option String}
    {o : Except Failure Price.Model} (same : ∀ path, source = some path → files path = files' path)
    (builds : Builds files label source o) : Builds files' label source o := by
  have supplies_iff (catalog : Catalog) : Supplies files source catalog ↔ Supplies files' source catalog := by
    cases source with
    | none => exact ⟨fun | .bundled => .bundled, fun | .bundled => .bundled⟩
    | some path => rw [supplies_file_iff, supplies_file_iff, same path rfl]
  cases builds with
  | badCatalog named bad =>
    subst named
    exact .badCatalog rfl fun catalog => mt (supplies_iff catalog).mpr (bad catalog)
  | built supplied => exact .built ((supplies_iff _).mp supplied)

end Places

/-- Whatever a settings file at any path says, one place decides on the catalog: the command line if it names a file,
else the settings, seen from their file if they name a relative path, else the bundled catalog is taken. The price model
is built from that place alone, and with the label of the settings; of these only a relative path of the catalog is read
differently from how it is written. Where the settings file is named by an absolute path, and the file on the command
line as well if there is one, the working directory has no part in it. -/
theorem priceModel_of_one_place {texts : String → Option String} {directory file text : String} {written : Settings}
    (there : readFrom texts directory file = some text) (read : Settings.ofToml text = .ok written) :
    (∃ settings, Settings.ofFile file (readFrom texts directory file) = .ok settings ∧ Anchors file written settings) ∧
      ∀ override, ∃ source,
        (∀ other, Selects file written.pricing.catalog override other ↔ other = source) ∧
        (∀ clock o, priceModel (readFrom texts directory) clock file override = o ↔
          Builds (readFrom texts directory) written.pricing.gpuLabel source o) ∧
        (Path.isAbsolute file = true → (∀ path, override = some path → Path.isAbsolute path = true) →
          ∀ directory' clock clock', priceModel (readFrom texts directory') clock' file override =
            priceModel (readFrom texts directory) clock file override) := by
  have named := steps_ne_nil_of_readFrom there
  have configured : Configures (readFrom texts directory) (some file) (written.anchored file) := .file there read
  refine ⟨⟨_, configures_file_iff.mp configured, anchors_anchored named⟩, fun override => ?_⟩
  have selected_iff (other : Option String) : Selects file written.pricing.catalog override other ↔
      other = catalogPath (written.anchored file) override := selects_iff named
  refine ⟨_, selected_iff, fun clock o => priceModel_of_configures configured o, ?_⟩
  intro file_absolute override_absolute directory' clock clock'
  have configured' : Configures (readFrom texts directory') (some file) (written.anchored file) :=
    .file ((readFrom_of_absolute file_absolute).trans there) read
  refine (priceModel_of_configures configured' _).mpr ?_
  refine Builds.congr (fun path source => ?_) ((priceModel_of_configures configured _).mp rfl)
  have selected := (selected_iff (some path)).mpr source.symm
  exact readFrom_of_absolute (selected.isAbsolute file_absolute override_absolute)

/-- Settings that name a catalog beside them, which names no price at all. -/
def unpricedTexts : String → Option String
  | "/etc/cost.toml" => some "[pricing]\ncatalog = \"prices.toml\"\n"
  | "/etc/prices.toml" => some ""
  | _ => none

/-- The catalog beside the settings is found from every directory; one that is not there on the command line is an
error. -/
theorem priceModel_unpricedTexts :
    (∀ directory clock, priceModel (readFrom unpricedTexts directory) clock "/etc/cost.toml" none =
        .ok { catalog := {}, gpuLabel := Label.gpu }) ∧
      priceModel (readFrom unpricedTexts "/home") Instant.epoch "/etc/cost.toml" (some "prices.toml") =
        .error (.catalog "prices.toml") := by
  have there (directory : String) : readFrom unpricedTexts directory "/etc/cost.toml" =
      some "[pricing]\ncatalog = \"prices.toml\"\n" := by
    have from_root : readFrom unpricedTexts "/" "/etc/cost.toml" = some "[pricing]\ncatalog = \"prices.toml\"\n" := by
      decide +kernel
    exact (readFrom_of_absolute (by decide +kernel)).trans from_root
  have read : Settings.ofToml "[pricing]\ncatalog = \"prices.toml\"\n" =
      .ok { pricing := { catalog := some "prices.toml" } } := by decide +kernel
  have no_price : Catalog.ofToml "" = .ok {} := by decide +kernel
  constructor
  · have model := (priceModel_of_one_place (there "/") read).2 none
    obtain ⟨source, selects_iff, builds_iff, anywhere⟩ := model
    have beside : Selects "/etc/cost.toml" (some "prices.toml") none (some "/etc/prices.toml") :=
      .relative (by decide +kernel) (stands_anchored (by decide +kernel) (by decide +kernel))
    intro directory clock
    rw [anywhere (by decide +kernel) nofun directory Instant.epoch clock, builds_iff, ← (selects_iff _).mp beside]
    exact .built (.file (by decide +kernel) no_price)
  · obtain ⟨source, selects_iff, builds_iff, -⟩ := (priceModel_of_one_place (there "/home") read).2 (some "prices.toml")
    rw [builds_iff, ← (selects_iff _).mp .override]
    refine .badCatalog rfl fun catalog supplied => ?_
    have absent : readFrom unpricedTexts "/home" "prices.toml" = none := by decide +kernel
    cases supplied with
    | file there => cases absent.symm.trans there

end ClusterCost.Command
