import ClusterCost.Command.Run
import ClusterCost.Proofs.Command.Report
import ClusterCost.Proofs.Outcome
import ClusterCost.Proofs.Snapshot.Overflow

/-!
# The stages of a run

A run goes through stages, and what it comes to is the first failure, or the one report if there is none. `ComesTo` says
this stage by stage, with one case for each way in which a stage can fail: such a case knows that the stages before it
went well, and says nothing of those after it. `execute_all_or_nothing` says that a run over files in memory comes to
exactly that, prints the whole report or nothing, and that the catalog has no part in a utilization.
-/
namespace ClusterCost.Command

/-! ## What the files hold -/

/-- Surroundings that only answer: files in memory, and a clock that stands still. -/
def inMemory (files : String → Option String) (clock : Instant) : Surroundings Id :=
  ⟨files, clock⟩

/-- The settings of a run: the default ones, or those of the file that was named, as seen from there. -/
inductive Configures (files : String → Option String) : Option String → Settings → Prop where
  | default : Configures files none {}
  | file {path text : String} {settings : Settings} (there : files path = some text)
      (read : Settings.ofToml text = .ok settings) : Configures files (some path) (settings.anchored path)

/-- The catalog of a run: the bundled one, or that of a file. -/
inductive Supplies (files : String → Option String) : Option String → Catalog → Prop where
  | bundled : Supplies files none Catalog.bundled
  | file {path text : String} {catalog : Catalog} (there : files path = some text)
      (read : Catalog.ofToml text = .ok catalog) : Supplies files (some path) catalog

/-- What reading a snapshot comes to. It can break off, and is the one stage that can. -/
inductive Reads {α : Type} (files : String → Option String) (read : Snapshot.Reader α) (path : String) :
    Except (Halt Failure) α → Prop where
  | noFile (absent : files path = none) : Reads files read path (.error (.reported (.unreadable path)))
  | bad {text : String} {fault : Snapshot.Fault} (there : files path = some text)
      (bad : (Json.Document.parse text).read read = .error fault) (goes_on : fault ≠ .content .aborted) :
      Reads files read path (.error (.reported (.undecodable path)))
  | aborted {text : String} (there : files path = some text)
      (aborts : (Json.Document.parse text).read read = .error (.content .aborted)) :
      Reads files read path (.error .aborted)
  | recorded {text : String} {a : α} (there : files path = some text)
      (recorded : (Json.Document.parse text).read read = .ok a) : Reads files read path (.ok a)

/-! ## The stages in their order -/

/-- What pricing a snapshot comes to: the catalog comes first, then the file, the snapshot in it, and the duration. -/
inductive Prices {α : Type} (files : String → Option String) (settings : Settings) (read : Snapshot.Reader α)
    (report : Price.Model → α → Billing.Window → Report) (path duration : String) (override : Option String) :
    Except (Halt Failure) Report → Prop where
  | badCatalog {file : String} (named : catalogPath settings override = some file)
      (bad : ∀ catalog, ¬Supplies files (some file) catalog) :
      Prices files settings read report path duration override (.error (.reported (.catalog file)))
  | badSnapshot {catalog : Catalog} {halt : Halt Failure}
      (supplied : Supplies files (catalogPath settings override) catalog) (bad : Reads files read path (.error halt)) :
      Prices files settings read report path duration override (.error halt)
  | badDuration {catalog : Catalog} {a : α} {cause : Billing.InvalidDuration}
      (supplied : Supplies files (catalogPath settings override) catalog) (recorded : Reads files read path (.ok a))
      (bad : Billing.Window.ofDuration duration = .error cause) :
      Prices files settings read report path duration override (.error (.reported (.duration cause)))
  | priced {catalog : Catalog} {a : α} {w : Billing.Window}
      (supplied : Supplies files (catalogPath settings override) catalog) (recorded : Reads files read path (.ok a))
      (lasting : Billing.Window.ofDuration duration = .ok w) :
      Prices files settings read report path duration override
        (.ok (report { catalog, gpuLabel := settings.pricing.gpuLabel } a w))

/-- What assessing a node at a time comes to: the file comes first, then the snapshot in it, the time, and the
utilization. -/
inductive Assesses (files : String → Option String) (settings : Settings) (path : String) (seconds : Nat) :
    Except (Halt Failure) Report → Prop where
  | badSnapshot {halt : Halt Failure} (bad : Reads files NodeInfo.ofJson path (.error halt)) :
      Assesses files settings path seconds (.error halt)
  | badTime {info : NodeInfo} {cause : Billing.InvalidTime} (recorded : Reads files NodeInfo.ofJson path (.ok info))
      (bad : Billing.evaluationTime seconds = .error cause) :
      Assesses files settings path seconds (.error (.reported (.time cause)))
  | faulty {info : NodeInfo} {now : Instant} {cause : Utilization.Fault}
      (recorded : Reads files NodeInfo.ofJson path (.ok info)) (time : Billing.evaluationTime seconds = .ok now)
      (bad : (Utilization.assess settings.utilization now info).result = .error cause) :
      Assesses files settings path seconds (.error (.reported (.utilization cause)))
  | assessed {info : NodeInfo} {now : Instant} {u : Utilization}
      (recorded : Reads files NodeInfo.ofJson path (.ok info)) (time : Billing.evaluationTime seconds = .ok now)
      (found : (Utilization.assess settings.utilization now info).result = .ok u) :
      Assesses files settings path seconds (.ok (.utilization info.node.name info.pods.length u))

/-- What a task comes to under settings. A utilization at the present depends on the clock and is left out. -/
inductive Task.ComesTo (files : String → Option String) (settings : Settings) :
    Task → Except (Halt Failure) Report → Prop where
  | nodePrice {path duration : String} {override : Option String} {o : Except (Halt Failure) Report}
      (prices : Prices files settings Node.ofJson nodeReport path duration override o) :
      ComesTo files settings (.nodePrice path duration override) o
  | podPrice {path duration : String} {override : Option String} {o : Except (Halt Failure) Report}
      (prices : Prices files settings Pod.ofJson podReport path duration override o) :
      ComesTo files settings (.podPrice path duration override) o
  | utilization {path : String} {seconds : Nat} {o : Except (Halt Failure) Report}
      (assesses : Assesses files settings path seconds o) : ComesTo files settings (.utilization path (some seconds)) o

/-- What a request comes to: its settings come before everything else. -/
inductive Request.ComesTo (files : String → Option String) (r : Request) : Except (Halt Failure) Report → Prop where
  | badSettings {path : String} (named : r.settings = some path)
      (bad : ∀ settings, ¬Configures files (some path) settings) : ComesTo files r (.error (.reported (.settings path)))
  | task {settings : Settings} {o : Except (Halt Failure) Report} (configured : Configures files r.settings settings)
      (outcome : r.task.ComesTo files settings o) : ComesTo files r o

/-! ## One stage at a time -/

section Steps

variable {ε α β : Type} {files : String → Option String} {clock : Instant} {settings : Settings} {path : String}
  {cause : Failure}

/-- What a step over files in memory comes to. -/
def outcome (step : ExceptT ε Id α) : Except ε α :=
  step.run

theorem outcome_bind (step : ExceptT ε Id α) (next : α → ExceptT ε Id β) :
    outcome (step >>= next) = (outcome step >>= fun a => outcome (next a)) := by
  cases step with
  | ok a => rfl
  | error e => rfl

theorem outcome_failing (step : ExceptT Failure Id α) : outcome (failing step) = (outcome step).mapError .reported := by
  cases step with
  | ok a => rfl
  | error e => rfl

/-- Files in memory are read at once. -/
theorem outcome_read (next : Option String → ExceptT ε Id α) :
    outcome (do next (← (inMemory files clock).read path)) = outcome (next (files path)) :=
  rfl

theorem outcome_loadSettings_file : outcome (loadSettings (inMemory files clock) (some path)) =
    (Settings.ofFile path (files path)).mapError fun _ => Failure.settings path := by
  rw [loadSettings]
  refine (outcome_read _).trans ?_
  cases Settings.ofFile path (files path) with
  | ok settings => rfl
  | error fault => rfl

theorem configures_file_iff :
    Configures files (some path) settings ↔ Settings.ofFile path (files path) = .ok settings := by
  unfold Settings.ofFile
  rw [map_eq_ok]
  constructor
  · intro configured
    cases configured with
    | file there read => exact ⟨_, decodeFile_eq_ok_iff.mpr ⟨_, there, read⟩, rfl⟩
  · rintro ⟨found, decoded, rfl⟩
    obtain ⟨text, there, read⟩ := decodeFile_eq_ok_iff.mp decoded
    exact .file there read

theorem outcome_loadSettings_eq_ok {source : Option String} :
    outcome (loadSettings (inMemory files clock) source) = .ok settings ↔ Configures files source settings := by
  cases source with
  | none =>
    constructor
    · intro found
      cases found
      exact .default
    · intro configured
      cases configured
      rfl
  | some path => rw [outcome_loadSettings_file, mapError_eq_ok, configures_file_iff]

theorem outcome_loadSettings_eq_error {source : Option String} :
    outcome (loadSettings (inMemory files clock) source) = .error cause ↔
      ∃ path, source = some path ∧ cause = .settings path ∧ ∀ settings, ¬Configures files (some path) settings := by
  cases source with
  | none =>
    constructor
    · intro failed
      cases failed
    · rintro ⟨path, named, -⟩
      cases named
  | some path =>
    simp only [outcome_loadSettings_file, mapError_const_eq_error, configures_file_iff, Option.some.injEq,
      exists_eq_left']

theorem outcome_loadCatalog_file : outcome (loadCatalog (inMemory files clock) (some path)) =
    (decodeFile Catalog.ofToml (files path)).mapError fun _ => Failure.catalog path := by
  rw [loadCatalog]
  refine (outcome_read _).trans ?_
  cases decodeFile Catalog.ofToml (files path) with
  | ok catalog => rfl
  | error fault => rfl

theorem supplies_file_iff {catalog : Catalog} :
    Supplies files (some path) catalog ↔ decodeFile Catalog.ofToml (files path) = .ok catalog := by
  rw [decodeFile_eq_ok_iff]
  constructor
  · intro supplied
    cases supplied with
    | file there read => exact ⟨_, there, read⟩
  · rintro ⟨text, there, read⟩
    exact .file there read

theorem outcome_loadCatalog_eq_ok {source : Option String} {catalog : Catalog} :
    outcome (loadCatalog (inMemory files clock) source) = .ok catalog ↔ Supplies files source catalog := by
  cases source with
  | none =>
    constructor
    · intro found
      cases found
      exact .bundled
    · intro supplied
      cases supplied
      rfl
  | some path => rw [outcome_loadCatalog_file, mapError_eq_ok, supplies_file_iff]

theorem outcome_loadCatalog_eq_error {source : Option String} :
    outcome (loadCatalog (inMemory files clock) source) = .error cause ↔
      ∃ path, source = some path ∧ cause = .catalog path ∧ ∀ catalog, ¬Supplies files (some path) catalog := by
  cases source with
  | none =>
    constructor
    · intro failed
      cases failed
    · rintro ⟨path, named, -⟩
      cases named
  | some path =>
    simp only [outcome_loadCatalog_file, mapError_const_eq_error, supplies_file_iff, Option.some.injEq,
      exists_eq_left']

theorem outcome_loadSnapshot {read : Snapshot.Reader α} : outcome (loadSnapshot (inMemory files clock) read path) =
    match files path with
    | none => .error (.reported (.unreadable path))
    | some text => ((Json.Document.parse text).read read).mapError (haltOf path) := by
  rw [loadSnapshot]
  refine (outcome_read _).trans ?_
  cases files path with
  | none => rfl
  | some text =>
    dsimp only
    cases (Json.Document.parse text).read read with
    | ok a => rfl
    | error fault => rfl

theorem haltOf_eq (path : String) (fault : Snapshot.Fault) :
    haltOf path fault = if fault = .content .aborted then .aborted else .reported (.undecodable path) := by
  unfold haltOf
  split <;> simp_all

theorem outcome_loadSnapshot_iff {read : Snapshot.Reader α} (o : Except (Halt Failure) α) :
    outcome (loadSnapshot (inMemory files clock) read path) = o ↔ Reads files read path o := by
  rw [outcome_loadSnapshot]
  constructor
  · rintro rfl
    cases there : files path with
    | none => exact .noFile there
    | some text =>
      dsimp only
      cases found : (Json.Document.parse text).read read with
      | ok a => exact .recorded there found
      | error fault =>
        rw [Except.mapError, haltOf_eq]
        split
        · next aborts => exact .aborted there (aborts ▸ found)
        · next goes_on => exact .bad there found goes_on
  · intro reads
    cases reads with
    | noFile absent => rw [absent]
    | bad there bad goes_on =>
      rw [there]
      dsimp only
      rw [bad, Except.mapError, haltOf_eq, if_neg goes_on]
    | aborted there aborts =>
      rw [there]
      dsimp only
      rw [aborts]
      rfl
    | recorded there recorded =>
      rw [there]
      dsimp only
      rw [recorded]
      rfl

theorem outcome_windowOf {duration : String} :
    outcome (windowOf duration) = (Billing.Window.ofDuration duration).mapError .duration := by
  unfold windowOf
  cases Billing.Window.ofDuration duration with
  | ok w => rfl
  | error cause => rfl

theorem outcome_timeOf {seconds : Nat} :
    outcome (timeOf (inMemory files clock) (some seconds)) = (Billing.evaluationTime seconds).mapError .time := by
  rw [timeOf]
  cases Billing.evaluationTime seconds with
  | ok t => rfl
  | error cause => rfl

theorem outcome_pure (a : α) : outcome (pure a : ExceptT ε Id α) = .ok a :=
  rfl

end Steps

/-! ## All stages -/

section Runs

variable {α : Type} {files : String → Option String} {clock : Instant} {settings : Settings} {read : Snapshot.Reader α}
  {report : Price.Model → α → Billing.Window → Report} {path duration : String} {override : Option String}

/-- The commands that price something differ in what they read and in their report only. -/
theorem outcome_pricing (o : Except (Halt Failure) Report) :
    outcome (do
      let model ← failing (loadModel (inMemory files clock) settings override)
      let a ← loadSnapshot (inMemory files clock) read path
      let w ← failing (windowOf duration)
      pure (report model a w)) = o ↔ Prices files settings read report path duration override o := by
  unfold loadModel
  cases o with
  | ok r =>
    simp only [outcome_bind, outcome_failing, bind_eq_ok, mapError_eq_ok, outcome_loadCatalog_eq_ok,
      outcome_loadSnapshot_iff, outcome_windowOf, outcome_pure, Except.ok.injEq]
    constructor
    · rintro ⟨_, ⟨catalog, supplied, rfl⟩, a, recorded, w, lasting, rfl⟩
      exact .priced supplied recorded lasting
    · intro prices
      cases prices with
      | priced supplied recorded lasting => exact ⟨_, ⟨_, supplied, rfl⟩, _, recorded, _, lasting, rfl⟩
  | error halt =>
    simp only [outcome_bind, outcome_failing, bind_eq_ok, bind_eq_error, mapError_eq_ok, mapError_eq_error,
      outcome_loadCatalog_eq_ok, outcome_loadCatalog_eq_error, outcome_loadSnapshot_iff, outcome_windowOf, outcome_pure,
      Except.ok.injEq, reduceCtorEq, and_false, exists_false, or_false]
    constructor
    · rintro (⟨_, ⟨file, named, rfl, bad⟩, rfl⟩ | ⟨_, ⟨catalog, supplied, rfl⟩, failed⟩)
      · exact .badCatalog named bad
      · rcases failed with bad | ⟨a, recorded, _, ⟨cause, bad, rfl⟩, rfl⟩
        · exact .badSnapshot supplied bad
        · exact .badDuration supplied recorded bad
    · intro prices
      cases prices with
      | badCatalog named bad => exact .inl ⟨_, ⟨_, named, rfl, bad⟩, rfl⟩
      | badSnapshot supplied bad => exact .inr ⟨_, ⟨_, supplied, rfl⟩, .inl bad⟩
      | badDuration supplied recorded bad =>
        exact .inr ⟨_, ⟨_, supplied, rfl⟩, .inr ⟨_, recorded, _, ⟨_, bad, rfl⟩, rfl⟩⟩

theorem outcome_assessing {seconds : Nat} (o : Except (Halt Failure) Report) :
    outcome (Task.run (inMemory files clock) settings (.utilization path (some seconds))) = o ↔
      Assesses files settings path seconds o := by
  have steps : outcome (Task.run (inMemory files clock) settings (.utilization path (some seconds))) = (do
      let info ← outcome (loadSnapshot (inMemory files clock) NodeInfo.ofJson path)
      let now ← outcome (failing (timeOf (inMemory files clock) (some seconds)))
      (utilizationReport settings now info).mapError fun cause => .reported (.utilization cause)) := by
    unfold Task.run
    simp only [outcome_bind]
    congr 1
    funext info
    congr 1
    funext now
    cases utilizationReport settings now info with
    | ok report => rfl
    | error cause => rfl
  unfold utilizationReport at steps
  rw [steps]
  cases o with
  | ok report =>
    simp only [bind_eq_ok, outcome_loadSnapshot_iff, outcome_failing, outcome_timeOf, mapError_eq_ok, map_eq_ok]
    constructor
    · rintro ⟨info, recorded, now, time, u, found, rfl⟩
      exact .assessed recorded time found
    · intro assesses
      cases assesses with
      | assessed recorded time found => exact ⟨_, recorded, _, time, _, found, rfl⟩
  | error halt =>
    simp only [bind_eq_error, outcome_loadSnapshot_iff, outcome_failing, outcome_timeOf, mapError_eq_ok,
      mapError_eq_error, map_eq_error]
    constructor
    · rintro (bad | ⟨info, recorded, failed⟩)
      · exact .badSnapshot bad
      · rcases failed with ⟨_, ⟨cause, bad, rfl⟩, rfl⟩ | ⟨now, time, cause, bad, rfl⟩
        · exact .badTime recorded bad
        · exact .faulty recorded time bad
    · intro assesses
      cases assesses with
      | badSnapshot bad => exact .inl bad
      | badTime recorded bad => exact .inr ⟨_, recorded, .inl ⟨_, ⟨_, bad, rfl⟩, rfl⟩⟩
      | faulty recorded time bad => exact .inr ⟨_, recorded, .inr ⟨_, time, _, bad, rfl⟩⟩

theorem outcome_task {task : Task} (timed : ∀ path, task ≠ .utilization path none)
    (o : Except (Halt Failure) Report) :
    outcome (task.run (inMemory files clock) settings) = o ↔ task.ComesTo files settings o := by
  cases task with
  | nodePrice path duration override =>
    refine (outcome_pricing o).trans ⟨.nodePrice, fun comes => ?_⟩
    cases comes with
    | nodePrice prices => exact prices
  | podPrice path duration override =>
    refine (outcome_pricing o).trans ⟨.podPrice, fun comes => ?_⟩
    cases comes with
    | podPrice prices => exact prices
  | utilization path now =>
    cases now with
    | none => exact absurd rfl (timed path)
    | some seconds =>
      refine (outcome_assessing o).trans ⟨.utilization, fun comes => ?_⟩
      cases comes with
      | utilization assesses => exact assesses

/-- A run of a request comes to what its stages come to. -/
theorem outcome_request {r : Request} (timed : ∀ path, r.task ≠ .utilization path none)
    (o : Except (Halt Failure) Report) :
    outcome (r.run (inMemory files clock)) = o ↔ r.ComesTo files o := by
  unfold Request.run
  cases o with
  | ok report =>
    simp only [outcome_bind, outcome_failing, bind_eq_ok, mapError_eq_ok, outcome_loadSettings_eq_ok, outcome_task timed]
    constructor
    · rintro ⟨settings, configured, comes⟩
      exact .task configured comes
    · intro comes
      cases comes with
      | task configured comes => exact ⟨_, configured, comes⟩
  | error halt =>
    simp only [outcome_bind, outcome_failing, bind_eq_error, mapError_eq_ok, mapError_eq_error,
      outcome_loadSettings_eq_ok, outcome_loadSettings_eq_error, outcome_task timed]
    constructor
    · rintro (⟨_, ⟨path, named, rfl, bad⟩, rfl⟩ | ⟨settings, configured, comes⟩)
      · exact .badSettings named bad
      · exact .task configured comes
    · intro comes
      cases comes with
      | badSettings named bad => exact .inl ⟨_, ⟨_, named, rfl, bad⟩, rfl⟩
      | task configured comes => exact .inr ⟨_, configured, comes⟩

end Runs

/-! ## How a run ends -/

def endingOf (files : String → Option String) (clock : Instant) (arguments : List String) : Ending :=
  Id.run (execute (inMemory files clock) arguments)

/-- The settings of a run have this section on utilization. -/
def Counts (files : String → Option String) (source : Option String) (u : UtilizationSettings) : Prop :=
  ∃ settings, Configures files source settings ∧ settings.utilization = u

section Endings

variable {files files' : String → Option String} {arguments : List String} {r : Request}

theorem endingOf_accepted (accepted : Request.ofArguments arguments = .ok r) (clock : Instant) :
    endingOf files clock arguments = .of r.format (outcome (r.run (inMemory files clock))) := by
  unfold endingOf execute
  rw [accepted]
  rfl

theorem Reads.congr {α : Type} {read : Snapshot.Reader α} {path : String} {o : Except (Halt Failure) α}
    (file_eq : files' path = files path) (reads : Reads files read path o) : Reads files' read path o := by
  cases reads with
  | noFile absent => exact .noFile (file_eq.trans absent)
  | bad there bad goes_on => exact .bad (file_eq.trans there) bad goes_on
  | aborted there aborts => exact .aborted (file_eq.trans there) aborts
  | recorded there recorded => exact .recorded (file_eq.trans there) recorded

theorem Assesses.congr {settings settings' : Settings} {path : String} {seconds : Nat}
    {o : Except (Halt Failure) Report} (section_eq : settings'.utilization = settings.utilization)
    (file_eq : files' path = files path) (assesses : Assesses files settings path seconds o) :
    Assesses files' settings' path seconds o := by
  cases assesses with
  | badSnapshot bad => exact .badSnapshot (bad.congr file_eq)
  | badTime recorded bad => exact .badTime (recorded.congr file_eq) bad
  | faulty recorded time bad => exact .faulty (recorded.congr file_eq) time (section_eq ▸ bad)
  | assessed recorded time found => exact .assessed (recorded.congr file_eq) time (section_eq ▸ found)

/-- A utilization comes to the same over other files, if the snapshot and the section on utilization are the same. -/
theorem Request.ComesTo.congr {path : String} {now : Option Nat} {o : Except (Halt Failure) Report}
    (utilization : r.task = .utilization path now) (file_eq : files' path = files path)
    (counts_iff : ∀ u, Counts files r.settings u ↔ Counts files' r.settings u) (comes : r.ComesTo files o) :
    r.ComesTo files' o := by
  cases comes with
  | badSettings named bad =>
    refine .badSettings named fun settings' configured' => ?_
    obtain ⟨settings, configured, -⟩ := (counts_iff _).mpr ⟨settings', named ▸ configured', rfl⟩
    exact bad settings (named ▸ configured)
  | @task settings _ configured outcome =>
    obtain ⟨settings', configured', section_eq⟩ := (counts_iff _).mp ⟨settings, configured, rfl⟩
    refine .task configured' ?_
    rw [utilization] at outcome ⊢
    cases outcome with
    | utilization assesses => exact .utilization (assesses.congr section_eq file_eq)

def Task.snapshot : Task → String
  | .nodePrice path _ _ => path
  | .podPrice path _ _ => path
  | .utilization path _ => path

theorem Reads.overflows {α : Type} {read : Snapshot.Reader α} {path : String} (stops : StopsAtOverflow read)
    (aborted : Reads files read path (.error .aborted)) :
    ∃ text, files path = some text ∧ Snapshot.Overflows (Json.Document.parse text).root := by
  cases aborted with
  | aborted there aborts => exact ⟨_, there, stops.document aborts⟩

/-- A run breaks off over nothing but its snapshot, and that holds a quantity whose sum leaves its word. -/
theorem Request.ComesTo.overflows (aborted : r.ComesTo files (.error .aborted)) :
    ∃ text, files r.task.snapshot = some text ∧ Snapshot.Overflows (Json.Document.parse text).root := by
  cases aborted with
  | task configured aborted =>
    generalize r.task = task at aborted
    cases aborted with
    | nodePrice prices =>
      cases prices with
      | badSnapshot supplied bad => exact bad.overflows stopsAtOverflow_node
    | podPrice prices =>
      cases prices with
      | badSnapshot supplied bad => exact bad.overflows stopsAtOverflow_pod
    | utilization assesses =>
      cases assesses with
      | badSnapshot bad => exact bad.overflows stopsAtOverflow_nodeInfo

/-- A run that prices, or assesses at a given time, ends in one of three ways: it prints the whole report of its stages
and succeeds; it prints nothing and fails with the first of their failures; or it prints nothing and breaks off, over a
quantity in its snapshot whose sum leaves its word. The ending of a utilization depends on the file of the snapshot and
on the section on utilization only, and so on no catalog and on no choice of one. -/
theorem execute_all_or_nothing (accepted : Request.ofArguments arguments = .ok r)
    (timed : ∀ path, r.task ≠ .utilization path none) (files : String → Option String) (clock : Instant) :
    let ending := endingOf files clock arguments
    ((∃ report, (∀ o, r.ComesTo files o ↔ o = .ok report) ∧ ending.status = 0 ∧
        ending.output = report.render r.format ∧ report.Shows r.format ending.output) ∨
      (∃ cause, (∀ o, r.ComesTo files o ↔ o = .error (.reported cause)) ∧ ending = .failed cause ∧ ending.status = 1 ∧
        ending.output = "") ∨
      ((∀ o, r.ComesTo files o ↔ o = .error .aborted) ∧ ending = .aborted ∧ ending.status = 101 ∧ ending.output = "" ∧
        ∃ text, files r.task.snapshot = some text ∧ Snapshot.Overflows (Json.Document.parse text).root)) ∧
    ∀ path now files' clock', r.task = .utilization path now → files' path = files path →
      (∀ u, Counts files r.settings u ↔ Counts files' r.settings u) → endingOf files' clock' arguments = ending := by
  intro ending
  have ending_eq : ending = .of r.format (outcome (r.run (inMemory files clock))) := endingOf_accepted accepted clock
  constructor
  · have comes_iff (o : Except (Halt Failure) Report) :
        r.ComesTo files o ↔ o = outcome (r.run (inMemory files clock)) := by
      rw [eq_comm]
      exact (outcome_request timed o).symm
    rw [ending_eq]
    cases run : outcome (r.run (inMemory files clock)) with
    | ok report =>
      rw [run] at comes_iff
      exact .inl ⟨report, comes_iff, rfl, rfl, report.render_shows r.format⟩
    | error halt =>
      rw [run] at comes_iff
      cases halt with
      | reported cause => exact .inr (.inl ⟨cause, comes_iff, rfl, rfl, rfl⟩)
      | aborted => exact .inr (.inr ⟨comes_iff, rfl, rfl, rfl, ((comes_iff _).mpr rfl).overflows⟩)
  · intro path now files' clock' utilization file_eq counts_iff
    have comes : r.ComesTo files (outcome (r.run (inMemory files clock))) := (outcome_request timed _).mp rfl
    have run_eq : outcome (r.run (inMemory files' clock')) = outcome (r.run (inMemory files clock)) :=
      (outcome_request timed _).mpr (comes.congr utilization file_eq counts_iff)
    rw [ending_eq, endingOf_accepted accepted, run_eq]

end Endings

/-- Files of which only the settings can be read: the catalog that they choose is no catalog, and the snapshot ends
within an object. -/
def brokenFiles : String → Option String
  | "cost.toml" => some "[pricing]\ncatalog = \"prices.toml\"\n"
  | "prices.toml" => some "discount"
  | "node.json" => some "\x7b"
  | _ => none

/-- The same files, but that the settings choose no catalog. -/
def unpricedFiles : String → Option String
  | "cost.toml" => some ""
  | other => brokenFiles other

/-- Three stages are broken, and the first of them is reported; a utilization fails alike with and without the broken
catalog. -/
theorem endingOf_brokenFiles :
    let pricing := ["--config", "cost.toml", "node-price", "--node", "node.json", "--duration", "soon"]
    let assessing := ["--config", "cost.toml", "utilization", "--node-info", "node.json", "--now", "60"]
    Request.ofArguments pricing =
        .ok { settings := some "cost.toml", task := .nodePrice "node.json" "soon" none } ∧
      Request.ofArguments assessing =
        .ok { settings := some "cost.toml", task := .utilization "node.json" (some 60) } ∧
      endingOf brokenFiles Instant.epoch pricing = .failed (.catalog "prices.toml") ∧
      endingOf unpricedFiles Instant.epoch assessing = endingOf brokenFiles Instant.epoch assessing := by
  intro pricing assessing
  have pricing_accepted : Request.ofArguments pricing =
      .ok { settings := some "cost.toml", task := .nodePrice "node.json" "soon" none } := by rfl
  have assessing_accepted : Request.ofArguments assessing =
      .ok { settings := some "cost.toml", task := .utilization "node.json" (some 60) } := by rfl
  have settings_read : Settings.ofFile "cost.toml" (brokenFiles "cost.toml") =
      .ok { pricing := { catalog := some "prices.toml" } } := by decide +kernel
  have settings_read' : Settings.ofFile "cost.toml" (unpricedFiles "cost.toml") = .ok {} := by decide +kernel
  have configured := configures_file_iff.mpr settings_read
  have no_catalog (catalog : Catalog) : ¬Supplies brokenFiles (some "prices.toml") catalog := by
    intro supplied
    have refused : (decodeFile Catalog.ofToml (brokenFiles "prices.toml")).isOk = false := by decide +kernel
    rw [supplies_file_iff.mp supplied] at refused
    cases refused
  refine ⟨pricing_accepted, assessing_accepted, ?_, ?_⟩
  · have comes : Request.ComesTo brokenFiles
        { settings := some "cost.toml", task := .nodePrice "node.json" "soon" none }
        (.error (.reported (.catalog "prices.toml"))) := .task configured (.nodePrice (.badCatalog rfl no_catalog))
    rcases (execute_all_or_nothing pricing_accepted nofun brokenFiles Instant.epoch).1 with
      ⟨report, comes_iff, -⟩ | ⟨cause, comes_iff, ending_eq, -⟩ | ⟨comes_iff, -⟩
    · cases (comes_iff _).mp comes
    · cases (comes_iff _).mp comes
      exact ending_eq
    · cases (comes_iff _).mp comes
  · refine (execute_all_or_nothing assessing_accepted (by simp) brokenFiles Instant.epoch).2 _ _ unpricedFiles _ rfl
      rfl fun u => ?_
    unfold Counts
    simp only [configures_file_iff, settings_read, settings_read', Except.ok.injEq, exists_eq_left']

/-- A node with one thousandth of a core, written so that numerator and denominator nearly fill their words. -/
def overflowingFiles : String → Option String
  | "node.json" => some
    "\x7b\"name\":\"n\",\"capacity\":\x7b\"cpu\":\"100000000000000000000000000000000000e-38\"\x7d\x7d"
  | _ => none

/-- A run over files that can all be read ends neither with a report nor with a failure. -/
theorem endingOf_overflowingFiles :
    let pricing := ["node-price", "--node", "node.json"]
    Request.ofArguments pricing = .ok { task := .nodePrice "node.json" "1h" none } ∧
      endingOf overflowingFiles Instant.epoch pricing = .aborted ∧
      (endingOf overflowingFiles Instant.epoch pricing).status ≠ 0 ∧
      (endingOf overflowingFiles Instant.epoch pricing).status ≠ 1 := by
  intro pricing
  have aborted : endingOf overflowingFiles Instant.epoch pricing = .aborted := by decide +kernel
  refine ⟨by rfl, aborted, ?_, ?_⟩
  · rw [aborted]
    decide
  · rw [aborted]
    decide

end ClusterCost.Command
