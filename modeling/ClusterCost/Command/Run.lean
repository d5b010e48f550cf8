import ClusterCost.Catalog.Bundled
import ClusterCost.Catalog.FromToml
import ClusterCost.Command.Arguments
import ClusterCost.Command.Report
import ClusterCost.Settings.File
import ClusterCost.Snapshot.Decode

/-!
# Carrying out requests

A request reads its files one after the other and stops at the first one that fails; a report is made only when
everything has been read. Reading a snapshot can break off the program as well, without a failure to report. The files
and the clock are given from outside, so that a run over files in memory is an ordinary function.
-/
namespace ClusterCost.Command

inductive Failure where
  | settings (path : String)
  | catalog (path : String)
  | unreadable (path : String)
  | undecodable (path : String)
  | duration (cause : Billing.InvalidDuration)
  | time (cause : Billing.InvalidTime)
  | utilization (cause : Utilization.Fault)
  deriving DecidableEq, Repr

def Failure.message : Failure → String
  | .settings path => "failed to load config " ++ path
  | .catalog path => "failed to load price catalog " ++ path
  | .unreadable path => "failed to read " ++ path
  | .undecodable path => "failed to parse " ++ path
  | .duration cause => cause.message
  | .time cause => cause.message
  | .utilization cause => cause.message

/-- What a run may ask its surroundings for: the text of a file, if there is one, and the time. -/
structure Surroundings (m : Type → Type) where
  read : String → m (Option String)
  now : m Instant

variable {m : Type → Type} [Monad m]

def loadSettings (s : Surroundings m) : Option String → ExceptT Failure m Settings
  | none => pure {}
  | some path => do
    match Settings.ofFile path (← s.read path) with
    | .ok settings => pure settings
    | .error _ => throw (.settings path)

/-- The catalog that prices a run: the one from the command line, else the one from the settings, else the bundled
one. -/
def catalogPath (settings : Settings) (override : Option String) : Option String :=
  override.or settings.pricing.catalog

def loadCatalog (s : Surroundings m) : Option String → ExceptT Failure m Catalog
  | none => pure Catalog.bundled
  | some path => do
    match decodeFile Catalog.ofToml (← s.read path) with
    | .ok catalog => pure catalog
    | .error _ => throw (.catalog path)

/-- The price model of the settings and the catalog that they and the command line choose. -/
def loadModel (s : Surroundings m) (settings : Settings) (override : Option String) :
    ExceptT Failure m Price.Model := do
  let catalog ← loadCatalog s (catalogPath settings override)
  pure { catalog, gpuLabel := settings.pricing.gpuLabel }

/-- What a fault in the snapshot of a file does to a run. -/
def haltOf (path : String) : Snapshot.Fault → Halt Failure
  | .content .aborted => .aborted
  | _ => .reported (.undecodable path)

def loadSnapshot {α : Type} (s : Surroundings m) (read : Snapshot.Reader α) (path : String) :
    ExceptT (Halt Failure) m α := do
  match (← s.read path) with
  | none => throw (.reported (.unreadable path))
  | some text =>
    match (Json.Document.parse text).read read with
    | .ok a => pure a
    | .error fault => throw (haltOf path fault)

def windowOf (duration : String) : ExceptT Failure m Billing.Window :=
  match Billing.Window.ofDuration duration with
  | .ok w => pure w
  | .error cause => throw (.duration cause)

/-- The time that was given, or the present. -/
def timeOf (s : Surroundings m) : Option Nat → ExceptT Failure m Instant
  | none => s.now
  | some seconds =>
    match Billing.evaluationTime seconds with
    | .ok t => pure t
    | .error cause => throw (.time cause)

def nodeReport (model : Price.Model) (n : Node) (w : Billing.Window) : Report :=
  .node n.name n.instanceType (model.estimate n w).value

def podReport (model : Price.Model) (p : Pod) (w : Billing.Window) : Report :=
  .pod p.key w.hours (model.podPrice p w)

def utilizationReport (settings : Settings) (now : Instant) (info : NodeInfo) : Except Utilization.Fault Report :=
  (Utilization.assess settings.utilization now info).result.map fun u =>
    .utilization info.node.name info.pods.length u

/-- A step that can fail, among steps that can also break off. -/
def failing {α : Type} (step : ExceptT Failure m α) : ExceptT (Halt Failure) m α :=
  step.adapt .reported

def Task.run (s : Surroundings m) (settings : Settings) : Task → ExceptT (Halt Failure) m Report
  | .nodePrice path duration override => do
    let model ← failing (loadModel s settings override)
    let n ← loadSnapshot s Node.ofJson path
    let w ← failing (windowOf duration)
    pure (nodeReport model n w)
  | .podPrice path duration override => do
    let model ← failing (loadModel s settings override)
    let p ← loadSnapshot s Pod.ofJson path
    let w ← failing (windowOf duration)
    pure (podReport model p w)
  | .utilization path now => do
    let info ← loadSnapshot s NodeInfo.ofJson path
    let t ← failing (timeOf s now)
    match utilizationReport settings t info with
    | .ok report => pure report
    | .error cause => throw (.reported (.utilization cause))

def Request.run (s : Surroundings m) (r : Request) : ExceptT (Halt Failure) m Report := do
  let settings ← failing (loadSettings s r.settings)
  r.task.run s settings

/-! ## Endings -/

inductive Ending where
  | printed (output : String)
  | failed (cause : Failure)
  | refused (cause : Refusal)
  | aborted
  deriving DecidableEq, Repr

/-- The ending of a run that comes to a report, or to none. -/
def Ending.of (f : Format) : Except (Halt Failure) Report → Ending
  | .ok report => .printed (report.render f)
  | .error (.reported cause) => .failed cause
  | .error .aborted => .aborted

def Ending.status : Ending → Nat
  | .printed _ => 0
  | .failed _ => 1
  | .refused _ => 2
  | .aborted => 101

def Ending.output : Ending → String
  | .printed output => output
  | _ => ""

def programName : String := "capcost"

def version : String := "0.1.0"

/-- The line that names the program, or one of its subcommands, and the version. -/
def versionLine (subcommand : Option Subcommand) : String :=
  let suffix := match subcommand with
    | some s => "-" ++ s.name
    | none => ""
  programName ++ suffix ++ " " ++ version ++ "\n"

def usage : String :=
  "Usage: capcost [--config PATH] [--format text|json] COMMAND\n\n" ++
  "  node-price --node PATH [--duration TIME] [--catalog PATH]\n" ++
  "  pod-price --pod PATH [--duration TIME] [--catalog PATH]\n" ++
  "  utilization --node-info PATH [--now SECONDS]\n"

def execute (s : Surroundings m) (arguments : List String) : m Ending := do
  match Request.ofArguments arguments with
  | .error (.refused cause) => pure (.refused cause)
  | .error (.version subcommand) => pure (.printed (versionLine subcommand))
  | .error .help => pure (.printed usage)
  | .ok request => do
    let outcome ← (request.run s).run
    pure (.of request.format outcome)

end ClusterCost.Command
