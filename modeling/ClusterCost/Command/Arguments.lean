import ClusterCost.Command.Request

/-!
# Reading command line arguments

The arguments are options of the program, one subcommand, and options of the subcommand, among them once more those of the
program. An option takes its value from the same argument or from the next one, which may not look like an option. No
option may be given twice at one level. The arguments are read from left to right, and the first event decides: a
refusal, or an option that asks for the version or for help.
-/
namespace ClusterCost.Command

inductive Subcommand where
  | nodePrice
  | podPrice
  | utilization
  deriving DecidableEq, Repr

/-- The options that take a value. -/
inductive Parameter where
  | settings
  | format
  | node
  | pod
  | info
  | duration
  | catalog
  | now
  deriving DecidableEq, Repr

/-- Why arguments were refused. -/
inductive Refusal where
  | noSubcommand
  | unexpected (argument : String)
  | noValue (p : Parameter)
  | badValue (p : Parameter) (value : String)
  | repeated (p : Parameter)
  | missing (p : Parameter)
  deriving DecidableEq, Repr

/-- What ends the reading of arguments before there is a request. -/
inductive Stop where
  | refused (cause : Refusal)
  | version (subcommand : Option Subcommand)
  | help
  deriving DecidableEq, Repr

def Subcommand.name : Subcommand → String
  | .nodePrice => "node-price"
  | .podPrice => "pod-price"
  | .utilization => "utilization"

def Subcommand.ofName? (name : String) : Option Subcommand :=
  [.nodePrice, .podPrice, .utilization].find? (·.name == name)

def Parameter.name : Parameter → String
  | .settings => "config"
  | .format => "format"
  | .node => "node"
  | .pod => "pod"
  | .info => "node-info"
  | .duration => "duration"
  | .catalog => "catalog"
  | .now => "now"

def Parameter.letter? : Parameter → Option Char
  | .settings => some 'c'
  | .format => some 'f'
  | .node => some 'n'
  | .pod => some 'p'
  | .info => some 'n'
  | .duration => some 'd'
  | .catalog => none
  | .now => none

def parameters : Option Subcommand → List Parameter
  | none => [.settings, .format]
  | some .nodePrice => [.settings, .format, .node, .duration, .catalog]
  | some .podPrice => [.settings, .format, .pod, .duration, .catalog]
  | some .utilization => [.settings, .format, .info, .now]

/-- An option: a parameter, or one of the two that end the reading. -/
inductive Switch where
  | parameter (p : Parameter)
  | version
  | help
  deriving DecidableEq, Repr

def Switch.ofName? (place : Option Subcommand) (name : String) : Option Switch :=
  if name = "version" then some .version
  else if name = "help" then some .help
  else ((parameters place).find? (·.name == name)).map .parameter

def Switch.ofLetter? (place : Option Subcommand) (letter : Char) : Option Switch :=
  if letter = 'V' then some .version
  else if letter = 'h' then some .help
  else ((parameters place).find? (·.letter? == some letter)).map .parameter

/-! ## Arguments -/

inductive Argument where
  | terminator
  | long (name : List Char) (value : Option (List Char))
  | short (letter : Char) (rest : List Char)
  | word (text : List Char)
  deriving DecidableEq, Repr

/-- The form of an argument. A single hyphen is a word. -/
def Argument.ofChars : List Char → Argument
  | '-' :: '-' :: rest =>
    if rest.isEmpty then .terminator
    else match rest.dropWhile (· != '=') with
      | _ :: value => .long (rest.takeWhile (· != '=')) (some value)
      | [] => .long rest none
  | '-' :: letter :: rest => .short letter rest
  | other => .word other

/-- The value that follows a letter in one argument, after an equals sign that may stand between them. -/
def attachedValue : List Char → Option (List Char)
  | [] => none
  | '=' :: value => some value
  | value => some value

/-! ## Levels -/

/-- The options that were read at one level. The last parameter may still lack its value, and only counts once the
next option or the end has come. -/
structure Level where
  given : List (Parameter × String) := []
  pending : Option (Parameter × Option String) := none

def maxTime : Nat := 18446744073709551615

def time? (value : String) : Option Nat :=
  Text.unsigned? maxTime value.toList

/-- A level with one more value. -/
def Level.give (level : Level) (p : Parameter) (value : String) : Except Refusal Level :=
  if (level.given.lookup p).isSome then .error (.repeated p)
  else if p = .now ∧ (time? value).isNone then .error (.badValue p value)
  else .ok { level with given := level.given ++ [(p, value)] }

/-- A level in which nothing is pending. -/
def Level.settle (level : Level) : Except Refusal Level :=
  match level.pending with
  | none => .ok level
  | some (p, none) => .error (.noValue p)
  | some (p, some value) => { level with pending := none }.give p value

def Level.lacksValue (level : Level) : Bool :=
  match level.pending with
  | some (_, none) => true
  | _ => false

/-- A level after an option, which may have a value attached. -/
def Level.option (place : Option Subcommand) (level : Level) (s : Switch) (value : Option String) :
    Except Stop Level := do
  let settled ← level.settle.mapError .refused
  match s with
  | .version => .error (.version place)
  | .help => .error .help
  | .parameter p =>
    match value with
    | some v => (settled.give p v).mapError .refused
    | none => .ok { settled with pending := some (p, none) }

/-- A level after an argument that is an option, or the value that the last parameter lacks. -/
def Level.take (place : Option Subcommand) (level : Level) (argument : String) : Except Stop Level :=
  let unexpected : Except Stop Level := .error (.refused (.unexpected argument))
  match Argument.ofChars argument.toList with
  | .terminator => unexpected
  | .long name value =>
    match Switch.ofName? place (String.ofList name) with
    | some (.parameter p) => level.option place (.parameter p) (value.map String.ofList)
    | some s => if value.isSome then unexpected else level.option place s none
    | none => unexpected
  | .short letter rest =>
    match Switch.ofLetter? place letter with
    | some s => level.option place s ((attachedValue rest).map String.ofList)
    | none => unexpected
  | .word text =>
    match level.pending with
    | some (p, none) => .ok { level with pending := some (p, some (String.ofList text)) }
    | _ => unexpected

/-- Reads the arguments of a subcommand. After a terminator there may be no more. -/
def Level.ofArguments (place : Option Subcommand) (level : Level) : List String → Except Stop Level
  | [] => level.settle.mapError .refused
  | argument :: rest =>
    match Argument.ofChars argument.toList, rest with
    | .terminator, [] => level.settle.mapError .refused
    | _, _ => do
      let next ← level.take place argument
      next.ofArguments place rest

/-- How the words after the one that asks for help end the reading: they may name one subcommand. -/
def helpStop : List String → Stop
  | [] => .help
  | topic :: others =>
    if (Subcommand.ofName? topic).isSome || topic == "help" then
      match others with
      | [] => .help
      | other :: _ => .refused (.unexpected other)
    else .refused (.unexpected topic)

/-- The options before a subcommand, the subcommand, and its options. What was pending before the subcommand counts
after all else. -/
def readLevels (level : Level) : List String → Except Stop (Level × Subcommand × Level)
  | [] => .error (.refused .noSubcommand)
  | argument :: rest =>
    if !level.lacksValue && argument == "help" then .error (helpStop rest)
    else
      match (if level.lacksValue then none else Subcommand.ofName? argument) with
      | some subcommand => do
        let own ← Level.ofArguments (some subcommand) {} rest
        let before ← level.settle.mapError .refused
        .ok (before, subcommand, own)
      | none => do
        let next ← level.take none argument
        readLevels next rest

/-! ## Requests -/

/-- The request of the values of both levels. A value that was given at the inner level counts. -/
def Request.ofValues (outer inner : List (Parameter × String)) (subcommand : Subcommand) :
    Except Refusal Request :=
  let required (p : Parameter) : Except Refusal String :=
    match inner.lookup p with
    | some value => .ok value
    | none => .error (.missing p)
  let shared (p : Parameter) : Option String := (inner.lookup p).or (outer.lookup p)
  let duration := (inner.lookup .duration).getD "1h"
  let request (task : Task) : Request :=
    { settings := shared .settings
      format := ((shared .format).map Format.ofWord).getD .text
      task }
  match subcommand with
  | .nodePrice => (required .node).map fun node => request (.nodePrice node duration (inner.lookup .catalog))
  | .podPrice => (required .pod).map fun pod => request (.podPrice pod duration (inner.lookup .catalog))
  | .utilization =>
    (required .info).map fun info => request (.utilization info ((inner.lookup .now).bind time?))

def Request.ofArguments (arguments : List String) : Except Stop Request := do
  let (outer, subcommand, inner) ← readLevels {} arguments
  (Request.ofValues outer.given inner.given subcommand).mapError .refused

end ClusterCost.Command
