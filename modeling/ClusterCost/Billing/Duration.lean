import ClusterCost.Billing.Window
import ClusterCost.Text.Blank
import ClusterCost.Text.Numeral
import ClusterCost.Text.Quoted

/-!
# Lengths of time on the command line

A duration is a number with one of the letters `s`, `m` and `h`, or with none for seconds. Its seconds stop at the
greatest unsigned 64-bit number; a window of that length starts at the epoch and has to end within the clock, so no
window is ever shorter than its duration.
-/
namespace ClusterCost.Billing

/-- Why there is no window for a text: it is no duration, or its end is beyond the clock. -/
inductive InvalidDuration where
  | malformed (trimmed : String)
  | beyondClock (text : String)
  deriving DecidableEq, Repr

def InvalidDuration.message : InvalidDuration → String
  | .malformed trimmed => "invalid duration " ++ Text.quoted trimmed ++ ": expected e.g. 30s, 90m, 2h"
  | .beyondClock text => "duration " ++ Text.quoted text ++ " is out of range"

def maxSeconds : Nat := 18446744073709551615

def unitSeconds? : Char → Option Nat
  | 's' => some 1
  | 'm' => some 60
  | 'h' => some 3600
  | _ => none

/-- The number and the unit of a duration: its last character, if that is the letter of a unit, else seconds. -/
def splitUnit (cs : List Char) : List Char × Nat :=
  match cs.getLast?.bind unitSeconds? with
  | some unit => (cs.dropLast, unit)
  | none => (cs, 1)

def secondsOf? (cs : List Char) : Option Nat :=
  let (number, unit) := splitUnit cs
  (Text.unsigned? maxSeconds number).map fun n => min (n * unit) maxSeconds

/-- The seconds of a duration, blanks at its ends apart. -/
def parseDuration (text : String) : Except InvalidDuration Nat :=
  let trimmed := Text.trim text.toList
  match secondsOf? trimmed with
  | some seconds => .ok seconds
  | none => .error (.malformed (String.ofList trimmed))

def Window.ofDuration (text : String) : Except InvalidDuration Window := do
  let seconds ← parseDuration text
  match Instant.epoch.addSeconds? seconds with
  | some finish => .ok ⟨Instant.epoch, finish⟩
  | none => .error (.beyondClock text)

/-- A time of evaluation that the clock does not reach. -/
structure InvalidTime where
  seconds : Nat
  deriving DecidableEq, Repr

def InvalidTime.message (e : InvalidTime) : String :=
  "timestamp " ++ String.ofList (Text.numeral e.seconds) ++ " is out of range"

def evaluationTime (seconds : Nat) : Except InvalidTime Instant :=
  match Instant.epoch.addSeconds? seconds with
  | some t => .ok t
  | none => .error ⟨seconds⟩

end ClusterCost.Billing
