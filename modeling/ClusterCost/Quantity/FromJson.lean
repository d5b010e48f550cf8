import ClusterCost.Decimal.Layout
import ClusterCost.Json.Record
import ClusterCost.Quantity.Parser
import ClusterCost.Quantity.Printer

/-!
# Quantities in JSON

A JSON quantity is a text or a number. A whole number that fits 64 bits counts whole units and stops at the ends of the
range; any other number is taken as a float, multiplied to milli-units and rounded away from zero there.
-/
namespace ClusterCost.Quantity

/-- A JSON value that has the form of a quantity but denotes none. -/
inductive InvalidJson where
  | text (cause : InvalidText)
  | number (x : Float)
  deriving DecidableEq

def InvalidJson.message : InvalidJson → String
  | .text cause => cause.message
  | .number x => "invalid quantity: " ++ Decimal.plain.render x

/-- The quantity nearest to a float of whole units, rounded away from zero to milli-units. -/
def ofFloat? (x : Float) : Option Quantity :=
  let milli := x * 1000.0
  (Decimal.Binary.ofFloat? milli).bind fun b => ofMilli? (if milli < 0.0 then b.floor else b.ceil)

def ofNumber (n : Json.Number) : Except InvalidJson Quantity :=
  let viaFloat (x : Float) : Except InvalidJson Quantity :=
    match ofFloat? x with
    | some q => .ok q
    | none => .error (.number x)
  match n with
  | .integer i => if minMilli ≤ i ∧ i ≤ maxMilli then .ok (ofUnits i) else viaFloat (Float.ofInt i)
  | .float x => viaFloat x

def ofJson : Json.Reader (Halt InvalidJson) Quantity
  | .string s => (parse s).mapError fun halt => .content (halt.map .text)
  | .number n => (ofNumber n).mapError fun cause => .content (.reported cause)
  | other => Json.mismatch other

/-- A quantity as a JSON tree: its plain spelling. -/
def toJson (q : Quantity) : Json :=
  .string q.render

end ClusterCost.Quantity
