import ClusterCost.Halt
import ClusterCost.Quantity.Basic
import ClusterCost.Text.Blank
import ClusterCost.Text.Numeral
import ClusterCost.Text.Quoted

/-!
# Reading quantities

A quantity text is a sign, a decimal number and a suffix: `500m`, `-1.5`, `4Gi`, `1e3`. `Lexeme.ofChars` cuts the
text, `Scale.ofSuffix` gives the suffix its meaning as a fraction, and `Lexeme.milli` rounds the exact product away
from zero. Numerator and divisor are kept in signed 128-bit words: a text whose exact fraction does not fit is refused.
Their sum, from which the rounding starts, is not checked: where it does not fit, the program breaks off.
-/
namespace ClusterCost.Quantity

inductive Flaw where
  | missingNumber
  | secondPoint
  | longFraction
  | outOfRange
  | unknownSuffix
  deriving DecidableEq, Repr

def Flaw.message : Flaw → String
  | .missingNumber => "missing number"
  | .secondPoint => "more than one decimal point"
  | .longFraction => "too many fractional digits"
  | .outOfRange => "number out of range"
  | .unknownSuffix => "unknown suffix"

/-- A text that was refused, as it was given, with its flaw. -/
structure InvalidText where
  input : String
  flaw : Flaw
  deriving DecidableEq, Repr

def InvalidText.message (e : InvalidText) : String :=
  "invalid quantity " ++ Text.quoted e.input ++ ": " ++ e.flaw.message

/-- The greatest number in a signed 128-bit word. -/
def wordMax : Nat := 170141183460469231731687303715884105727

def fitWord (n : Nat) : Except Flaw Nat :=
  if n ≤ wordMax then .ok n else .error .outOfRange

/-- The parts of a quantity text: a sign, the digits before and after the point, and the rest. -/
structure Lexeme where
  negative : Bool
  whole : List Char
  fraction : List Char
  suffix : List Char
  deriving DecidableEq, Repr

/-- The sign of a text, and the text after it. Only one sign is a sign. -/
def splitSign : List Char → Bool × List Char
  | '-' :: cs => (true, cs)
  | '+' :: cs => (false, cs)
  | cs => (false, cs)

def isNumberChar (c : Char) : Bool :=
  c.isDigit || c == '.'

def maxFractionDigits : Nat := 9

/-- Cuts a trimmed text into its parts. The number is the longest run of digits and points after the sign; it needs a
digit, at most one point, and at most nine digits after it. -/
def Lexeme.ofChars (cs : List Char) : Except Flaw Lexeme :=
  let (negative, unsigned) := splitSign cs
  let number := unsigned.takeWhile isNumberChar
  let suffix := unsigned.dropWhile isNumberChar
  let whole := number.takeWhile (· != '.')
  let fraction := (number.dropWhile (· != '.')).drop 1
  if whole.isEmpty && fraction.isEmpty then .error .missingNumber
  else if fraction.contains '.' then .error .secondPoint
  else if maxFractionDigits < fraction.length then .error .longFraction
  else .ok { negative, whole, fraction, suffix }

/-- The meaning of a suffix: the written number times `factor` over `divisor` is the amount in milli-units. -/
structure Scale where
  factor : Nat
  divisor : Nat
  deriving DecidableEq, Repr

/-- The factor of a unit suffix: decimal from milli to peta, binary from kibi to pebi. -/
def unitFactor? : List Char → Option Nat
  | ['m'] => some 1
  | [] => some 1000
  | ['k'] => some (1000 * Nat.pow 10 3)
  | ['M'] => some (1000 * Nat.pow 10 6)
  | ['G'] => some (1000 * Nat.pow 10 9)
  | ['T'] => some (1000 * Nat.pow 10 12)
  | ['P'] => some (1000 * Nat.pow 10 15)
  | ['K', 'i'] => some (1000 * Nat.pow 2 10)
  | ['M', 'i'] => some (1000 * Nat.pow 2 20)
  | ['G', 'i'] => some (1000 * Nat.pow 2 30)
  | ['T', 'i'] => some (1000 * Nat.pow 2 40)
  | ['P', 'i'] => some (1000 * Nat.pow 2 50)
  | _ => none

/-- The greatest exponent that a suffix may write: the greatest signed 32-bit number. -/
def maxExponent : Nat := 2147483647

/-- The exponent in a suffix such as `e3` or `E-2`. -/
def exponent? : List Char → Option Int
  | 'e' :: cs => Text.signed? maxExponent cs
  | 'E' :: cs => Text.signed? maxExponent cs
  | _ => none

/-- A power of ten that fits a signed 128-bit word; the thirty-eighth is the last. -/
def powerOfTen (n : Nat) : Except Flaw Nat :=
  if n ≤ 38 then .ok (Nat.pow 10 n) else .error .outOfRange

def Scale.ofSuffix (suffix : List Char) : Except Flaw Scale :=
  match unitFactor? suffix with
  | some factor => .ok ⟨factor, 1⟩
  | none =>
    match exponent? suffix with
    | none => .error .unknownSuffix
    | some exponent => do
      let power ← powerOfTen exponent.natAbs
      if exponent < 0 then .ok ⟨1000, power⟩
      else
        let factor ← fitWord (power * 1000)
        .ok ⟨factor, 1⟩

/-- The quotient of two numbers, rounded away from zero and given a sign. It starts with the sum of numerator and
divisor, which nothing keeps in its word. -/
def roundAway (numerator divisor : Nat) (negative : Bool) : Except (Halt Flaw) Int :=
  if numerator + divisor ≤ wordMax then
    let magnitude : Int := ((numerator + divisor - 1) / divisor : Nat)
    .ok (if negative then -magnitude else magnitude)
  else .error .aborted

/-- The amount that the parts of a text denote, in milli-units and without the sign: a numerator and a divisor. -/
def Lexeme.ratio (l : Lexeme) : Except Flaw (Nat × Nat) := do
  let whole ← fitWord (Text.digitsValue l.whole)
  let places := Nat.pow 10 l.fraction.length
  let scale ← Scale.ofSuffix l.suffix
  let divisor ← fitWord (places * scale.divisor)
  let numerator ← fitWord ((whole * places + Text.digitsValue l.fraction) * scale.factor)
  .ok (numerator, divisor)

/-- The amount that the parts of a text denote, in milli-units. -/
def Lexeme.milli (l : Lexeme) : Except (Halt Flaw) Int := do
  let (numerator, divisor) ← l.ratio.mapError .reported
  roundAway numerator divisor l.negative

def fitRange (milli : Int) : Except Flaw Quantity :=
  match ofMilli? milli with
  | some q => .ok q
  | none => .error .outOfRange

/-- The quantity that a text denotes, blanks at its ends apart. -/
def ofChars (cs : List Char) : Except (Halt Flaw) Quantity := do
  let lexeme ← (Lexeme.ofChars (Text.trim cs)).mapError .reported
  let milli ← lexeme.milli
  (fitRange milli).mapError .reported

def parse (s : String) : Except (Halt InvalidText) Quantity :=
  (ofChars s.toList).mapError (Halt.map fun flaw => ⟨s, flaw⟩)

end ClusterCost.Quantity
