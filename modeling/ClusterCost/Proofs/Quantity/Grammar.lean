import ClusterCost.Proofs.Text.Digits
import ClusterCost.Proofs.Text.Trim
import Mathlib.Algebra.Order.Floor.Ring
import Mathlib.Data.Rat.Floor

/-!
# The grammar of quantity texts

A quantity text is a sign, digits with an optional point in them, and a suffix, which is a unit or a decimal exponent.
`Spelling` holds these parts with the rules that they obey, so it cannot hold anything that is not a quantity text.

Its meaning is said twice and without the reader: `amount` is the rational number of whole units, and `numerator` over
`divisor` is its magnitude in milli-units as a fraction of whole numbers. `numerator_div_divisor` says that these agree,
and `rounded` is that fraction rounded away from zero.
-/
namespace ClusterCost.Quantity

open Text (Digits Sign)

/-- The suffixes that stand for a unit: none at all, a thousandth, and the decimal and binary multiples. -/
inductive UnitSuffix where
  | one
  | milli
  | kilo
  | mega
  | giga
  | tera
  | peta
  | kibi
  | mebi
  | gibi
  | tebi
  | pebi
  deriving DecidableEq, Repr

namespace UnitSuffix

def chars : UnitSuffix → List Char
  | one => []
  | milli => ['m']
  | kilo => ['k']
  | mega => ['M']
  | giga => ['G']
  | tera => ['T']
  | peta => ['P']
  | kibi => ['K', 'i']
  | mebi => ['M', 'i']
  | gibi => ['G', 'i']
  | tebi => ['T', 'i']
  | pebi => ['P', 'i']

def scale : UnitSuffix → Nat
  | milli => 1
  | one => 1000
  | kilo => 1000 * 1000
  | mega => 1000 * 1000 ^ 2
  | giga => 1000 * 1000 ^ 3
  | tera => 1000 * 1000 ^ 4
  | peta => 1000 * 1000 ^ 5
  | kibi => 1000 * 1024
  | mebi => 1000 * 1024 ^ 2
  | gibi => 1000 * 1024 ^ 3
  | tebi => 1000 * 1024 ^ 4
  | pebi => 1000 * 1024 ^ 5

end UnitSuffix

/-- What follows the digits: a unit, or a decimal exponent after one of the letters `e` and `E`. -/
inductive Suffix where
  | unit (u : UnitSuffix)
  | exponent (capital : Bool) (sign : Sign) (digits : Digits) (nonempty : digits.chars ≠ [])

namespace Suffix

def chars : Suffix → List Char
  | unit u => u.chars
  | exponent capital sign digits _ => (if capital then 'E' else 'e') :: (sign.chars ++ digits.chars)

/-- The decimal exponent; a unit has none. -/
def power : Suffix → Int
  | unit _ => 0
  | exponent _ sign digits _ => sign.apply digits.value

def scale : Suffix → Nat
  | unit u => u.scale
  | s@(exponent ..) => 1000 * 10 ^ s.power.toNat

/-- The divisor of a negative exponent. -/
def divisor (s : Suffix) : Nat :=
  10 ^ (-s.power).toNat

/-- What one of the suffix is in whole units. -/
def multiplier : Suffix → ℚ
  | unit u => u.scale / 1000
  | s@(exponent ..) => 10 ^ s.power

end Suffix

/-- The parts of a quantity text. There is a digit before or after the point, and at most nine come after it. -/
structure Spelling where
  sign : Sign
  whole : Digits
  fraction : Option Digits
  suffix : Suffix
  nonempty : whole.chars ≠ [] ∨ ∃ ds, fraction = some ds ∧ ds.chars ≠ []
  length_le : ∀ ds, fraction = some ds → ds.chars.length ≤ 9

namespace Spelling

def places (p : Spelling) : Digits :=
  p.fraction.getD Digits.empty

def fractionChars (p : Spelling) : List Char :=
  match p.fraction with
  | none => []
  | some ds => '.' :: ds.chars

def chars (p : Spelling) : List Char :=
  p.sign.chars ++ (p.whole.chars ++ p.fractionChars ++ p.suffix.chars)

/-- The rational number of whole units that a text denotes, without its sign. -/
def magnitude (p : Spelling) : ℚ :=
  (p.whole.value + p.places.value / 10 ^ p.places.chars.length) * p.suffix.multiplier

def amount (p : Spelling) : ℚ :=
  if p.sign = .minus then -p.magnitude else p.magnitude

/-- The digits as one number, in milli-units of the suffix. -/
def numerator (p : Spelling) : Nat :=
  (p.whole.value * 10 ^ p.places.chars.length + p.places.value) * p.suffix.scale

/-- What the digits after the point and a negative exponent divide by. -/
def divisor (p : Spelling) : Nat :=
  10 ^ p.places.chars.length * p.suffix.divisor

/-- The fraction fits signed 128-bit words, and so does the scale that it is made with. -/
structure Fits (p : Spelling) : Prop where
  scale_le : p.suffix.scale ≤ 2 ^ 127 - 1
  divisor_le : p.divisor ≤ 2 ^ 127 - 1
  numerator_le : p.numerator ≤ 2 ^ 127 - 1

/-- The milli-units of a text: the fraction rounded up in magnitude, with its sign. -/
def rounded (p : Spelling) : Int :=
  p.sign.apply ⌈(p.numerator / p.divisor : ℚ)⌉

/-- A text spells a quantity where blanks surround the spelling. -/
def SpelledBy (p : Spelling) (s : String) : Prop :=
  ∃ before after, Text.Blanks before ∧ Text.Blanks after ∧ s.toList = before ++ p.chars ++ after

end Spelling

/-- A rational number rounded to the whole number next to it on the side away from zero. -/
def awayFromZero (x : ℚ) : Int :=
  if x < 0 then ⌊x⌋ else ⌈x⌉

end ClusterCost.Quantity
