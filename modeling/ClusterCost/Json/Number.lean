import ClusterCost.Text.Numeral

/-!
# JSON numbers

A number token without fraction and exponent is a whole number if it fits 64 bits, signed or unsigned; any other is a
float. The float is computed in floating point: as many leading digits as fit 64 bits are taken as one whole number, and
the power of ten that is left is multiplied or divided in. That is at most one rounding more than the nearest float
would need, so the last bit of a long number may differ from the nearest float.
-/
namespace ClusterCost.Json

/-- A number that was read: whole, within 64 bits, or a finite float. -/
inductive Number where
  | integer (n : Int)
  | float (x : Float)
  deriving DecidableEq, Repr

/-- A number token: its sign and its digits before the point, after the point, and in the exponent. -/
structure Numeral where
  negative : Bool
  whole : List Char
  fraction : Option (List Char)
  exponent : Option (Bool × List Char)
  deriving DecidableEq, Repr

/-- The greatest unsigned 64-bit number. -/
def maxUnsigned : Nat := 18446744073709551615

def maxSigned : Nat := 9223372036854775807

/-- The greatest signed 32-bit number. -/
def maxPower : Nat := 2147483647

/-- Leading digits as one whole number, and how many digits after them were left out. -/
structure Significand where
  digits : Nat
  dropped : Nat
  deriving DecidableEq, Repr

/-- Takes digits into a number as long as it fits 64 bits, and counts the digits from the first that does not. -/
def Significand.take (start : Nat) : List Char → Significand
  | [] => ⟨start, 0⟩
  | c :: cs =>
    let next := 10 * start + (c.toNat - '0'.toNat)
    if next ≤ maxUnsigned then take next cs else ⟨start, cs.length + 1⟩

def powerOfTen (n : Nat) : Float :=
  Float.ofScientific 1 false n

/-- `x · 10 ^ power` for a power below zero: divisions by `10 ^ 308` until one division is left. Three of them take every
64-bit number to zero, so the fuel of `scaleDown 3` suffices. -/
def scaleDown : Nat → Float → Nat → Float
  | 0, _, _ => 0.0
  | fuel + 1, x, power =>
    if power ≤ 308 then x / powerOfTen power
    else if x == 0.0 then x
    else scaleDown fuel (x / powerOfTen 308) (power - 308)

/-- `digits · 10 ^ power` as a float, or nothing if it is beyond the finite floats. -/
def scaled (digits : Nat) (power : Int) : Option Float :=
  let x := Float.ofNat digits
  if power < 0 then some (scaleDown 3 x power.natAbs)
  else if 308 < power then if x == 0.0 then some x else none
  else
    let y := x * powerOfTen power.toNat
    if y.isFinite then some y else none

/-- The sum of a power and a written exponent, kept within the signed 32-bit numbers. -/
def addPower (power : Int) (negative : Bool) (exponent : Nat) : Int :=
  max (-(maxPower : Int) - 1) (min (if negative then power - exponent else power + exponent) maxPower)

/-- The magnitude of a token as a float, or nothing if it is beyond the finite floats. An exponent beyond 32 bits makes
zero of every number that it does not take out of range. -/
def Numeral.magnitude? (n : Numeral) : Option Float :=
  let whole := Significand.take 0 n.whole
  let all := match n.fraction with
    | none => whole
    | some digits => Significand.take whole.digits digits
  let power : Int := match n.fraction with
    | none => whole.dropped
    | some digits => whole.dropped - ((digits.length - all.dropped : Nat) : Int)
  match n.exponent with
  | none => scaled all.digits power
  | some (negative, digits) =>
    let exponent := Text.digitsValue digits
    if exponent ≤ maxPower then scaled all.digits (addPower power negative exponent)
    else if all.digits ≠ 0 ∧ !negative then none
    else some 0.0

/-- The whole number that a token denotes, if it has neither fraction nor exponent and fits 64 bits. Minus zero is no
whole number. -/
def Numeral.integer? (n : Numeral) : Option Int :=
  match n.fraction, n.exponent with
  | none, none =>
    let value := Text.digitsValue n.whole
    if n.negative then if 0 < value ∧ value ≤ maxSigned + 1 then some (-(value : Int)) else none
    else if value ≤ maxUnsigned then some value else none
  | _, _ => none

/-- The number that a token denotes, if it is not beyond the finite floats. -/
def Numeral.toNumber? (n : Numeral) : Option Number :=
  match n.integer? with
  | some i => some (.integer i)
  | none => n.magnitude?.map fun x => .float (if n.negative then -x else x)

def Number.toFloat : Number → Float
  | .integer n => Float.ofInt n
  | .float x => x

end ClusterCost.Json
