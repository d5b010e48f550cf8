/-!
# Decimal numerals

Whole numbers in ASCII decimal digits. `unsigned?` reads what a bounded unsigned field accepts, `signed?` the same for
a bounded signed field, and `numeral` writes a number with a minus sign where it is negative and no other decoration.
Digits of other scripts are not digits here.
-/
namespace ClusterCost.Text

def isDigits (cs : List Char) : Bool :=
  !cs.isEmpty && cs.all Char.isDigit

def digitsValue (cs : List Char) : Nat :=
  Nat.ofDigitChars 10 cs 0

/-- A number of at most `limit` in decimal digits, with an optional plus sign before them. -/
def unsigned? (limit : Nat) (cs : List Char) : Option Nat :=
  let digits := match cs with
    | '+' :: rest => rest
    | other => other
  if isDigits digits && digitsValue digits ≤ limit then some (digitsValue digits) else none

/-- A number from `-limit - 1` to `limit` in decimal digits, with an optional sign before them. -/
def signed? (limit : Nat) (cs : List Char) : Option Int :=
  match cs with
  | '-' :: digits =>
    if isDigits digits && digitsValue digits ≤ limit + 1 then some (-(digitsValue digits : Int)) else none
  | other => (unsigned? limit other).map Int.ofNat

/-- A whole number in decimal digits, after a minus sign if it is negative. -/
def numeral (n : Int) : List Char :=
  if n < 0 then '-' :: Nat.toDigits 10 n.natAbs else Nat.toDigits 10 n.natAbs

theorem digitsValue_toDigits (n : Nat) : digitsValue (Nat.toDigits 10 n) = n :=
  Nat.ofDigitChars_toDigits (by omega) (by omega)

end ClusterCost.Text
