/-!
# Binary floating point numbers, exactly

`Binary` is a finite binary64 number as a sign, a whole mantissa and a power of two. Everything that has to be exact
about a float (its floor and ceiling, its decimal digits) is computed from this form in whole numbers.

Powers are written with `Nat.pow` by name, since `^` finds another instance where more of the library is imported.
-/
namespace ClusterCost.Decimal

/-- The finite number `± mantissa · 2 ^ exponent`. The sign of zero is kept. -/
structure Binary where
  negative : Bool
  mantissa : Nat
  exponent : Int
  deriving DecidableEq, Repr

namespace Binary

/-- The exponent of the least positive number. -/
def minExponent : Int := -1074

/-- The mantissa from which on all numbers are normal. -/
def minNormal : Nat := Nat.pow 2 52

/-- The exact value of a float; infinities and not-a-number have none. -/
def ofFloat? (x : Float) : Option Binary :=
  let bits := x.toBits.toNat
  let negative := decide (Nat.pow 2 63 ≤ bits)
  let power : Nat := bits / Nat.pow 2 52 % Nat.pow 2 11
  let low : Nat := bits % Nat.pow 2 52
  if power = (2047 : Nat) then none
  else if power = 0 then some ⟨negative, low, minExponent⟩
  else some ⟨negative, minNormal + low, (power : Int) + minExponent - 1⟩

def numerator (b : Binary) : Nat :=
  b.mantissa * Nat.pow 2 b.exponent.toNat

def divisor (b : Binary) : Nat :=
  Nat.pow 2 (-b.exponent).toNat

/-- The numerator with the sign of the number. -/
def signed (b : Binary) : Int :=
  if b.negative then -(b.numerator : Int) else b.numerator

def floor (b : Binary) : Int :=
  b.signed / b.divisor

/-- The least whole number that is not below the number. -/
def ceil (b : Binary) : Int :=
  -(-b.signed / b.divisor)

theorem divisor_pos (b : Binary) : 0 < b.divisor :=
  Nat.two_pow_pos _

/-- The floor is the whole number `n` with `n ≤ x < n + 1`, stated on the exact fraction. -/
theorem le_floor_iff (b : Binary) (n : Int) : n ≤ b.floor ↔ n * b.divisor ≤ b.signed := by
  unfold floor
  exact Int.le_ediv_iff_mul_le (by exact_mod_cast b.divisor_pos)

/-- The ceiling is the whole number `n` with `n - 1 < x ≤ n`, stated on the exact fraction. -/
theorem ceil_le_iff (b : Binary) (n : Int) : b.ceil ≤ n ↔ b.signed ≤ n * b.divisor := by
  have h := Int.le_ediv_iff_mul_le (a := -n) (b := -b.signed) (c := (b.divisor : Int)) (by exact_mod_cast b.divisor_pos)
  unfold ceil
  rw [Int.neg_mul] at h
  omega

end Binary

/-- The least whole number not below `x`, as a float: the sign of zero is that of `x`, and a number that is not finite
stays as it is. -/
def ceil (x : Float) : Float :=
  match Binary.ofFloat? x with
  | none => x
  | some b =>
    let magnitude := Float.ofNat b.ceil.natAbs
    if b.negative then -magnitude else magnitude

/-- A quotient of whole numbers rounded to the nearest whole number; a half goes to the even neighbour. -/
def divToEven (n d : Nat) : Nat :=
  let low := n / d
  let rest := 2 * (n % d)
  if rest < d then low
  else if d < rest then low + 1
  else low + low % 2

end ClusterCost.Decimal
