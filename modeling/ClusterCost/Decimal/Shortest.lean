import ClusterCost.Decimal.Binary

/-!
# The shortest decimal that reads back

Between two neighbouring floats lies an interval of reals that round to one of them. `shortest` finds the coarsest
decimal grid with a point in the interval of a float, and of the two points next to the float the nearer one. It works
on exact fractions: the float and both ends of its interval are whole multiples of a quarter of its unit.
-/
namespace ClusterCost.Decimal

/-- The decimal number `digits · 10 ^ exponent`. -/
structure Shortest where
  digits : Nat
  exponent : Int
  deriving DecidableEq, Repr

inductive Tie where
  | up
  | even
  deriving DecidableEq, Repr

/-- A float's magnitude and the ends of the reals that round to it, as numerators over one divisor. The ends belong to
the interval if `closed` holds. -/
structure Interval where
  low : Nat
  middle : Nat
  high : Nat
  divisor : Nat
  closed : Bool
  deriving DecidableEq, Repr

/-- The reals that round to a float. Below a power of two the floats are twice as dense. -/
def Interval.ofBinary (b : Binary) : Interval :=
  let scale := Nat.pow 2 (b.exponent - 2).toNat
  let below := if b.mantissa = Binary.minNormal ∧ Binary.minExponent < b.exponent then 1 else 2
  { low := (4 * b.mantissa - below) * scale
    middle := 4 * b.mantissa * scale
    high := (4 * b.mantissa + 2) * scale
    divisor := Nat.pow 2 (2 - b.exponent).toNat
    closed := b.mantissa % 2 == 0 }

/-- Whether `n · 10 ^ exponent` lies in the interval. -/
def Interval.contains (i : Interval) (n : Nat) (exponent : Int) : Bool :=
  let point := n * i.divisor * Nat.pow 10 exponent.toNat
  let places := Nat.pow 10 (-exponent).toNat
  if i.closed then i.low * places ≤ point && point ≤ i.high * places
  else i.low * places < point && point < i.high * places

/-- The point of the grid of multiples of `10 ^ exponent` that is nearest to the middle of the interval, if the interval
has a point of the grid at all. -/
def Interval.onGrid? (i : Interval) (tie : Tie) (exponent : Int) : Option Shortest :=
  let unit := i.divisor * Nat.pow 10 exponent.toNat
  let middle := i.middle * Nat.pow 10 (-exponent).toNat
  let n := middle / unit
  let upper : Bool :=
    if 2 * middle = (2 * n + 1) * unit then tie = .up || n % 2 == 1
    else (2 * n + 1) * unit < 2 * middle
  let first := if upper then n + 1 else n
  let second := if upper then n else n + 1
  if i.contains first exponent then some ⟨first, exponent⟩
  else if i.contains second exponent then some ⟨second, exponent⟩
  else none

/-- An exponent of ten that is not below the leading digit of a positive float. -/
def leadingBound (b : Binary) : Int :=
  (b.mantissa.log2 + b.exponent + 1) * 30103 / 100000 + 1

/-- Drops the zeros at the end of the digits. The fuel is the number of zeros that may be dropped. -/
def Shortest.dropZeros : Nat → Shortest → Shortest
  | 0, s => s
  | fuel + 1, s =>
    if s.digits ≠ 0 ∧ s.digits % 10 = 0 then dropZeros fuel ⟨s.digits / 10, s.exponent + 1⟩ else s

/-- The decimal with the fewest digits that reads back as the magnitude of `b`, nearest to it among those. Seventeen
digits always read back, so the search ends within the grids that it tries. -/
def shortest (tie : Tie) (b : Binary) : Shortest :=
  if b.mantissa = 0 then ⟨0, 0⟩
  else
    let interval := Interval.ofBinary b
    let top := leadingBound b
    match (List.range 21).findSome? fun i => interval.onGrid? tie (top - (i : Nat)) with
    | some s => s.dropZeros 21
    | none => ⟨interval.middle / interval.divisor, 0⟩

end ClusterCost.Decimal
