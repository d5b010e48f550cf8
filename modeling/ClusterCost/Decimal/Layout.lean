import ClusterCost.Decimal.Shortest

/-!
# Writing floats

A `Layout` holds the decisions of one way to write floats; `Layout.render` writes a float by them, with the shortest
digits that read back. `fixed` writes a float with a set number of decimal places, rounding its exact value.
-/
namespace ClusterCost.Decimal

/-- The decisions of one way to write floats. `positional p` says whether a number is written without an exponent whose
decimal point stands after `p` of its digits; `keepPoint` whether a whole number keeps a point and a zero. -/
structure Layout where
  tie : Tie
  positional : Int → Bool
  keepPoint : Bool

def digitsOf (n : Nat) : List Char :=
  Nat.toDigits 10 n

/-- Digits with a decimal point after the first `point` of them, filled up with zeros. -/
def pointed (keepPoint : Bool) (digits : List Char) (point : Int) : List Char :=
  if point ≤ 0 then '0' :: '.' :: List.replicate (-point).toNat '0' ++ digits
  else if digits.length ≤ point.toNat then
    digits ++ List.replicate (point.toNat - digits.length) '0' ++ if keepPoint then ['.', '0'] else []
  else digits.take point.toNat ++ '.' :: digits.drop point.toNat

/-- Digits with the decimal point after the first one and, always signed, the power of ten that this leaves. -/
def scientific (digits : List Char) (point : Int) : List Char :=
  let power := point - 1
  let tail := digits.drop 1
  digits.take 1 ++ (if tail.isEmpty then [] else '.' :: tail) ++
    'e' :: (if power < 0 then '-' else '+') :: digitsOf power.natAbs

def Layout.renderBinary (l : Layout) (b : Binary) : List Char :=
  let s := shortest l.tie b
  let digits := digitsOf s.digits
  let point := digits.length + s.exponent
  (if b.negative then ['-'] else []) ++
    if l.positional point then pointed l.keepPoint digits point else scientific digits point

def specialName (x : Float) : List Char :=
  if x.isNaN then ['N', 'a', 'N'] else if x < 0 then ['-', 'i', 'n', 'f'] else ['i', 'n', 'f']

def Layout.render (l : Layout) (x : Float) : String :=
  match Binary.ofFloat? x with
  | some b => String.ofList (l.renderBinary b)
  | none => String.ofList (specialName x)

/-- Floats in messages: never an exponent, whole numbers without a point, a tie goes up. -/
def plain : Layout where
  tie := .up
  positional _ := true
  keepPoint := false

/-- A float with exactly `places` decimal places. Its exact value is rounded to the nearest such number, a half to the
even neighbour; the sign stays even where only zeros are left. -/
def fixed (places : Nat) (x : Float) : String :=
  match Binary.ofFloat? x with
  | none => String.ofList (specialName x)
  | some b =>
    let digits := digitsOf (divToEven (b.numerator * Nat.pow 10 places) b.divisor)
    let padded := List.replicate (places + 1 - digits.length) '0' ++ digits
    let whole := padded.length - places
    String.ofList ((if b.negative then ['-'] else []) ++ padded.take whole ++ '.' :: padded.drop whole)

end ClusterCost.Decimal
