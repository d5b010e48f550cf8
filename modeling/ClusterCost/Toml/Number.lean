import ClusterCost.Text.Hexadecimal
import ClusterCost.Text.Numeral
import ClusterCost.Toml.Basic

/-!
# Reading TOML numbers

A whole number is written in decimal digits, with a sign or without, or in hexadecimal, octal or binary digits after a
zero and a letter. A float has a fraction, an exponent or both, or is one of the words `inf` and `nan`. Between two
digits there may be one underscore. A whole number has to fit 64 bits; a float beyond the finite ones is refused above
zero and is minus infinity below.
-/
namespace ClusterCost.Toml

/-- The digits of a run in which single underscores may stand between digits, and the text after the run. -/
def run? (isDigit : Char → Bool) : List Char → Option (List Char × List Char)
  | [] => none
  | c :: rest =>
    if isDigit c then
      match rest with
      | [] => some ([c], [])
      | '_' :: more => (run? isDigit more).map fun (ds, after) => (c :: ds, after)
      | d :: more =>
        if isDigit d then (run? isDigit (d :: more)).map fun (ds, after) => (c :: ds, after)
        else some ([c], d :: more)
    else none

def sign : List Char → Bool × List Char
  | '-' :: rest => (true, rest)
  | '+' :: rest => (false, rest)
  | other => (false, other)

/-- The digits before a point: a single zero, or a run that does not start with one. -/
def wholeDigits? : List Char → Option (List Char × List Char)
  | '0' :: rest => some (['0'], rest)
  | other => run? Char.isDigit other

/-- The digits after a point. Without a point there are none. -/
def fractionDigits? : List Char → Option (List Char × List Char)
  | '.' :: rest => run? Char.isDigit rest
  | other => some ([], other)

/-- The sign and the digits of an exponent. Without an exponent there are none. -/
def exponentDigits? (cs : List Char) : Option ((Bool × List Char) × List Char) :=
  let signed (rest : List Char) : Option ((Bool × List Char) × List Char) :=
    let (negative, digits) := sign rest
    (run? Char.isDigit digits).map fun (ds, after) => ((negative, ds), after)
  match cs with
  | 'e' :: rest => signed rest
  | 'E' :: rest => signed rest
  | other => some ((false, []), other)

def maxInteger : Nat := 9223372036854775807

/-- The float nearest to `digits · 10 ^ exponent`. A magnitude far outside the range of floats makes infinity or zero,
which is decided before the power is computed. -/
def nearestFloat (digits : Nat) (exponent : Int) : Float :=
  let magnitude := exponent + (Nat.toDigits 10 digits).length
  if digits = 0 then 0.0
  else if 400 < magnitude then 1.0 / 0.0
  else if magnitude < -400 then 0.0
  else Float.ofScientific digits (decide (exponent < 0)) exponent.natAbs

/-- A float with its parts, unless it is infinite above zero. -/
def floatOf? (negative : Bool) (whole fraction : List Char) (exponent : Bool × List Char) : Option Float :=
  let power := Text.digitsValue exponent.2
  let x := nearestFloat (Text.digitsValue (whole ++ fraction))
    ((if exponent.1 then -(power : Int) else power) - fraction.length)
  if negative then some (-x) else if x.isFinite then some x else none

def integerOf? (negative : Bool) (digits : List Char) : Option Int :=
  let n := Text.digitsValue digits
  if negative then if n ≤ maxInteger + 1 then some (-(n : Int)) else none
  else if n ≤ maxInteger then some n else none

def decimal? (cs : List Char) : Option (Toml × List Char) := do
  let (negative, unsigned) := sign cs
  let (whole, afterWhole) ← wholeDigits? unsigned
  let (fraction, afterFraction) ← fractionDigits? afterWhole
  let (exponent, rest) ← exponentDigits? afterFraction
  if fraction.isEmpty && exponent.2.isEmpty then
    (integerOf? negative whole).map fun n => (.integer n, rest)
  else
    (floatOf? negative whole fraction exponent).map fun x => (.float x, rest)

def based? (base : Nat) (cs : List Char) : Option (Toml × List Char) := do
  let isDigit (c : Char) : Bool := ((Text.hexValue? c).map fun v => decide (v < base)).getD false
  let (digits, rest) ← run? isDigit cs
  let n := digits.foldl (fun n c => base * n + (Text.hexValue? c).getD 0) 0
  if n ≤ maxInteger then some (.integer n, rest) else none

def special? (cs : List Char) : Option (Toml × List Char) :=
  let (negative, word) := sign cs
  match word with
  | 'i' :: 'n' :: 'f' :: rest => some (.float (if negative then -1.0 / 0.0 else 1.0 / 0.0), rest)
  | 'n' :: 'a' :: 'n' :: rest => some (.float (0.0 / 0.0), rest)
  | _ => none

def number? : List Char → Option (Toml × List Char)
  | '0' :: 'x' :: rest => based? 16 rest
  | '0' :: 'o' :: rest => based? 8 rest
  | '0' :: 'b' :: rest => based? 2 rest
  | cs => (decimal? cs).or (special? cs)

end ClusterCost.Toml
