import ClusterCost.Text.Numeral
import ClusterCost.Toml.Basic

/-!
# Dates and times in TOML

A date, a time of day, or both, and then possibly an offset from universal time. Every part has its fixed number of
digits and its range; the days of a month depend on the year.
-/
namespace ClusterCost.Toml

/-- A number of a fixed count of digits within bounds, and the text after it. -/
def part? (count low high : Nat) (cs : List Char) : Option (Nat × List Char) :=
  let digits := cs.take count
  let n := Text.digitsValue digits
  if digits.length == count && digits.all Char.isDigit && low ≤ n && n ≤ high then some (n, cs.drop count) else none

/-- A text after the character that it has to start with. -/
def expect? (wanted : Char) : List Char → Option (List Char)
  | c :: rest => if c == wanted then some rest else none
  | [] => none

def isLeapYear (year : Nat) : Bool :=
  year % 4 == 0 && (year % 100 != 0 || year % 400 == 0)

def daysOfMonth (year month : Nat) : Nat :=
  if month == 2 then if isLeapYear year then 29 else 28
  else if [4, 6, 9, 11].contains month then 30
  else 31

def afterDate? (cs : List Char) : Option (List Char) := do
  let (year, rest) ← part? 4 0 9999 cs
  let (month, rest) ← part? 2 1 12 (← expect? '-' rest)
  let (_, rest) ← part? 2 1 (daysOfMonth year month) (← expect? '-' rest)
  some rest

def afterFraction? : List Char → Option (List Char)
  | '.' :: rest =>
    match rest with
    | c :: _ => if c.isDigit then some (rest.dropWhile Char.isDigit) else none
    | [] => none
  | other => some other

def afterTime? (cs : List Char) : Option (List Char) := do
  let (_, rest) ← part? 2 0 23 cs
  let (_, rest) ← part? 2 0 59 (← expect? ':' rest)
  let (_, rest) ← part? 2 0 60 (← expect? ':' rest)
  afterFraction? rest

def afterOffset? : List Char → Option (List Char)
  | 'Z' :: rest => some rest
  | 'z' :: rest => some rest
  | c :: rest =>
    if c == '+' || c == '-' then do
      let (_, rest) ← part? 2 0 23 rest
      let (_, rest) ← part? 2 0 59 (← expect? ':' rest)
      some rest
    else none
  | [] => none

/-- The text after a time of day and its offset, if what follows a date is one, else the text itself. -/
def afterDateTime (cs : List Char) : List Char :=
  let timed? : Option (List Char) := match cs with
    | c :: rest => if c == 'T' || c == 't' || c == ' ' then afterTime? rest else none
    | [] => none
  match timed? with
  | some rest => (afterOffset? rest).getD rest
  | none => cs

/-- A date or a time at the start of a text. -/
def time? (cs : List Char) : Option (Toml × List Char) :=
  match afterDate? cs with
  | some rest => some (.time, afterDateTime rest)
  | none => (afterTime? cs).map fun rest => (.time, rest)

end ClusterCost.Toml
