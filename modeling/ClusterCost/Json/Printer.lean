import ClusterCost.Decimal.Layout
import ClusterCost.Json.Basic

/-!
# Writing JSON texts

`Json.pretty` writes a tree over several lines, two spaces deeper for every bracket. Floats are written with the shortest
digits that read back; a number whose point would stand far from its digits gets an exponent.
-/
namespace ClusterCost.Json

/-- Floats in JSON: positional from five places below the point to sixteen digits above it, whole numbers keep a point
and a zero, a tie goes to the even digit. -/
def floatLayout : Decimal.Layout where
  tie := .even
  positional point := -5 < point && point ≤ 16
  keepPoint := true

/-- A control character by its number in four hexadecimal digits. -/
def unicodeEscape (n : Nat) : List Char :=
  let digits := Nat.toDigits 16 n
  '\\' :: 'u' :: List.replicate (4 - digits.length) '0' ++ digits

def escapedChar (c : Char) : List Char :=
  match c with
  | '"' => ['\\', '"']
  | '\\' => ['\\', '\\']
  | '\x08' => ['\\', 'b']
  | '\x0c' => ['\\', 'f']
  | '\n' => ['\\', 'n']
  | '\r' => ['\\', 'r']
  | '\t' => ['\\', 't']
  | c => if c < ' ' then unicodeEscape c.toNat else [c]

def stringToken (s : String) : String :=
  String.ofList ('"' :: s.toList.flatMap escapedChar ++ ['"'])

def Number.token : Number → String
  | .integer n => String.ofList (Text.numeral n)
  | .float x => floatLayout.render x

def newline (depth : Nat) : String :=
  String.ofList ('\n' :: List.replicate (2 * depth) ' ')

mutual

/-- A tree over several lines, whose first line starts at a place indented to `depth`. Faults have no text and are
written as null. -/
def prettyAt (depth : Nat) : Json → String
  | .null => "null"
  | .bool true => "true"
  | .bool false => "false"
  | .number n => n.token
  | .string s => stringToken s
  | .array [] => "[]"
  | .array (item :: items) =>
    "[" ++ newline (depth + 1) ++ prettyAt (depth + 1) item ++ prettyItems (depth + 1) items ++ newline depth ++ "]"
  | .object [] => "\x7b\x7d"
  | .object ((name, value) :: members) =>
    "\x7b" ++ newline (depth + 1) ++ stringToken (name.getD "") ++ ": " ++ prettyAt (depth + 1) value ++
      prettyMembers (depth + 1) members ++ newline depth ++ "\x7d"
  | .unreadable => "null"
  | .broken => "null"

/-- The items after the first, each after a comma and on a line of its own. -/
def prettyItems (depth : Nat) : List Json → String
  | [] => ""
  | item :: items => "," ++ newline depth ++ prettyAt depth item ++ prettyItems depth items

/-- The members after the first, each after a comma and on a line of its own. -/
def prettyMembers (depth : Nat) : List (Option String × Json) → String
  | [] => ""
  | (name, value) :: members =>
    "," ++ newline depth ++ stringToken (name.getD "") ++ ": " ++ prettyAt depth value ++ prettyMembers depth members

end

def pretty (j : Json) : String :=
  prettyAt 0 j

end ClusterCost.Json
