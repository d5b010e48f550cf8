/-!
# TOML values

A TOML document is a table of values by name. Nothing here depends on what a date or a time says, so that they are kept
without their fields.
-/
namespace ClusterCost

inductive Toml where
  | string (s : String)
  | integer (n : Int)
  | float (x : Float)
  | boolean (b : Bool)
  | time
  | array (items : List Toml)
  | table (members : List (String × Toml))
  deriving Repr

namespace Toml

/-- Why a document was refused: it is no TOML, or it holds a value of another form than the one asked for. -/
inductive Fault where
  | malformed
  | mismatch
  deriving DecidableEq, Repr

def isGap (c : Char) : Bool :=
  c == ' ' || c == '\t'

/-- The characters that may stand for themselves: all but the controls, of which a tab is allowed. -/
def isPlain (c : Char) : Bool :=
  c == '\t' || (0x20 ≤ c.toNat && c.toNat != 0x7F)

/-- A text from its first character on that is no blank. -/
def skipGaps (cs : List Char) : List Char :=
  cs.dropWhile isGap

/-- A text after the line break that it starts with. -/
def afterBreak? : List Char → Option (List Char)
  | '\n' :: rest => some rest
  | '\r' :: '\n' :: rest => some rest
  | _ => none

/-- A text after its comment, if it starts with one. The comment ends where the line does. -/
def skipComment : List Char → List Char
  | '#' :: rest => rest.dropWhile isPlain
  | other => other

/-- A text after the rest of a line that holds nothing more than a comment. -/
def afterLine? (cs : List Char) : Option (List Char) :=
  match skipComment (skipGaps cs) with
  | [] => some []
  | other => afterBreak? other

end Toml

end ClusterCost
