import ClusterCost.Text.Occurrence
import ClusterCost.Toml.Basic

/-!
# Writing TOML strings

A text is written in the plainest of the four forms that can hold it: between double quotes if nothing has to be escaped,
else between single quotes, else in the long forms of both, and with escapes where none of them will do. A long form
starts on a new line if the text has a line break.
-/
namespace ClusterCost.Toml

inductive Form where
  | basic
  | literal
  | longBasic
  | longLiteral
  deriving DecidableEq, Repr

/-- The controls that no form holds unescaped: all but the tab and the line break. -/
def isControl (c : Char) : Bool :=
  (c.toNat < 0x20 && c != '\t' && c != '\n') || c.toNat == 0x7F

def Form.of (cs : List Char) : Form :=
  let flat := !cs.contains '\n'
  let unescaped := !cs.contains '\\'
  if !cs.any isControl then
    if flat && unescaped && !cs.contains '"' then .basic
    else if flat && !cs.contains '\'' then .literal
    else if unescaped && !Text.occurs ['"', '"', '"'] cs then .longBasic
    else if !Text.occurs ['\'', '\'', '\''] cs then .longLiteral
    else if flat then .basic else .longBasic
  else if flat then .basic else .longBasic

def hexDigit (n : Nat) : Char :=
  if n < 10 then Char.ofNat ('0'.toNat + n) else Char.ofNat ('A'.toNat + (n - 10))

/-- The escape of a control by its number. -/
def numbered (c : Char) : List Char :=
  ['\\', 'u', '0', '0', hexDigit (c.toNat / 16), hexDigit (c.toNat % 16)]

/-- A character other than a double quote, as it stands between double quotes. -/
def spelled (long : Bool) (c : Char) : List Char :=
  match c with
  | '\x08' => ['\\', 'b']
  | '\t' => ['\\', 't']
  | '\n' => if long then ['\n'] else ['\\', 'n']
  | '\x0c' => ['\\', 'f']
  | '\r' => ['\\', 'r']
  | '\\' => ['\\', '\\']
  | c => if isControl c then numbered c else [c]

/-- The double quotes that may stand next to each other in a form. -/
def quotesInRow (long : Bool) : Nat :=
  if long then 2 else 0

/-- A text as it stands between double quotes. `quotes` counts the unescaped quotes right before it. -/
def escapeFrom (long : Bool) (quotes : Nat) : List Char → List Char
  | [] => []
  | '"' :: cs =>
    if quotes < quotesInRow long then '"' :: escapeFrom long (quotes + 1) cs
    else '\\' :: '"' :: escapeFrom long 0 cs
  | c :: cs => spelled long c ++ escapeFrom long 0 cs

/-- Characters between opening and closing quotes, of which there are `count`. -/
def enclosed (quote : Char) (count : Nat) (cs : List Char) : List Char :=
  List.replicate count quote ++ cs ++ List.replicate count quote

/-- The line break after the opening quotes of a long form. -/
def opening (cs : List Char) : List Char :=
  if cs.contains '\n' then ['\n'] else []

def Form.render (f : Form) (cs : List Char) : List Char :=
  match f with
  | .basic => enclosed '"' 1 (escapeFrom false 0 cs)
  | .literal => enclosed '\'' 1 cs
  | .longBasic => enclosed '"' 3 (opening cs ++ escapeFrom true 0 cs)
  | .longLiteral => enclosed '\'' 3 (opening cs ++ cs)

def renderText (cs : List Char) : List Char :=
  (Form.of cs).render cs

def renderBool (b : Bool) : List Char :=
  if b then ['t', 'r', 'u', 'e'] else ['f', 'a', 'l', 's', 'e']

def renderLine (name : String) (v : List Char) : List Char :=
  name.toList ++ [' ', '=', ' '] ++ v ++ ['\n']

def renderHeader (name : String) : List Char :=
  ['['] ++ name.toList ++ [']', '\n']

end ClusterCost.Toml
