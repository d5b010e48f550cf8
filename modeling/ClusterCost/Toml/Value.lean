import ClusterCost.Toml.Calendar
import ClusterCost.Toml.Entry
import ClusterCost.Toml.Number
import ClusterCost.Toml.Text

/-!
# Reading TOML keys and values

A key is one or more names with points between them. A value is a scalar, an array, or an inline table, which may hold
each other to a limited depth. An array may go over several lines, an inline table may not.
-/
namespace ClusterCost.Toml

/-! ## Keys -/

def isBare (c : Char) : Bool :=
  c.isAlphanum || c == '_' || c == '-'

def name? : List Char → Option (String × List Char)
  | '"' :: rest => (basic? rest).map fun (cs, after) => (String.ofList cs, after)
  | '\'' :: rest => (literal? rest).map fun (cs, after) => (String.ofList cs, after)
  | cs =>
    let own := cs.takeWhile isBare
    if own.isEmpty then none else some (String.ofList own, cs.dropWhile isBare)

/-- A key of a limited number of names, with points and blanks between them, and the text after it. -/
def keyWithin? : Nat → List Char → Option (Key × List Char)
  | 0, _ => none
  | count + 1, cs => do
    let (name, rest) ← name? (skipGaps cs)
    match skipGaps rest with
    | '.' :: more =>
      (keyWithin? count more).map fun (key, after) => ({ key with parents := name :: key.parents }, after)
    | after => some ({ name }, after)

/-- The number of names that a key, and the number of brackets within each other that a value cannot reach. -/
def depthLimit : Nat := 80

def key? (cs : List Char) : Option (Key × List Char) :=
  keyWithin? (depthLimit - 1) cs

/-! ## Values -/

def scalar? : List Char → Option (Toml × List Char)
  | 't' :: 'r' :: 'u' :: 'e' :: rest => some (.boolean true, rest)
  | 'f' :: 'a' :: 'l' :: 's' :: 'e' :: rest => some (.boolean false, rest)
  | cs => (text? cs).map (fun (text, rest) => (.string (String.ofList text), rest)) |>.or (time? cs) |>.or (number? cs)

/-- A text without the blanks, line breaks and comments at its start. A comment has to end with its line. Every line
takes a character, so that more fuel than characters is enough. -/
def skipLines? : Nat → List Char → Option (List Char)
  | 0, _ => none
  | fuel + 1, cs =>
    match skipGaps cs with
    | '#' :: rest => do
      let rest ← afterBreak? (rest.dropWhile isPlain)
      skipLines? fuel rest
    | other =>
      match afterBreak? other with
      | some rest => skipLines? fuel rest
      | none => some other

/-- The items of an array after its opening bracket or a comma, and the text after its closing bracket. Every item takes
a character, so that more fuel than characters is enough. -/
def items? (value? : List Char → Option (Toml × List Char)) : Nat → List Char → Option (List Toml × List Char)
  | 0, _ => none
  | fuel + 1, cs => do
    match ← skipLines? (fuel + 1) cs with
    | ']' :: rest => some ([], rest)
    | start =>
      let (first, rest) ← value? start
      match ← skipLines? (fuel + 1) rest with
      | ',' :: more => (items? value? fuel more).map fun (others, after) => (first :: others, after)
      | ']' :: after => some ([first], after)
      | _ => none

/-- A key and its value, in an inline table or on a line, and the text after them. -/
def assignment? (value? : List Char → Option (Toml × List Char)) (cs : List Char) :
    Option ((Key × Toml) × List Char) := do
  let (key, rest) ← key? cs
  match rest with
  | '=' :: rest =>
    let (v, rest) ← value? (skipGaps rest)
    some ((key, v), rest)
  | _ => none

/-- The assignments of an inline table that has at least one to come, and the text after its closing brace. -/
def assignments? (value? : List Char → Option (Toml × List Char)) :
    Nat → List Char → Option (List (Key × Toml) × List Char)
  | 0, _ => none
  | fuel + 1, cs => do
    let (first, rest) ← assignment? value? cs
    match skipGaps rest with
    | ',' :: more => (assignments? value? fuel more).map fun (others, after) => (first :: others, after)
    | '\x7d' :: after => some ([first], after)
    | _ => none

def inlineTable? (assignments : List (Key × Toml)) : Option Toml :=
  (assignments.foldlM (fun members (key, v) => assign key v members) []).map fun members =>
    .table (complete members)

/-- A value in which brackets stand within brackets to a depth at most. -/
def valueWithin? : Nat → List Char → Option (Toml × List Char)
  | 0, cs => scalar? cs
  | depth + 1, cs =>
    match cs with
    | '[' :: rest => (items? (valueWithin? depth) (rest.length + 1) rest).map fun (items, after) => (.array items, after)
    | '\x7b' :: rest =>
      match skipGaps rest with
      | '\x7d' :: after => some (.table [], after)
      | _ => do
        let (assignments, after) ← assignments? (valueWithin? depth) (rest.length + 1) rest
        let table ← inlineTable? assignments
        some (table, after)
    | other => scalar? other

def value? (cs : List Char) : Option (Toml × List Char) :=
  valueWithin? (depthLimit - 1) cs

end ClusterCost.Toml
