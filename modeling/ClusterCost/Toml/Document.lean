import ClusterCost.Toml.Value

/-!
# Reading TOML documents

A document is a sequence of lines, each of which holds at most one statement: a header, or a key and its value. Headers
say to which table the keys after them belong. `Document.parse` gives the members of the whole document.
-/
namespace ClusterCost.Toml

inductive Statement where
  | assignment (key : Key) (v : Toml)
  | table (key : Key)
  | element (key : Key)
  deriving Repr

/-- The statement at the start of a line without leading blanks, if there is one, and the text after it. -/
def statement? : List Char → Option (Option Statement × List Char)
  | [] => some (none, [])
  | '\n' :: rest => some (none, '\n' :: rest)
  | '\r' :: rest => some (none, '\r' :: rest)
  | '#' :: rest => some (none, '#' :: rest)
  | '[' :: '[' :: rest => do
    match ← key? rest with
    | (key, ']' :: ']' :: after) => some (some (.element key), after)
    | _ => none
  | '[' :: rest => do
    match ← key? rest with
    | (key, ']' :: after) => some (some (.table key), after)
    | _ => none
  | cs => (assignment? value? cs).map fun ((key, v), after) => (some (.assignment key v), after)

/-- The statements of a text. Every line takes a character, so that the length of the text is fuel enough. -/
def statements? : Nat → List Char → Option (List Statement)
  | _, [] => some []
  | 0, _ => none
  | fuel + 1, cs => do
    let (statement, rest) ← statement? (skipGaps cs)
    let rest ← afterLine? rest
    let others ← statements? fuel rest
    some (statement.toList ++ others)

/-- A document that is being put together: its members, and the path of the table that takes the next keys. -/
structure Draft where
  members : Members := []
  current : List String := []

def Draft.add (d : Draft) : Statement → Option Draft
  | .assignment key v => do
    let members ← descend false (fun _ inner => assign key v inner) d.current .header d.members
    some { d with members }
  | .table key => do
    let members ← openTable key d.members
    some { members, current := key.parents ++ [key.name] }
  | .element key => do
    let members ← openElement key d.members
    some { members, current := key.parents ++ [key.name] }

/-- A text without the mark of the byte order at its start. -/
def dropMark : List Char → List Char
  | '\uFEFF' :: rest => rest
  | other => other

def Document.parse? (s : String) : Option (List (String × Toml)) := do
  let cs := dropMark s.toList
  let statements ← statements? cs.length cs
  let draft ← statements.foldlM Draft.add {}
  some (complete draft.members)

end ClusterCost.Toml
