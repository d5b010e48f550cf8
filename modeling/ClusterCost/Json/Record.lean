import ClusterCost.Json.Parser

/-!
# Reading records from JSON

A record type is read through a list of its fields, each with its name and its reader. It may be written as an object,
whose members come in any order and may include unknown ones, or as an array of its fields in declaration order. What was
read is a list of field values; the record type itself decides what may be missing. Faults are reported in the order of
the text: the first one ends the reading.
-/
namespace ClusterCost.Json

/-- Why a document was refused. `content` is a value that has the right form but no meaning. -/
inductive Fault (ε : Type) where
  | malformed
  | mismatch
  | missing (field : String)
  | repeated (field : String)
  | surplus
  | trailing
  | content (cause : ε)
  deriving DecidableEq, Repr

abbrev Reader (ε α : Type) := Json → Except (Fault ε) α

/-- One field of a record type: its name, and the reader of its value. -/
structure Field (ε φ : Type) where
  name : String
  read : Reader ε φ

variable {ε φ α : Type}

/-- The fault of a tree that a reader has no use for. -/
def mismatch : Json → Except (Fault ε) α
  | .broken => .error .malformed
  | _ => .error .mismatch

def readText : Reader ε String
  | .string s => .ok s
  | other => mismatch other

def readBool : Reader ε Bool
  | .bool b => .ok b
  | other => mismatch other

def readList (read : Reader ε α) : Reader ε (List α)
  | .array items => items.mapM read
  | other => mismatch other

def readEntries (read : Reader ε α) : List (Option String × Json) → Except (Fault ε) (List (String × α))
  | [] => .ok []
  | (none, _) :: _ => .error .malformed
  | (some name, value) :: members => do
    let first ← read value
    let others ← readEntries read members
    .ok ((name, first) :: others)

/-- The field values in the members of an object. `seen` holds the names of the fields that were already given. -/
def readMembersOf (fields : List (Field ε φ)) (seen : List String) :
    List (Option String × Json) → Except (Fault ε) (List φ)
  | [] => .ok []
  | (none, _) :: _ => .error .malformed
  | (some name, value) :: members =>
    match fields.find? (·.name == name) with
    | some field =>
      if seen.contains name then .error (.repeated name)
      else do
        let first ← field.read value
        let others ← readMembersOf fields (name :: seen) members
        .ok (first :: others)
    | none => if value.isWhole then readMembersOf fields seen members else .error .malformed

/-- The field values in the items of an array, matched with the fields by position. -/
def readItemsOf : List (Field ε φ) → List Json → Except (Fault ε) (List φ)
  | _, [] => .ok []
  | [], _ :: _ => .error .surplus
  | field :: fields, item :: items => do
    let first ← field.read item
    let others ← readItemsOf fields items
    .ok (first :: others)

def readFields (fields : List (Field ε φ)) : Reader ε (List φ)
  | .object members => readMembersOf fields [] members
  | .array items => readItemsOf fields items
  | other => mismatch other

def required (name : String) (pick : φ → Option α) (values : List φ) : Except (Fault ε) α :=
  match values.findSome? pick with
  | some a => .ok a
  | none => .error (.missing name)

def defaulted (default : α) (pick : φ → Option α) (values : List φ) : α :=
  (values.findSome? pick).getD default

/-- A whole document: its first value is read, and nothing may follow it. -/
def Document.read (read : Reader ε α) (d : Document) : Except (Fault ε) α := do
  let a ← read d.root
  if d.ended then .ok a else .error .trailing

end ClusterCost.Json
