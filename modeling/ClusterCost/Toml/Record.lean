import ClusterCost.Toml.Document

/-!
# Reading records from TOML

A record may be written as a table, in which unknown names have no meaning, or as an array of its fields in declaration
order, of which the last ones may be missing and surplus ones have no meaning. A date names no field. Whole numbers are
taken as floats where a float is asked for.
-/
namespace ClusterCost.Toml

abbrev Reader (α : Type) := Toml → Except Fault α

def readText : Reader String
  | .string s => .ok s
  | _ => .error .mismatch

def readBool : Reader Bool
  | .boolean b => .ok b
  | _ => .error .mismatch

/-- A float, or the float nearest to a whole number. -/
def readFloat : Reader Float
  | .float x => .ok x
  | .integer n => .ok (Float.ofInt n)
  | _ => .error .mismatch

def readTable {α : Type} (read : Reader α) : Reader (Table α)
  | .table members => do
    let entries ← members.mapM fun (name, v) => (read v).map fun a => (name, a)
    .ok (Table.ofEntries entries)
  | _ => .error .mismatch

def readFields (names : List String) : Reader (List (String × Toml))
  | .table members => .ok members
  | .array items => .ok (names.zip items)
  | .time => .ok []
  | _ => .error .mismatch

def field {α : Type} (default : α) (read : Reader α) (name : String) (values : List (String × Toml)) :
    Except Fault α :=
  match values.lookup name with
  | some v => read v
  | none => .ok default

def Document.read {α : Type} (read : List (String × Toml) → Except Fault α) (s : String) : Except Fault α :=
  match Document.parse? s with
  | some members => read members
  | none => .error .malformed

end ClusterCost.Toml
