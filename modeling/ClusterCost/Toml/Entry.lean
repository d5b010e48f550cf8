import ClusterCost.Table
import ClusterCost.Toml.Basic

/-!
# Putting tables together

A document adds to its tables statement by statement. What a later statement may add to a table depends on how the table
came into the document, which an `Entry` records until the document is complete: a table that a header defined takes no
dotted key, and one that dotted keys defined takes no header.
-/
namespace ClusterCost.Toml

/-- A dotted key: the names of the tables that it leads through, and the name in the last of them. -/
structure Key where
  parents : List String := []
  name : String
  deriving DecidableEq, Repr

/-- How a table came into a document: on the way to another one, by a dotted key, or by a header. The document itself
and the elements of an array of tables count as defined by a header. -/
inductive Origin where
  | implicit
  | dotted
  | header
  deriving DecidableEq, Repr

/-- What a name stands for in a document that is not complete. -/
inductive Entry where
  | value (v : Toml)
  | table (origin : Origin) (members : List (String × Entry))
  | elements (tables : List (List (String × Entry)))

/-- The entries of a table by name, in the order in which the names came. -/
abbrev Members := List (String × Entry)

/-- Changes the table that a path leads to, and makes the tables on the way that are not there. An array of tables leads
to its last element. A `dotted` path leads through no table that a header defined. -/
def descend (dotted : Bool) (change : Origin → Members → Option Members) :
    List String → Origin → Members → Option Members
  | [], origin, members => change origin members
  | name :: path, _, members =>
    match members.lookup name with
    | none =>
      let origin : Origin := if dotted then .dotted else .implicit
      (descend dotted change path origin []).map fun inner =>
        Table.insertEntry name (.table origin inner) members
    | some (.value _) => none
    | some (.table origin inner) =>
      if dotted && origin == .header then none
      else (descend dotted change path origin inner).map fun changed =>
        Table.insertEntry name (.table origin changed) members
    | some (.elements tables) =>
      match tables.getLast? with
      | none => none
      | some last => (descend dotted change path .header last).map fun changed =>
        Table.insertEntry name (.elements (tables.dropLast ++ [changed])) members

/-- Gives a value to a key of a table. A table that a dotted key leads to has to be one of dotted keys alone. -/
def assign (key : Key) (v : Toml) (members : Members) : Option Members :=
  let add (origin : Origin) (inner : Members) : Option Members :=
    if (origin == .dotted) == key.parents.isEmpty then none
    else if (inner.lookup key.name).isSome then none
    else some (Table.insertEntry key.name (.value v) inner)
  descend true add key.parents .header members

def openTable (key : Key) (members : Members) : Option Members :=
  let define (_ : Origin) (inner : Members) : Option Members :=
    match inner.lookup key.name with
    | none => some (Table.insertEntry key.name (.table .header []) inner)
    | some (.table .implicit own) => some (Table.insertEntry key.name (.table .header own) inner)
    | some _ => none
  descend false define key.parents .header members

def openElement (key : Key) (members : Members) : Option Members :=
  let add (_ : Origin) (inner : Members) : Option Members :=
    match inner.lookup key.name with
    | none => some (Table.insertEntry key.name (.elements [[]]) inner)
    | some (.elements tables) => some (Table.insertEntry key.name (.elements (tables ++ [[]])) inner)
    | some _ => none
  descend false add key.parents .header members

mutual

/-- What an entry says once the document is complete. -/
def Entry.toToml : Entry → Toml
  | .value v => v
  | .table _ members => .table (complete members)
  | .elements tables => .array (completeAll tables)

def complete : List (String × Entry) → List (String × Toml)
  | [] => []
  | (name, entry) :: members => (name, entry.toToml) :: complete members

def completeAll : List (List (String × Entry)) → List Toml
  | [] => []
  | members :: tables => .table (complete members) :: completeAll tables

end

end ClusterCost.Toml
