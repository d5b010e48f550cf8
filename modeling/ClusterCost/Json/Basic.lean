import ClusterCost.Json.Number

/-!
# JSON trees

A tree holds what a JSON text says, in the order in which it says it. Two kinds of leaf record a fault instead of a
value. `unreadable` is a well-formed token that names no value: a string with half of a surrogate pair, a number beyond
all floats; it is harmless where nobody reads it. `broken` is the place where the text stops being JSON; nothing follows
it, and a reader that reaches it fails, whether it reads that place or skips it.
-/
namespace ClusterCost

/-- A JSON text as a tree. A member name that is no text is `none`. -/
inductive Json where
  | null
  | bool (b : Bool)
  | number (n : Json.Number)
  | string (s : String)
  | array (items : List Json)
  | object (members : List (Option String × Json))
  | unreadable
  | broken
  deriving Repr

namespace Json

mutual

/-- Whether a tree is well-formed throughout, so that it can be skipped. -/
def isWhole : Json → Bool
  | .array items => areWhole items
  | .object members => membersWhole members
  | .broken => false
  | _ => true

def areWhole : List Json → Bool
  | [] => true
  | item :: items => item.isWhole && areWhole items

def membersWhole : List (Option String × Json) → Bool
  | [] => true
  | (_, value) :: members => value.isWhole && membersWhole members

end

def record (members : List (String × Json)) : Json :=
  .object (members.map fun (name, value) => (some name, value))

def ofInt (n : Int) : Json :=
  .number (.integer n)

/-- A float as JSON, or null if it is not finite. -/
def ofFloat (x : Float) : Json :=
  if x.isFinite then .number (.float x) else .null

end Json

end ClusterCost
