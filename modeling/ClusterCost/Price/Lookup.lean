import ClusterCost.Catalog.Basic
import ClusterCost.Text.Occurrence

/-!
# Looking prices up

A price is the entry of the first table that has one, and a flat price where none has. Instance types are looked up as a
whole, or by their family, the part before the first hyphen.
-/
namespace ClusterCost.Price

def lookup? (name : String) (tables : List PriceTable) : Option Float :=
  tables.findSome? (·.get? name)

/-- The entry of the first table that has the name, or else the flat price. -/
def resolve (name : String) (tables : List PriceTable) (flat : Float) : Float :=
  (lookup? name tables).getD flat

/-- The family of an instance type: the part before its first hyphen. -/
def family (instanceType : String) : String :=
  String.ofList (instanceType.toList.takeWhile (· != '-'))

/-- Whether an instance type is of a custom shape: whether its name contains the word. -/
def isCustom (instanceType : String) : Bool :=
  Text.occurs "custom".toList instanceType.toList

end ClusterCost.Price
