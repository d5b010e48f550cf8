import ClusterCost.Quantity.Basic
import ClusterCost.Text.Numeral

/-!
# Writing quantities

A quantity that is a whole number of units is written as that number, any other in milli-units with the suffix `m`.
-/
namespace ClusterCost.Quantity

def toChars (q : Quantity) : List Char :=
  if q.milli % 1000 = 0 then Text.numeral (q.milli / 1000) else Text.numeral q.milli ++ ['m']

def render (q : Quantity) : String :=
  String.ofList q.toChars

end ClusterCost.Quantity
