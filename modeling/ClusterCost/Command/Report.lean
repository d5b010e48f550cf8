import ClusterCost.Command.Request
import ClusterCost.Decimal.Layout
import ClusterCost.Json.Printer
import ClusterCost.Price.Model
import ClusterCost.Text.Numeral
import ClusterCost.Utilization.Ratio
import ClusterCost.Utilization.Assessment

/-!
# Reports

What the program prints: the result of one calculation, line by line for people or as a JSON object. Both forms hold the
same numbers; the lines round them to a fixed number of places.
-/
namespace ClusterCost.Command

inductive Report where
  | node (name : String) (instanceType : Option String) (estimate : Price.Estimate)
  | pod (key : String) (hours total : Float)
  | utilization (node : String) (pods : Nat) (result : Utilization)
  deriving DecidableEq

def ratioText (x : Float) : String :=
  Decimal.fixed 4 x

def priceText (x : Float) : String :=
  Decimal.fixed 6 x

def Report.lines : Report → List String
  | .node name instanceType e => [
      "node:      " ++ name,
      "instance:  " ++ instanceType.getD "<unknown>",
      "hours:     " ++ ratioText e.hours,
      "pricing:   " ++ e.basis.title ++ if e.preemptible then " (preemptible)" else "",
      "instance $ " ++ priceText e.machine,
      "gpu $      " ++ priceText e.gpu,
      "total $    " ++ priceText e.total]
  | .pod key hours total => [key ++ ": $" ++ priceText total ++ " for " ++ ratioText hours ++ "h"]
  | .utilization name count u => [
      "node:        " ++ name ++ " (" ++ String.ofList (Text.numeral count) ++ " pods)",
      "cpu:         " ++ ratioText u.cpu,
      "memory:      " ++ ratioText u.memory,
      "gpu:         " ++ ratioText u.gpu,
      "utilization: " ++ ratioText u.value ++ " (" ++ u.dominant.resource ++ ")"]

def Report.toJson : Report → Json
  | .node name instanceType e => .record [
      ("node", .string name),
      ("instance_type", instanceType.elim .null .string),
      ("hours", .ofFloat e.hours),
      ("preemptible", .bool e.preemptible),
      ("basis", .string (e.basis.name)),
      ("instance", .ofFloat e.machine),
      ("gpu", .ofFloat e.gpu),
      ("total", .ofFloat e.total)]
  | .pod key hours total => .record [
      ("pod", .string key),
      ("hours", .ofFloat hours),
      ("total", .ofFloat total)]
  | .utilization name count u => .record [
      ("node", .string name),
      ("pods", .ofInt count),
      ("cpu_util", .ofFloat u.cpu),
      ("mem_util", .ofFloat u.memory),
      ("gpu_util", .ofFloat u.gpu),
      ("resource", .string u.dominant.name),
      ("utilization", .ofFloat u.value)]

/-- A report in a form, with the line break at its end. -/
def Report.render (f : Format) (r : Report) : String :=
  match f with
  | .text => String.join (r.lines.map (· ++ "\n"))
  | .json => Json.pretty r.toJson ++ "\n"

end ClusterCost.Command
