import ClusterCost.Billing.Duration

/-!
# Command line requests

What the command line can ask for: one of three calculations, with the files that it reads and the form of its report.
-/
namespace ClusterCost.Command

inductive Format where
  | text
  | json
  deriving DecidableEq, Repr

/-- The form that a word stands for. Every word but one means text. -/
def Format.ofWord (word : String) : Format :=
  if word = "json" then .json else .text

inductive Task where
  | nodePrice (node duration : String) (catalog : Option String)
  | podPrice (pod duration : String) (catalog : Option String)
  | utilization (info : String) (now : Option Nat)
  deriving DecidableEq, Repr

/-- What the command line asks for. -/
structure Request where
  settings : Option String := none
  format : Format := .text
  task : Task
  deriving DecidableEq, Repr

end ClusterCost.Command
