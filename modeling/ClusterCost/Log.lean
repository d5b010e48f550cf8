/-!
# Log events

What a calculation reports beside its answer: a level, a text and named values.
-/
namespace ClusterCost.Log

inductive Level where
  | warn
  | debug
  deriving DecidableEq, Repr

def Level.name : Level → String
  | .warn => "WARN"
  | .debug => "DEBUG"

inductive Value where
  | text (s : String)
  | flag (b : Bool)
  deriving DecidableEq, Repr

structure Event where
  level : Level
  message : String
  fields : List (String × Value)
  deriving DecidableEq, Repr

end ClusterCost.Log
