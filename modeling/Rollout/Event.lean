/-!
# Events

What the program tells its operator while it runs: a level, a fixed message
and named fields.
-/

namespace Rollout

inductive Level where
  | debug
  | info
  | warn
  | error
  deriving DecidableEq, Repr

namespace Level

/-- The name a level is written with. -/
def name : Level → String
  | debug => "DEBUG"
  | info => "INFO"
  | warn => "WARN"
  | error => "ERROR"

end Level

/-- The value of a field: a number or a text. -/
inductive Field where
  | number (value : Int)
  | text (value : String)
  deriving DecidableEq, Repr

structure Event where
  level : Level
  message : String
  fields : List (String × Field) := []
  deriving DecidableEq, Repr

/-- Events in the order they were written. -/
abbrev Log := List Event

end Rollout
