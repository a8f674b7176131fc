import Rollout.Posix.Utility.Cat
import Rollout.Posix.Utility.Count
import Rollout.Posix.Utility.Directory
import Rollout.Posix.Utility.Echo
import Rollout.Posix.Utility.Head
import Rollout.Posix.Utility.Listing
import Rollout.Posix.Utility.Remove
import Rollout.Posix.Utility.Sleep
import Rollout.Posix.Utility.Touch
import Rollout.Posix.Utility.Translate

/-!
# The programs of the system

The utilities by the names they are found under.
-/

namespace Rollout.Posix.Utility

variable {Birth : Type}

def byName : List (String × Conduct Birth) := [
  ("echo", atOnce echo), ("printf", atOnce printf), ("true", atOnce succeed),
  ("false", atOnce fail), ("touch", atOnce touch), ("ls", atOnce ls { code := 2 }),
  ("cat", cat), ("wc", wc), ("head", head), ("tr", tr), ("sleep", sleep),
  ("mkdir", atOnce mkdir), ("rmdir", atOnce rmdir), ("rm", rm)]

/-- The names of all utilities. -/
def names : List String :=
  (@byName Unit).map Prod.fst

/-- The utility of a name as a process. -/
def perform (name : String) : Conduct Birth := fun process =>
  match byName.lookup name with
  | some conduct => conduct process
  | none => pure (.code 127)

end Rollout.Posix.Utility
