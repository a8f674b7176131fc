import Rollout.Text.Utf8
import Rollout.Path
import Rollout.Vars
import Rollout.ExitStatus
import Rollout.IoError

/-!
# Systems

A system starts a program on request and tells how it ended. Everything a
program can change, files for one, is the world that the system takes and
gives back, so any behaviour of any program is some system.
-/

namespace Rollout

/-- A program to start, with what it is given. The entries of `env` are put
over those the system itself has. -/
structure Request where
  program : String
  args : List String
  dir : Path
  env : Vars
  deriving DecidableEq

/-- All entries a program sees on a system that has entries of its own. -/
def Request.environment (request : Request) (inherited : Vars) : Vars :=
  inherited.overlay request.env

/-- How the system answered a request. -/
inductive Ending where
  | notStarted (error : IoError)
  | notAwaited (error : IoError)
  | ended (status : WaitStatus) (stdout stderr : Text.Bytes)
  deriving DecidableEq

/-- A behaviour of all programs over worlds. -/
abbrev System (World : Type) :=
  World → Request → World × Ending

end Rollout
