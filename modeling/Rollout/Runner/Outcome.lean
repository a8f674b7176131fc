import Rollout.IoError

/-!
# Outcomes

What became of one command and of a sequence of commands. A command that ran
has an output text and an exit code; one that could not be started or waited
for has an error with its causes.
-/

namespace Rollout

/-- What an operator of the program could not do with a process. -/
inductive Stage where
  | spawn
  | wait
  deriving DecidableEq, Repr

/-- A process that could not be started or waited for. -/
structure ProcessError where
  stage : Stage
  program : String
  source : IoError
  deriving DecidableEq, Repr

namespace ProcessError

def message (error : ProcessError) : String :=
  match error.stage with
  | .spawn => "failed to spawn process: " ++ error.program
  | .wait => "failed to wait for process: " ++ error.program

/-- A line per cause under `text`, from `causes` on, outermost first. -/
def withCauses (text : String) (causes : List String) : String :=
  causes.foldl (fun text cause => text ++ "\ncaused by: " ++ cause) text

/-- The message with every cause behind it on a line of its own. -/
def diagnostic (error : ProcessError) : String :=
  withCauses error.message error.source.texts

end ProcessError

/-- The output text and the exit code of a command that ran. -/
structure Finished where
  output : String
  exitCode : Int
  deriving DecidableEq, Repr

def Finished.success (finished : Finished) : Bool :=
  finished.exitCode == 0

/-- What became of a sequence of commands. -/
inductive Outcome where
  /-- Every command exited with code zero; the texts of all, in order. -/
  | succeeded (output : String)
  /-- The command at `step` was the first that did not; the text is its own. -/
  | failed (step : Nat) (command : String) (exitCode : Int) (output : String)
  /-- The command at `step` could not be started or waited for. -/
  | errored (step : Nat) (command : String) (error : ProcessError)
  deriving DecidableEq, Repr

namespace Outcome

def success : Outcome → Bool
  | succeeded _ => true
  | _ => false

/-- The exit code, where a process left one. -/
def exitCode : Outcome → Option Int
  | succeeded _ => some 0
  | failed _ _ code _ => some code
  | errored .. => none

/-- The position of the command that stopped the sequence. -/
def failedStep : Outcome → Option Nat
  | succeeded _ => none
  | failed step _ _ _ => some step
  | errored step _ _ => some step

/-- The text for the operator. -/
def output : Outcome → String
  | succeeded output => output
  | failed _ _ _ output => output
  | errored _ _ error => error.diagnostic

/-- The text for the operator, of an outcome that is not looked at again. -/
def intoOutput : Outcome → String
  | succeeded output | failed _ _ _ output => output
  | errored _ _ error => error.diagnostic

end Outcome

end Rollout
