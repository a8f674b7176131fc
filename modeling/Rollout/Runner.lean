import Rollout.Text.Blank
import Rollout.Command
import Rollout.Event
import Rollout.Runner.Outcome
import Rollout.Runner.System

/-!
# The runner

Runs commands one at a time on a system and captures both their streams. A
sequence stops at the first command that does not exit with code zero. A
command that asks for a target of a stream is refused; in a sequence all
commands are looked at before the first one starts.
-/

namespace Rollout

/-- What all commands of a runner share: the directory they run in unless
they name one, and environment entries under their own. -/
structure Runner where
  dir : Path := ⟨[]⟩
  env : Vars := .empty
  deriving DecidableEq

/-- What a run leaves: the world, what was logged, and the result. -/
structure Report (World α : Type) where
  world : World
  log : Log
  value : α

/-- A command that asks for a target of a stream was given to a runner. -/
structure Refusal where
  command : String
  deriving DecidableEq, Repr

def Refusal.message (refusal : Refusal) : String :=
  "stdout and stderr are captured by the runner and cannot be overridden: " ++ refusal.command

namespace Runner

/-- What goes between the two streams. -/
def separator : String := "\n\n"

/-- The text of a command that ran. A failure shows both streams; a success
shows standard error only where it holds more than white space. -/
def compose (stdout stderr : String) (success : Bool) : String :=
  if !success then stdout ++ separator ++ stderr
  else if Text.blank stderr then stdout
  else stdout ++ separator ++ stderr ++ separator

/-- The directory a command runs in. -/
def dirOf (runner : Runner) (command : Command) : Path :=
  command.dir.getD runner.dir

/-- What the system is asked for. -/
def request (runner : Runner) (command : Command) : Request where
  program := command.program
  args := command.args
  dir := runner.dirOf command
  env := runner.env.overlay command.env

def starting (runner : Runner) (command : Command) : Event where
  level := .debug
  message := "starting command"
  fields := [("command", .text command.text), ("cwd", .text (runner.dirOf command).display)]

def exited (command : Command) (code : Int) : Event where
  level := .debug
  message := "command exited"
  fields := [("command", .text command.text), ("exit_code", .number code)]

def failing (step : Nat) (command : Command) (code : Int) : Event where
  level := .warn
  message := "command failed, aborting remaining steps"
  fields := [("step", .number step), ("command", .text command.text), ("exit_code", .number code)]

def erring (step : Nat) (command : Command) (error : ProcessError) : Event where
  level := .error
  message := "command could not be executed"
  fields := [("step", .number step), ("command", .text command.text),
    ("error", .text error.message)]

/-- What an ending means for the command that was asked for. -/
def resultOf (command : Command) : Ending → Except ProcessError Finished
  | .notStarted error => .error ⟨.spawn, command.program, error⟩
  | .notAwaited error => .error ⟨.wait, command.program, error⟩
  | .ended status stdout stderr =>
    .ok ⟨compose (Text.lossy stdout) (Text.lossy stderr) (status.exitCode == 0), status.exitCode⟩

section Running

variable {World : Type} (system : System World) (runner : Runner)

/-- Runs one command to its end. -/
def run (command : Command) (world : World) :
    Report World (Except Refusal (Except ProcessError Finished)) :=
  if command.redirects then ⟨world, [], .error ⟨command.text⟩⟩
  else
    let answer := system world (runner.request command)
    let result := resultOf command answer.2
    let log := match result with
      | .ok finished => [runner.starting command, exited command finished.exitCode]
      | .error _ => [runner.starting command]
    ⟨answer.1, log, .ok result⟩

/-- Runs commands in order until one does not exit with code zero. The first
of them has the position `step`, and `output` is the text so far. -/
def runFrom (step : Nat) (output : String) :
    List Command → World → Report World (Except Refusal Outcome)
  | [], world => ⟨world, [], .ok (.succeeded output)⟩
  | command :: rest, world =>
    let first := run system runner command world
    match first.value with
    | .error refusal => ⟨first.world, first.log, .error refusal⟩
    | .ok (.error error) =>
      ⟨first.world, first.log ++ [erring step command error],
        .ok (.errored step command.text error)⟩
    -- Only a success adds to the text; a failure tells of its own command alone.
    | .ok (.ok finished) =>
      if finished.success then
        let others := runFrom (step + 1) (output ++ finished.output) rest first.world
        ⟨others.world, first.log ++ others.log, others.value⟩
      else
        ⟨first.world, first.log ++ [failing step command finished.exitCode],
          .ok (.failed step command.text finished.exitCode finished.output)⟩

/-- Runs commands in order after looking at all of them. -/
def runAll (commands : List Command) (world : World) : Report World (Except Refusal Outcome) :=
  -- A refusal comes before anything has happened.
  match commands.find? Command.redirects with
  | some command => ⟨world, [], .error ⟨command.text⟩⟩
  | none => runFrom system runner 0 "" commands world

end Running

end Runner

end Rollout
