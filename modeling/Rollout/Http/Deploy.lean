import Rollout.Http.Service

/-!
# Deploys under way

A deploy that runs beside others. A command of it starts in one step and ends
in another, so that steps of other deploys may come between its own, also while
a child runs for it; its progress is its own, and it keeps what became of each
command that was run for it.
-/

namespace Rollout.Http

/-- How far a deploy has come. -/
inductive Progress where
  /-- Nobody has looked at its commands yet. -/
  | queued (commands : List Command)
  /-- The commands in `rest` are to come; those before them, `step` in number,
  gave `output`. -/
  | running (step : Nat) (output : String) (rest : List Command)
  /-- A child runs for `command`, which stands at `step`. -/
  | waiting (step : Nat) (output : String) (command : Command) (rest : List Command)
  | ended (value : Except Refusal Outcome)

namespace Progress

/-- Commands that were looked at. -/
def checked (commands : List Command) : Progress :=
  match commands.find? Command.redirects with
  | some command => ended (.error ⟨command.text⟩)
  | none => running 0 "" commands

/-- What the result of a command means for those behind it: what is logged,
and how far the deploy has come. -/
def after (step : Nat) (output : String) (command : Command) (rest : List Command) :
    Except Refusal (Except ProcessError Finished) → Log × Progress
  | .error refusal => ([], ended (.error refusal))
  | .ok (.error error) =>
    ([Runner.erring step command error], ended (.ok (.errored step command.text error)))
  | .ok (.ok finished) =>
    if finished.success then ([], running (step + 1) (output ++ finished.output) rest)
    else
      ([Runner.failing step command finished.exitCode],
        ended (.ok (.failed step command.text finished.exitCode finished.output)))

/-- What a deploy that has ended came to. -/
def value? : Progress → Option (Except Refusal Outcome)
  | ended value => some value
  | _ => none

end Progress

/-- A deploy that was started. -/
structure Deploy where
  tag : String
  progress : Progress
  /-- The commands that were run for it, in order, with their results. -/
  history : List (Command × Except Refusal (Except ProcessError Finished)) := []

namespace Deploy

/-- The deploy of a tag that nothing was done for yet. -/
def start (service : Service) (tag : String) : Deploy where
  tag
  progress := .queued (service.plan.commands tag)

/-- Lets a deploy take its next step. -/
def advance {World : Type} (system : System World) (service : Service) (deploy : Deploy)
    (world : World) : Report World Deploy :=
  match deploy.progress with
  -- The first step announces the deploy and looks at all commands before any runs.
  | .queued commands => ⟨world, [service.started], { deploy with progress := .checked commands }⟩
  | .running _ output [] =>
    ⟨world, [], { deploy with progress := .ended (.ok (.succeeded output)) }⟩
  | .running step output (command :: rest) =>
    if command.redirects then
      ⟨world, [], { deploy with progress := .ended (.error ⟨command.text⟩) }⟩
    else
      ⟨world, [service.runner.starting command],
        { deploy with progress := .waiting step output command rest }⟩
  | .waiting step output command rest =>
    let report := service.runner.run system command world
    let (log, progress) := Progress.after step output command rest report.value
    -- That the command starts is logged already.
    ⟨report.world, report.log.drop 1 ++ log,
      { deploy with progress, history := deploy.history ++ [(command, report.value)] }⟩
  | .ended _ => ⟨world, [], deploy⟩

end Deploy

end Rollout.Http
