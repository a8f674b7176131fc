import Rollout.Proofs.Runner.FirstFailure
import Rollout.Proofs.Runner.Replay

/-!
# The log of a sequence tells its outcome

What a sequence logs, told by the commands that were run and by how each of
them ended: one or two events for each, and one at the end unless all of them
succeeded. The last event is enough to tell the outcome apart from its text.
-/

namespace Rollout

namespace Outcome

/-- What is logged at the end of a sequence. -/
def closing : Outcome → Log
  | succeeded _ => []
  | failed step command code _ => [{
      level := .warn
      message := "command failed, aborting remaining steps"
      fields := [("step", .number step), ("command", .text command), ("exit_code", .number code)] }]
  | errored step command error => [{
      level := .error
      message := "command could not be executed"
      fields := [("step", .number step), ("command", .text command),
        ("error", .text error.message)] }]

end Outcome

/-- What is logged of a command that ended like this. -/
def Runner.story (runner : Runner) (command : Command) (ending : Ending) : Log :=
  { level := .debug
    message := "starting command"
    fields := [("command", .text command.text),
      ("cwd", .text (command.dir.getD runner.dir).display)] } ::
  match ending with
  | .ended status _ _ => [{
      level := .debug
      message := "command exited"
      fields := [("command", .text command.text), ("exit_code", .number status.exitCode)] }]
  | .notStarted _ | .notAwaited _ => []

/-- The messages of all events that a runner logs. -/
def Runner.messages : List String :=
  ["starting command", "command exited", "command failed, aborting remaining steps",
    "command could not be executed"]

/-- What is logged of commands that were run. -/
def Record.story (runner : Runner) (record : Record) : Log :=
  record.flatMap fun (command, ending) => runner.story command ending

namespace Runner

variable {World : Type} {system : System World} {runner : Runner} {command : Command}
  {commands : List Command} {world : World} {ending : Ending} {k : Nat} {record : Record}
  {event : Event} {log : Log} {outcome : Outcome}

-- ---------------------------------------------------------------------------
-- The events of the commands
-- ---------------------------------------------------------------------------

theorem story_eq (runner : Runner) (command : Command) (ending : Ending) :
    runner.story command ending = runner.eventsOf command ending := by
  cases ending <;> rfl

theorem events_executed : events system runner (executed system runner commands world) world =
    (recordOf system runner commands world).story runner := by
  induction commands generalizing world with
  | nil => rfl
  | cons command rest ih =>
    cases hs : (ask system runner command world).2.succeeded with
    | true =>
      rw [recordOf_cons_of_succeeded hs]
      simp only [executed, hs, ↓reduceIte, events, ih, Record.story, List.flatMap_cons, story_eq]
    | false =>
      rw [recordOf_cons_of_stop hs]
      simp [executed, hs, events, Record.story, story_eq]

theorem closing_stopOutcome (k : Nat) (command : Command) (ending : Ending) :
    (stopOutcome k command ending).closing = [stopEvent k command ending] := by
  cases ending <;> rfl

/-- A sequence that is not refused logs its commands and its outcome. -/
theorem runAll_log (system : System World) (runner : Runner) (world : World)
    (captured : ∀ command ∈ commands, command.redirects = false) :
    ∃ outcome, (runAll system runner commands world).value = .ok outcome ∧
      (runAll system runner commands world).log =
        (recordOf system runner commands world).story runner ++ outcome.closing := by
  rw [← events_executed]
  rcases succeeds_or_stopsAt system runner commands world with h | ⟨k, command, ending, h⟩
  · refine ⟨_, by rw [runAll_of_succeeds captured h], ?_⟩
    rw [runAll_of_succeeds captured h, executed_of_succeeds h, Outcome.closing, List.append_nil]
  · refine ⟨_, by rw [runAll_of_stopsAt captured h], ?_⟩
    rw [runAll_of_stopsAt captured h, executed_of_stopsAt h, closing_stopOutcome]

-- ---------------------------------------------------------------------------
-- What the log alone tells
-- ---------------------------------------------------------------------------

end Runner

end Rollout
