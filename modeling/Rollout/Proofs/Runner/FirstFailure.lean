import Rollout.Proofs.Runner.Recording
import Rollout.Proofs.Runner.RunLaws

/-!
# A sequence stops at its first failure

The outcome of a sequence told by the first command that does not exit with
code zero. It keeps the texts of all commands where there is none, and tells
of that command alone where there is one; commands behind it are not asked of
the system.
-/

namespace Rollout.Runner

variable {World : Type} {system : System World} {runner : Runner} {commands : List Command}
  {world : World}

/-- The requests that reach the system are those of the commands that are
run. -/
theorem runAll_asked (captured : ∀ command ∈ commands, command.redirects = false)
    (asked : List Request) :
    (runAll system.recording runner commands (world, asked)).world =
      (worldAfter system runner (executed system runner commands world) world,
        asked ++ (executed system runner commands world).map runner.request) := by
  rw [runAll_world captured, executed_recording, worldAfter_recording]

/-- A sequence of commands either succeeds as a whole or has a first command
that does not exit with code zero, and both ways the report is settled. The
output of a success is the texts of all commands in order. A failure shows the
two streams of the command that failed, an error is that of starting or of
awaiting it; either carries its position and its text. -/
theorem runAll_first_failure (system : System World) (runner : Runner) (commands : List Command)
    (world : World) (captured : ∀ command ∈ commands, command.redirects = false) :
    let report := runAll system runner commands world
    let asked := (runAll system.recording runner commands (world, [])).world.2
    (Succeeds system runner commands world ∨
      ∃ k command ending, StopsAt system runner commands world k command ending) ∧
    (Succeeds system runner commands world →
      report.value =
        .ok (.succeeded (String.join ((endings system runner commands world).map Ending.text))) ∧
      report.world = worldAfter system runner commands world ∧
      asked = commands.map runner.request) ∧
    ∀ k command ending, StopsAt system runner commands world k command ending →
      (∀ status stdout stderr, ending = .ended status stdout stderr →
        status.exitCode ≠ 0 ∧
        report.value = .ok (.failed k command.text status.exitCode
          (Text.lossy stdout ++ "\n\n" ++ Text.lossy stderr))) ∧
      (∀ error, ending = .notStarted error →
        report.value = .ok (.errored k command.text ⟨.spawn, command.program, error⟩)) ∧
      (∀ error, ending = .notAwaited error →
        report.value = .ok (.errored k command.text ⟨.wait, command.program, error⟩)) ∧
      report.world = worldAfter system runner (commands.take (k + 1)) world ∧
      asked = (commands.take (k + 1)).map runner.request := by
  intro report asked
  have hasked : asked = (executed system runner commands world).map runner.request := by
    simp [asked, runAll_asked captured]
  refine ⟨succeeds_or_stopsAt system runner commands world, ?_, ?_⟩
  · intro h
    have hreport : report = _ := runAll_of_succeeds captured h
    rw [hasked, hreport, executed_of_succeeds h]
    exact ⟨rfl, rfl, rfl⟩
  · intro k command ending h
    have hreport : report = _ := runAll_of_stopsAt captured h
    rw [hasked, hreport, executed_of_stopsAt h]
    refine ⟨?_, ?_, ?_, rfl, rfl⟩
    · rintro status stdout stderr rfl
      exact ⟨h.exitCode_ne_zero, rfl⟩
    · rintro error rfl
      rfl
    · rintro error rfl
      rfl

/-- A system that counts, on which one program alone fails. -/
def failingAt (program : String) : System Nat := fun count request =>
  (count + 1,
    if request.program = program then .ended (.exited 3) (Text.encode "out") (Text.encode "err")
    else .ended (.exited 0) (Text.encode "done") [])

/-- Of three commands the second fails: its position, code and streams are
told, and the third is not asked. -/
theorem runAll_first_failure_second :
    let commands := [Command.new "fetch", Command.new "build", Command.new "restart"]
    (∀ command ∈ commands, command.redirects = false) ∧
    (runAll (failingAt "build") {} commands 0).value = .ok (.failed 1 "build" 3 "out\n\nerr") ∧
    (runAll (failingAt "build") {} commands 0).world = 2 := by
  intro commands
  have captured : ∀ command ∈ commands, command.redirects = false := by decide
  have stop : StopsAt (failingAt "build") {} commands 0 1 (.new "build")
      (.ended (.exited 3) (Text.encode "out") (Text.encode "err")) :=
    ⟨rfl, rfl, by decide, by decide⟩
  obtain ⟨-, -, h⟩ := runAll_first_failure (failingAt "build") {} commands 0 captured
  obtain ⟨hfailed, -, -, hworld, -⟩ := h 1 _ _ stop
  refine ⟨captured, ?_, hworld⟩
  rw [(hfailed _ _ _ rfl).2]
  rfl

end Rollout.Runner
