import Rollout.Proofs.Runner.Recording
import Rollout.Proofs.Runner.RunLaws

/-!
# Refusals come before anything else

Commands are looked at in two places: all of a sequence before the first one
runs, and each again when it runs. The first look decides: a sequence it lets
through is never refused by the second, so a refused sequence has done
nothing.
-/

namespace Rollout

theorem Command.redirects_iff {command : Command} :
    command.redirects = true ↔ command.stdout ≠ none ∨ command.stderr ≠ none := by
  simp [Command.redirects, Option.isSome_iff_ne_none]

theorem Command.not_redirects_iff {command : Command} :
    command.redirects = false ↔ command.stdout = none ∧ command.stderr = none := by
  simp [Command.redirects]

namespace Runner

variable {World : Type} {system : System World} {runner : Runner} {command : Command}
  {commands : List Command} {world : World} {refusal : Refusal}

-- ---------------------------------------------------------------------------
-- The two looks
-- ---------------------------------------------------------------------------

/-- The look at a command when it runs. -/
theorem run_refuses_iff : (run system runner command world).value = .error refusal ↔
    command.redirects = true ∧ refusal = ⟨command.text⟩ := by
  cases hr : command.redirects with
  | false => simp [run_of_captured hr]
  | true => simp [run, hr, eq_comm]

theorem runAll_of_find (h : commands.find? Command.redirects = some command) :
    runAll system runner commands world = ⟨world, [], .error ⟨command.text⟩⟩ := by
  simp only [runAll, h]

/-- The look at all commands. -/
theorem runAll_refuses_iff_find : (runAll system runner commands world).value = .error refusal ↔
    ∃ command, commands.find? Command.redirects = some command ∧ refusal = ⟨command.text⟩ := by
  cases hfind : commands.find? Command.redirects with
  | some command => simp [runAll_of_find hfind, eq_comm]
  | none =>
    have captured := find?_redirects_eq_none_iff.1 hfind
    obtain ⟨outcome, hok⟩ := runFrom_ok system runner captured 0 "" world
    simp [runAll_of_captured captured, hok]

-- ---------------------------------------------------------------------------
-- All or nothing
-- ---------------------------------------------------------------------------

/-- A sequence is refused exactly if one of its commands, wherever it stands,
asks for a target. Then nothing was asked of the system, nothing was logged,
and the message names the first such command. A sequence without such a
command is refused nowhere on its way: neither when one of its commands runs,
in whatever world, nor by the loop, from whatever point. -/
theorem runAll_refuses_iff (system : System World) (runner : Runner) (commands : List Command)
    (world : World) :
    ((∃ refusal, (runAll system runner commands world).value = .error refusal) ↔
      ∃ command ∈ commands, command.stdout ≠ none ∨ command.stderr ≠ none) ∧
    (∀ refusal, (runAll system runner commands world).value = .error refusal →
      (∀ asked, (runAll system.recording runner commands (world, asked)).world = (world, asked)) ∧
      (runAll system runner commands world).world = world ∧
      (runAll system runner commands world).log = [] ∧
      ∃ before command behind, commands = before ++ command :: behind ∧
        (∀ earlier ∈ before, earlier.stdout = none ∧ earlier.stderr = none) ∧
        (command.stdout ≠ none ∨ command.stderr ≠ none) ∧
        refusal.message =
          "stdout and stderr are captured by the runner and cannot be overridden: " ++
            command.text) ∧
    ((∀ command ∈ commands, command.stdout = none ∧ command.stderr = none) →
      (∀ command ∈ commands, ∀ world refusal,
        (run system runner command world).value ≠ .error refusal) ∧
      ∀ step output world, ∃ outcome,
        (runFrom system runner step output commands world).value = .ok outcome) := by
  refine ⟨?_, ?_, ?_⟩
  · simp only [runAll_refuses_iff_find, ← Command.redirects_iff, ← List.find?_isSome,
      Option.isSome_iff_exists]
    constructor
    · rintro ⟨_, command, hfind, rfl⟩
      exact ⟨command, hfind⟩
    · rintro ⟨command, hfind⟩
      exact ⟨_, command, hfind, rfl⟩
  · intro refusal h
    obtain ⟨command, hfind, rfl⟩ := runAll_refuses_iff_find.1 h
    obtain ⟨hredirects, before, behind, hsplit, hbefore⟩ := List.find?_eq_some_iff_append.1 hfind
    refine ⟨fun asked => by rw [runAll_of_find hfind], by rw [runAll_of_find hfind],
      by rw [runAll_of_find hfind], before, command, behind, hsplit, ?_,
      Command.redirects_iff.1 hredirects, rfl⟩
    intro earlier hm
    exact Command.not_redirects_iff.1 (by simpa using hbefore earlier hm)
  · intro captured
    have hcaptured : ∀ command ∈ commands, command.redirects = false :=
      fun command hm => Command.not_redirects_iff.2 (captured command hm)
    refine ⟨fun command hm world refusal h => ?_, runFrom_ok system runner hcaptured⟩
    -- The second look would have to find what the first one did not.
    have hredirects := (run_refuses_iff.1 h).1
    simp [hcaptured command hm] at hredirects

end Runner

end Rollout
