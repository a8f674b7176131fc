import Rollout.Proofs.Runner.Sequence

/-!
# What the runner makes of a sequence

The loop of the runner against the sequence put to the system command by
command. A report is given as a whole: the world, the log and the value of a
sequence that succeeds (`runFrom_of_succeeds`) and of one that a command stops
(`runFrom_of_stopsAt`), from any position and after any text.
-/

namespace Rollout.Runner

/-- What a run of a command logs. -/
def eventsOf (runner : Runner) (command : Command) : Ending → Log
  | .ended status _ _ => [runner.starting command, exited command status.exitCode]
  | .notStarted _ | .notAwaited _ => [runner.starting command]

/-- What the runs of commands log. -/
def events {World : Type} (system : System World) (runner : Runner) :
    List Command → World → Log
  | [], _ => []
  | command :: rest, world =>
    let answer := ask system runner command world
    runner.eventsOf command answer.2 ++ events system runner rest answer.1

/-- What a sequence comes to that the command at `step` stops. -/
def stopOutcome (step : Nat) (command : Command) : Ending → Outcome
  | .notStarted error => .errored step command.text ⟨.spawn, command.program, error⟩
  | .notAwaited error => .errored step command.text ⟨.wait, command.program, error⟩
  | .ended status stdout stderr =>
    .failed step command.text status.exitCode
      (Text.lossy stdout ++ separator ++ Text.lossy stderr)

/-- What is logged of a command that stops a sequence. -/
def stopEvent (step : Nat) (command : Command) : Ending → Event
  | .notStarted error => erring step command ⟨.spawn, command.program, error⟩
  | .notAwaited error => erring step command ⟨.wait, command.program, error⟩
  | .ended status _ _ => failing step command status.exitCode

variable {World : Type} {system : System World} {runner : Runner} {command : Command}
  {commands rest : List Command} {world : World} {ending : Ending} {step k : Nat} {output : String}

-- ---------------------------------------------------------------------------
-- One command
-- ---------------------------------------------------------------------------

theorem run_of_captured (captured : command.redirects = false) :
    run system runner command world =
      ⟨(ask system runner command world).1,
        runner.eventsOf command (ask system runner command world).2,
        .ok (resultOf command (ask system runner command world).2)⟩ := by
  simp only [run, captured, Bool.false_eq_true, ↓reduceIte, ask]
  cases (system world (runner.request command)).2 <;> rfl

theorem resultOf_of_succeeded (h : ending.succeeded = true) :
    resultOf command ending = .ok ⟨ending.text, 0⟩ := by
  cases ending with
  | ended status stdout stderr =>
    have hcode : status.exitCode = 0 := by simpa [Ending.succeeded] using h
    simp [resultOf, Ending.text, hcode]
  | _ => simp [Ending.succeeded] at h

/-- A failure shows both streams, whatever they hold. -/
theorem compose_of_failure (stdout stderr : String) :
    compose stdout stderr false = stdout ++ separator ++ stderr := rfl

theorem runFrom_cons_of_succeeded (captured : command.redirects = false)
    (h : (ask system runner command world).2.succeeded = true) :
    runFrom system runner step output (command :: rest) world =
      let others := runFrom system runner (step + 1)
        (output ++ (ask system runner command world).2.text) rest
        (ask system runner command world).1
      ⟨others.world,
        runner.eventsOf command (ask system runner command world).2 ++ others.log,
        others.value⟩ := by
  simp [runFrom, run_of_captured captured, resultOf_of_succeeded h, Finished.success]

theorem runFrom_cons_of_stop (captured : command.redirects = false)
    (h : (ask system runner command world).2.succeeded = false) :
    runFrom system runner step output (command :: rest) world =
      ⟨(ask system runner command world).1,
        runner.eventsOf command (ask system runner command world).2 ++
          [stopEvent step command (ask system runner command world).2],
        .ok (stopOutcome step command (ask system runner command world).2)⟩ := by
  simp only [runFrom, run_of_captured captured]
  cases hending : (ask system runner command world).2 with
  | ended status stdout stderr =>
    have hcode : (status.exitCode == 0) = false := by simpa [hending, Ending.succeeded] using h
    simp [resultOf, Finished.success, hcode, compose_of_failure, stopOutcome, stopEvent]
  | _ => rfl

-- ---------------------------------------------------------------------------
-- A sequence
-- ---------------------------------------------------------------------------

theorem runFrom_of_succeeds (captured : ∀ command ∈ commands, command.redirects = false)
    (h : Succeeds system runner commands world) :
    runFrom system runner step output commands world =
      ⟨worldAfter system runner commands world, events system runner commands world,
        .ok (.succeeded (output ++
          String.join ((endings system runner commands world).map Ending.text)))⟩ := by
  induction commands generalizing step output world with
  | nil => simp [runFrom, events]
  | cons command rest ih =>
    obtain ⟨hs, hrest⟩ := succeeds_cons.1 h
    obtain ⟨hc, hcs⟩ := List.forall_mem_cons.1 captured
    rw [runFrom_cons_of_succeeded hc hs, ih hcs hrest]
    simp [events, String.append_assoc]

/-- The text of the commands before a stop is gone; their worlds and their
events are not. -/
theorem runFrom_of_stopsAt (captured : ∀ command ∈ commands, command.redirects = false)
    (h : StopsAt system runner commands world k command ending) :
    runFrom system runner step output commands world =
      ⟨worldAfter system runner (commands.take (k + 1)) world,
        events system runner (commands.take (k + 1)) world ++ [stopEvent (step + k) command ending],
        .ok (stopOutcome (step + k) command ending)⟩ := by
  -- Each success in front of the stop moves the position by one; what it adds
  -- to the text is lost when the stop is reached.
  induction commands generalizing step output world k with
  | nil => simpa using h.here
  | cons first rest ih =>
    obtain ⟨hc, hcs⟩ := List.forall_mem_cons.1 captured
    cases k with
    | zero =>
      obtain ⟨rfl, rfl, hf⟩ := stopsAt_zero.1 h
      rw [runFrom_cons_of_stop hc hf]
      simp [events]
    | succ k =>
      obtain ⟨hs, hrest⟩ := stopsAt_succ.1 h
      rw [runFrom_cons_of_succeeded hc hs, ih hcs hrest]
      simp [events, Nat.add_assoc, Nat.add_comm 1 k]

variable (system runner) in
/-- A loop over commands that ask for no target comes to an outcome, wherever
it begins. -/
theorem runFrom_ok (captured : ∀ command ∈ commands, command.redirects = false)
    (step : Nat) (output : String) (world : World) :
    ∃ outcome, (runFrom system runner step output commands world).value = .ok outcome := by
  rcases succeeds_or_stopsAt system runner commands world with h | ⟨k, command, ending, h⟩
  · exact ⟨_, by rw [runFrom_of_succeeds captured h]⟩
  · exact ⟨_, by rw [runFrom_of_stopsAt captured h]⟩

/-- The look at all commands finds nothing. -/
theorem find?_redirects_eq_none_iff : commands.find? Command.redirects = none ↔
    ∀ command ∈ commands, command.redirects = false := by
  simp

theorem runAll_of_captured (captured : ∀ command ∈ commands, command.redirects = false) :
    runAll system runner commands world = runFrom system runner 0 "" commands world := by
  simp only [runAll, find?_redirects_eq_none_iff.2 captured]

theorem runAll_of_succeeds (captured : ∀ command ∈ commands, command.redirects = false)
    (h : Succeeds system runner commands world) :
    runAll system runner commands world =
      ⟨worldAfter system runner commands world, events system runner commands world,
        .ok (.succeeded (String.join ((endings system runner commands world).map Ending.text)))⟩ := by
  rw [runAll_of_captured captured, runFrom_of_succeeds captured h, String.empty_append]

theorem runAll_of_stopsAt (captured : ∀ command ∈ commands, command.redirects = false)
    (h : StopsAt system runner commands world k command ending) :
    runAll system runner commands world =
      ⟨worldAfter system runner (commands.take (k + 1)) world,
        events system runner (commands.take (k + 1)) world ++ [stopEvent k command ending],
        .ok (stopOutcome k command ending)⟩ := by
  rw [runAll_of_captured captured, runFrom_of_stopsAt captured h, Nat.zero_add]

variable (system runner world) in
theorem runAll_ok (captured : ∀ command ∈ commands, command.redirects = false) :
    ∃ outcome, (runAll system runner commands world).value = .ok outcome := by
  rw [runAll_of_captured captured]
  exact runFrom_ok system runner captured 0 "" world

/-- Whatever becomes of a sequence, the world it leaves is that of the
commands that are run. -/
theorem runAll_world (captured : ∀ command ∈ commands, command.redirects = false) :
    (runAll system runner commands world).world =
      worldAfter system runner (executed system runner commands world) world := by
  rcases succeeds_or_stopsAt system runner commands world with h | ⟨k, command, ending, h⟩
  · rw [runAll_of_succeeds captured h, executed_of_succeeds h]
  · rw [runAll_of_stopsAt captured h, executed_of_stopsAt h]

end Rollout.Runner
