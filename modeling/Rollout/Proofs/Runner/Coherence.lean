import Rollout.Proofs.Runner.FirstFailure

/-!
# Outcomes are coherent

What can be asked of an outcome agrees with what else can be asked of it, and
with the commands it is the outcome of. Any outcome can be written down, so this
is a law of those that sequences come to: a failure is one only where the code is
not zero, and the position is that of a command of the sequence.
-/

namespace Rollout

namespace Outcome

/-- The parts of an outcome of these commands agree with each other. -/
structure Coherent (commands : List Command) (outcome : Outcome) : Prop where
  code_zero : outcome.exitCode = some 0 ↔ outcome.success = true
  no_step : outcome.failedStep = none ↔ outcome.success = true
  no_code : outcome.exitCode = none ↔
    ∃ step command error, outcome = .errored step command error
  failure_code : ∀ code, outcome.success = false → outcome.exitCode = some code → code ≠ 0
  /-- A position is that of the command whose text stands beside it. -/
  step : ∀ k, outcome.failedStep = some k → ∃ command, commands[k]? = some command ∧
    ((∃ code output, outcome = .failed k command.text code output) ∨
      ∃ error, outcome = .errored k command.text error)
  text : outcome.intoOutput = outcome.output

variable {commands : List Command} {command : Command} {output : String} {k : Nat} {code : Int}

theorem intoOutput_eq (outcome : Outcome) : outcome.intoOutput = outcome.output := by
  cases outcome <;> rfl

theorem coherent_succeeded : Coherent commands (.succeeded output) where
  code_zero := by simp [exitCode, success]
  no_step := by simp [failedStep, success]
  no_code := by simp [exitCode]
  failure_code := by simp [success]
  step := by simp [failedStep]
  text := intoOutput_eq _

theorem coherent_failed (here : commands[k]? = some command) (h : code ≠ 0) :
    Coherent commands (.failed k command.text code output) where
  code_zero := by simp [exitCode, success, h]
  no_step := by simp [failedStep, success]
  no_code := by simp [exitCode]
  failure_code := by
    rintro _ - ⟨⟩
    exact h
  step := by
    rintro _ ⟨⟩
    exact ⟨command, here, .inl ⟨code, output, rfl⟩⟩
  text := intoOutput_eq _

theorem coherent_errored {error : ProcessError} (here : commands[k]? = some command) :
    Coherent commands (.errored k command.text error) where
  code_zero := by simp [exitCode, success]
  no_step := by simp [failedStep, success]
  no_code := by simp [exitCode]
  failure_code := by simp [exitCode]
  step := by
    rintro _ ⟨⟩
    exact ⟨command, here, .inr ⟨error, rfl⟩⟩
  text := intoOutput_eq _

/-- A failure with code zero can be written down, but it is none. -/
theorem not_coherent_of_zero {step : Nat} {text : String} :
    ¬ Coherent commands (.failed step text 0 output) := by
  intro coherent
  cases coherent.code_zero.1 rfl

end Outcome

namespace Runner

variable {World : Type} {system : System World} {runner : Runner} {command : Command}
  {commands : List Command} {world : World} {ending : Ending} {k : Nat}

/-- What running each command answers, in the world that those before it
left. -/
def answers (system : System World) (runner : Runner) :
    List Command → World → List (Except Refusal (Except ProcessError Finished))
  | [], _ => []
  | command :: rest, world =>
    let report := run system runner command world
    report.value :: answers system runner rest report.world

/-- The command ran, and exited with code zero. -/
def ExitedZero (answer : Except Refusal (Except ProcessError Finished)) : Prop :=
  ∃ finished, answer = .ok (.ok finished) ∧ finished.exitCode = 0

theorem exitedZero_resultOf_iff :
    ExitedZero (.ok (resultOf command ending)) ↔ ending.succeeded = true := by
  cases ending with
  | ended status stdout stderr => simp [ExitedZero, resultOf, Ending.succeeded]
  | _ => simp [ExitedZero, resultOf, Ending.succeeded]

theorem all_exitedZero_iff (captured : ∀ command ∈ commands, command.redirects = false) :
    (∀ answer ∈ answers system runner commands world, ExitedZero answer) ↔
      Succeeds system runner commands world := by
  induction commands generalizing world with
  | nil => simp [answers, Succeeds]
  | cons command rest ih =>
    obtain ⟨hc, hcs⟩ := List.forall_mem_cons.1 captured
    simp only [answers, List.forall_mem_cons, run_of_captured hc, exitedZero_resultOf_iff, ih hcs,
      succeeds_cons]

theorem not_succeeds_of_stopsAt (h : StopsAt system runner commands world k command ending) :
    ¬ Succeeds system runner commands world := by
  induction commands generalizing world k with
  | nil => simpa using h.here
  | cons first rest ih =>
    rw [succeeds_cons]
    rintro ⟨hs, hrest⟩
    cases k with
    | zero =>
      obtain ⟨-, rfl, hf⟩ := stopsAt_zero.1 h
      cases hs.symm.trans hf
    | succ k => exact ih (stopsAt_succ.1 h).2 hrest

theorem coherent_stopOutcome (h : StopsAt system runner commands world k command ending) :
    (stopOutcome k command ending).Coherent commands := by
  cases ending with
  | ended status stdout stderr => exact Outcome.coherent_failed h.here h.exitCode_ne_zero
  | notStarted error => exact Outcome.coherent_errored h.here
  | notAwaited error => exact Outcome.coherent_errored h.here

theorem coherent_of_value (captured : ∀ command ∈ commands, command.redirects = false)
    {outcome : Outcome} (h : (runAll system runner commands world).value = .ok outcome) :
    outcome.Coherent commands := by
  rcases succeeds_or_stopsAt system runner commands world with hs | ⟨k, command, ending, hs⟩
  · rw [runAll_of_succeeds captured hs] at h
    cases h
    exact Outcome.coherent_succeeded
  · rw [runAll_of_stopsAt captured hs] at h
    cases h
    exact coherent_stopOutcome hs

theorem success_stopOutcome (k : Nat) (command : Command) (ending : Ending) :
    (stopOutcome k command ending).success = false := by
  cases ending <;> rfl

/-- The outcome that a sequence comes to is coherent, and it is a success exactly
if every command of the sequence ran and exited with code zero. Not every outcome
is: no sequence comes to a failure with code zero. -/
theorem runAll_coherent (system : System World) (runner : Runner) (commands : List Command)
    (world : World) (captured : ∀ command ∈ commands, command.redirects = false) :
    ∃ outcome, (runAll system runner commands world).value = .ok outcome ∧
      outcome.Coherent commands ∧
      (outcome.success = true ↔
        ∀ answer ∈ answers system runner commands world, ExitedZero answer) ∧
      ∀ step text output, ¬ (Outcome.failed step text 0 output).Coherent commands := by
  rw [all_exitedZero_iff captured]
  rcases succeeds_or_stopsAt system runner commands world with h | ⟨k, command, ending, h⟩
  · refine ⟨_, by rw [runAll_of_succeeds captured h], Outcome.coherent_succeeded, ?_,
      fun _ _ _ => Outcome.not_coherent_of_zero⟩
    exact iff_of_true rfl h
  · refine ⟨_, by rw [runAll_of_stopsAt captured h], coherent_stopOutcome h, ?_,
      fun _ _ _ => Outcome.not_coherent_of_zero⟩
    rw [success_stopOutcome]
    exact iff_of_false Bool.false_ne_true (not_succeeds_of_stopsAt h)

/-- Of three commands the second fails: the code is its own, and the position
is where its text stands. -/
theorem runAll_coherent_second :
    let commands := [Command.new "fetch", Command.new "build", Command.new "restart"]
    let outcome := Outcome.failed 1 "build" 3 "out\n\nerr"
    (∀ command ∈ commands, command.redirects = false) ∧
    (runAll (failingAt "build") {} commands 0).value = .ok outcome ∧
    outcome.Coherent commands ∧
    ¬ ∀ answer ∈ answers (failingAt "build") {} commands 0, ExitedZero answer := by
  intro commands outcome
  have captured : ∀ command ∈ commands, command.redirects = false := by decide
  have hvalue : (runAll (failingAt "build") {} commands 0).value = .ok outcome := rfl
  obtain ⟨reached, hreached, coherent, success, -⟩ :=
    runAll_coherent (failingAt "build") {} commands 0 captured
  obtain rfl : reached = outcome := Except.ok.inj (hreached.symm.trans hvalue)
  exact ⟨captured, hvalue, coherent, fun all => by cases success.2 all⟩

end Runner

end Rollout
