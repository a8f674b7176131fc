import Rollout.Runner

/-!
# How a sequence goes

Commands put to a system one after another, each in the world that those
before it left: how each of them ends, where the first one fails, and which
are run up to there. `Succeeds` and `StopsAt` are all that can happen
(`succeeds_or_stopsAt`); `executed_of_succeeds` and `executed_of_stopsAt` say
which commands are run in either case. The loop of the runner has no part in
any of this.
-/

namespace Rollout

/-- A child that was started and waited for, and exited with code zero. -/
def Ending.succeeded : Ending → Bool
  | .ended status _ _ => status.exitCode == 0
  | .notStarted _ | .notAwaited _ => false

/-- The text a child leaves; there is none where no child came to an end. -/
def Ending.text : Ending → String
  | .ended status stdout stderr =>
    Runner.compose (Text.lossy stdout) (Text.lossy stderr) (status.exitCode == 0)
  | .notStarted _ | .notAwaited _ => ""

namespace Runner

section
variable {World : Type} (system : System World) (runner : Runner)

/-- What the system answers when a command is put to it. -/
def ask (command : Command) (world : World) : World × Ending :=
  system world (runner.request command)

/-- The world that commands leave, whatever becomes of them. -/
def worldAfter : List Command → World → World
  | [], world => world
  | command :: rest, world => worldAfter rest (ask system runner command world).1

/-- How each of the commands ends. -/
def endings : List Command → World → List Ending
  | [], _ => []
  | command :: rest, world =>
    let answer := ask system runner command world
    answer.2 :: endings rest answer.1

/-- The commands up to and including the first that does not exit with code
zero. -/
def executed : List Command → World → List Command
  | [], _ => []
  | command :: rest, world =>
    let answer := ask system runner command world
    if answer.2.succeeded then command :: executed rest answer.1 else [command]

/-- Every command exits with code zero. -/
def Succeeds (commands : List Command) (world : World) : Prop :=
  ∀ ending ∈ endings system runner commands world, ending.succeeded = true

/-- `command`, at position `k`, is the first that does not exit with code
zero, and `ending` is how it ends in the world that those before it left. -/
structure StopsAt (commands : List Command) (world : World) (k : Nat) (command : Command)
    (ending : Ending) : Prop where
  here : commands[k]? = some command
  ends : (ask system runner command (worldAfter system runner (commands.take k) world)).2 = ending
  fails : ending.succeeded = false
  first : Succeeds system runner (commands.take k) world

instance (commands : List Command) (world : World) :
    Decidable (Succeeds system runner commands world) := by
  unfold Succeeds
  infer_instance

end

section
variable {World : Type} {system : System World} {runner : Runner} {command : Command}
  {commands rest : List Command} {world : World} {ending : Ending} {k : Nat}

-- ---------------------------------------------------------------------------
-- One command after another
-- ---------------------------------------------------------------------------

@[simp] theorem worldAfter_nil : worldAfter system runner [] world = world := rfl

@[simp] theorem worldAfter_cons : worldAfter system runner (command :: rest) world =
    worldAfter system runner rest (ask system runner command world).1 := rfl

@[simp] theorem endings_nil : endings system runner [] world = [] := rfl

@[simp] theorem endings_cons : endings system runner (command :: rest) world =
    (ask system runner command world).2 ::
      endings system runner rest (ask system runner command world).1 := rfl

theorem worldAfter_append (xs ys : List Command) : worldAfter system runner (xs ++ ys) world =
    worldAfter system runner ys (worldAfter system runner xs world) := by
  induction xs generalizing world with
  | nil => rfl
  | cons command rest ih => exact ih

-- ---------------------------------------------------------------------------
-- All succeed, or one is the first that does not
-- ---------------------------------------------------------------------------

theorem succeeds_cons : Succeeds system runner (command :: rest) world ↔
    (ask system runner command world).2.succeeded = true ∧
      Succeeds system runner rest (ask system runner command world).1 := by
  simp [Succeeds]

theorem stopsAt_zero {stopper : Command} :
    StopsAt system runner (command :: rest) world 0 stopper ending ↔
      stopper = command ∧ ending = (ask system runner command world).2 ∧
        ending.succeeded = false := by
  constructor
  · rintro ⟨here, ends, fails, -⟩
    obtain rfl : command = stopper := Option.some.inj here
    exact ⟨rfl, ends.symm, fails⟩
  · rintro ⟨rfl, rfl, fails⟩
    exact ⟨rfl, rfl, fails, by simp [Succeeds]⟩

theorem stopsAt_succ {stopper : Command} :
    StopsAt system runner (command :: rest) world (k + 1) stopper ending ↔
      (ask system runner command world).2.succeeded = true ∧
        StopsAt system runner rest (ask system runner command world).1 k stopper ending := by
  constructor
  · rintro ⟨here, ends, fails, first⟩
    obtain ⟨hs, hrest⟩ := succeeds_cons.1 first
    exact ⟨hs, here, ends, fails, hrest⟩
  · rintro ⟨hs, here, ends, fails, first⟩
    exact ⟨here, ends, fails, succeeds_cons.2 ⟨hs, first⟩⟩

variable (system runner commands world) in
theorem succeeds_or_stopsAt : Succeeds system runner commands world ∨
    ∃ k command ending, StopsAt system runner commands world k command ending := by
  induction commands generalizing world with
  | nil => exact .inl (by simp [Succeeds])
  | cons command rest ih =>
    cases hs : (ask system runner command world).2.succeeded with
    | false => exact .inr ⟨0, command, _, stopsAt_zero.2 ⟨rfl, rfl, hs⟩⟩
    | true =>
      rcases ih (ask system runner command world).1 with h | ⟨k, stopper, ending, h⟩
      · exact .inl (succeeds_cons.2 ⟨hs, h⟩)
      · exact .inr ⟨k + 1, stopper, ending, stopsAt_succ.2 ⟨hs, h⟩⟩

variable (system runner commands world) in
/-- A sequence succeeds, a command of it fails, or one cannot be run. -/
theorem sequence_cases : Succeeds system runner commands world ∨
    (∃ k command status stdout stderr,
      StopsAt system runner commands world k command (.ended status stdout stderr)) ∨
    ∃ k command error, StopsAt system runner commands world k command (.notStarted error) ∨
      StopsAt system runner commands world k command (.notAwaited error) := by
  rcases succeeds_or_stopsAt system runner commands world with h | ⟨k, command, ending, h⟩
  · exact .inl h
  · cases ending with
    | ended status stdout stderr => exact .inr (.inl ⟨k, command, status, stdout, stderr, h⟩)
    | notStarted error => exact .inr (.inr ⟨k, command, error, .inl h⟩)
    | notAwaited error => exact .inr (.inr ⟨k, command, error, .inr h⟩)

theorem StopsAt.exitCode_ne_zero {status : WaitStatus} {stdout stderr : Text.Bytes}
    (h : StopsAt system runner commands world k command (.ended status stdout stderr)) :
    status.exitCode ≠ 0 := by
  simpa [Ending.succeeded] using h.fails

-- ---------------------------------------------------------------------------
-- The commands that are run
-- ---------------------------------------------------------------------------

theorem executed_of_succeeds (h : Succeeds system runner commands world) :
    executed system runner commands world = commands := by
  induction commands generalizing world with
  | nil => rfl
  | cons command rest ih =>
    obtain ⟨hs, hrest⟩ := succeeds_cons.1 h
    simp [executed, hs, ih hrest]

theorem executed_of_stopsAt (h : StopsAt system runner commands world k command ending) :
    executed system runner commands world = commands.take (k + 1) := by
  induction commands generalizing world k with
  | nil => simpa using h.here
  | cons first rest ih =>
    cases k with
    | zero =>
      obtain ⟨-, rfl, hf⟩ := stopsAt_zero.1 h
      simp [executed, hf]
    | succ k =>
      obtain ⟨hs, hrest⟩ := stopsAt_succ.1 h
      simp [executed, hs, ih hrest]

variable (system runner commands world) in
theorem executed_prefix : executed system runner commands world <+: commands := by
  rcases succeeds_or_stopsAt system runner commands world with h | ⟨k, command, ending, h⟩
  · exact ⟨[], by rw [executed_of_succeeds h, List.append_nil]⟩
  · rw [executed_of_stopsAt h]
    exact List.take_prefix (k + 1) commands

end

end Runner

end Rollout
