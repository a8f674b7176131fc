import Rollout.Proofs.Runner.FirstFailure
import Rollout.Proofs.Runner.Refusal
import Rollout.Proofs.Vars

/-!
# What a command is started with

A program, its arguments, a directory and entries over those the system has.
`Starts` says where each of them comes from: the command first, then the
runner. Of a sequence every command is started so, and nothing of the others
is in it (`runAll_starts_each`).
-/

namespace Rollout.Runner

/-- `request` is what a runner starts `command` with. The entries are those of
the runner and then those of the command, each in any order, and a name that
both leave out keeps what the system has under it. -/
structure Starts (runner : Runner) (command : Command) (request : Request) : Prop where
  program : request.program = command.program
  args : request.args = command.args
  own_dir : ∀ dir, command.dir = some dir → request.dir = dir
  shared_dir : command.dir = none → request.dir = runner.dir
  env : ∀ first second, first.Perm runner.env.toList → second.Perm command.env.toList →
    request.env = (Vars.empty.putAll first).putAll second
  entry : ∀ inherited name, (request.environment inherited).get? name =
    ((command.env.get? name).or (runner.env.get? name)).or (inherited.get? name)

variable {World : Type} {system : System World} {runner : Runner} {command : Command}
  {commands others : List Command} {world : World} {asked : List Request} {request : Request}
  {k : Nat}

theorem request_starts (runner : Runner) (command : Command) :
    runner.Starts command (runner.request command) where
  program := rfl
  args := rfl
  own_dir dir h := by simp [request, dirOf, h]
  shared_dir h := by simp [request, dirOf, h]
  env first second hfirst hsecond := by
    rw [Vars.putAll_perm _ hfirst, Vars.putAll_perm _ hsecond, Vars.empty_overlay]
    rfl
  entry inherited name := by
    rw [Request.environment, Vars.get?_overlay, request, Vars.get?_overlay]

-- ---------------------------------------------------------------------------
-- The requests of a sequence
-- ---------------------------------------------------------------------------

theorem run_asks (captured : command.redirects = false) :
    (run system.recording runner command (world, asked)).world.2 =
      asked ++ [runner.request command] := by
  rw [run_recording]
  simp [captured]

/-- A refused sequence asks for nothing, any other for the commands that are
run. -/
theorem runAll_asks (system : System World) (runner : Runner) (commands : List Command)
    (world : World) :
    (runAll system.recording runner commands (world, [])).world.2 =
      if commands.any Command.redirects then []
      else (executed system runner commands world).map runner.request := by
  cases hfind : commands.find? Command.redirects with
  | some command =>
    have hany : commands.any Command.redirects = true :=
      List.any_eq_true.2 ⟨command, List.mem_of_find?_eq_some hfind, List.find?_some hfind⟩
    rw [runAll_of_find hfind, if_pos hany]
  | none =>
    have captured := find?_redirects_eq_none_iff.1 hfind
    have hany : ¬ commands.any Command.redirects = true := by simpa using captured
    rw [runAll_asked captured, if_neg hany]
    rfl

theorem request_of_asked
    (h : (runAll system.recording runner commands (world, [])).world.2[k]? = some request) :
    ∃ command, commands[k]? = some command ∧ request = runner.request command := by
  rw [runAll_asks] at h
  split at h
  · simp at h
  · rw [List.getElem?_map, Option.map_eq_some_iff] at h
    obtain ⟨command, hcommand, rfl⟩ := h
    obtain ⟨hk, rfl⟩ := List.getElem?_eq_some_iff.1 hcommand
    have hprefix := executed_prefix system runner commands world
    exact ⟨_, List.prefix_iff_getElem?.1 hprefix k hk, rfl⟩

/-- A command that runs is started with its own program, arguments, directory
and entries over what the runner has for all. In a sequence this holds of every
command that is run, and whatever else differs between two sequences, a command
at the same position of both is started with the same. -/
theorem runAll_starts_each (system : System World) (runner : Runner) (commands : List Command)
    (world : World) :
    (∀ command asked, command.redirects = false →
      ∃ request, (run system.recording runner command (world, asked)).world.2 = asked ++ [request] ∧
        runner.Starts command request) ∧
    let asked := (runAll system.recording runner commands (world, [])).world.2
    asked.length = (if commands.any Command.redirects then 0
      else (executed system runner commands world).length) ∧
    (∀ (k : Nat) (request : Request), asked[k]? = some request →
      ∃ command, commands[k]? = some command ∧ runner.Starts command request) ∧
    ∀ (others : List Command) (system' : System World) (world' : World) (k : Nat)
      (request request' : Request),
      others[k]? = commands[k]? → asked[k]? = some request →
      (runAll system'.recording runner others (world', [])).world.2[k]? = some request' →
      request' = request := by
  refine ⟨fun command asked captured => ⟨_, run_asks captured, request_starts runner command⟩,
    ?_, ?_, ?_⟩
  · rw [runAll_asks]
    split <;> simp
  · intro k request h
    obtain ⟨command, hcommand, rfl⟩ := request_of_asked h
    exact ⟨command, hcommand, request_starts runner command⟩
  · intro others system' world' k request request' hsame h h'
    obtain ⟨command, hcommand, rfl⟩ := request_of_asked h
    obtain ⟨other, hother, rfl⟩ := request_of_asked h'
    cases hother.symm.trans (hsame.trans hcommand)
    rfl

end Rollout.Runner
