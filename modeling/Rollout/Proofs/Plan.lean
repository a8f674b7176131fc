import Rollout.Plan
import Rollout.Proofs.Runner.FirstFailure

/-!
# What a plan is made of

Every command of a plan is a program with its arguments and nothing else, so
all of them run where the runner runs them and none is ever refused. What a
system is asked for by a deploy is read off the settings (`map_request`). A tag
is one argument of one command: the plans for two tags are the same elsewhere
(`commands_of_tag`).
-/

namespace Rollout

theorem Command.plain_of_ofWords? {words : List String} {command : Command}
    (h : ofWords? words = some command) : ∃ program args, command = { program, args } := by
  cases words with
  | nil => cases h
  | cons program args => exact ⟨program, args, (Option.some.inj h).symm⟩

namespace Plan

theorem commands_plain (config : DeployConfig) (tag : String) :
    ∀ command ∈ (ofConfig config).commands tag, ∃ program args, command = { program, args } := by
  intro command hm
  simp only [commands, ofConfig, List.mem_append, List.mem_cons, List.not_mem_nil, or_false,
    Option.mem_toList] at hm
  obtain (rfl | rfl | rfl) | hscript | hrestart := or_assoc.1 hm
  · exact ⟨_, _, rfl⟩
  · exact ⟨_, _, rfl⟩
  · exact ⟨_, _, rfl⟩
  · exact Command.plain_of_ofWords? hscript
  · exact Command.plain_of_ofWords? hrestart

theorem commands_captured (config : DeployConfig) (tag : String) :
    ∀ command ∈ (ofConfig config).commands tag, command.redirects = false := by
  intro command hm
  obtain ⟨program, args, rfl⟩ := commands_plain config tag command hm
  rfl

end Plan

/-- What a system is asked for by a deploy of `tag`, in order. Of the words for
the script and for the restart there may be none. -/
def DeployConfig.requests (config : DeployConfig) (tag : String) : List Request :=
  [[config.git, "fetch", config.remote], [config.git, "fetch", "--tags", config.remote],
    [config.git, "checkout", tag], config.script, config.restart].filterMap fun words =>
      match words with
      | [] => none
      | program :: args => some { program, args, dir := config.dir, env := config.env }

theorem Plan.map_request (config : DeployConfig) (tag : String) :
    ((ofConfig config).commands tag).map (Runner.ofConfig config).request =
      config.requests tag := by
  cases hscript : config.script <;> cases hrestart : config.restart <;>
    simp [commands, ofConfig, Command.ofWords?, DeployConfig.requests, hscript, hrestart,
      Command.new, Command.withArgs, Runner.request, Runner.ofConfig, Runner.dirOf, Vars.overlay,
      Vars.empty]

namespace Plan

variable {config : DeployConfig} {command : Command} {tag : String}

theorem request_of_plain (h : command ∈ (ofConfig config).commands tag) :
    (Runner.ofConfig config).request command =
      { program := command.program, args := command.args, dir := config.dir, env := config.env } := by
  obtain ⟨program, args, rfl⟩ := commands_plain config tag command h
  rfl

theorem words_of_ofWords? (words : List String) :
    (Command.ofWords? words).toList.map Command.words = [words].filter (· ≠ []) := by
  cases words <;> rfl

variable (config) in
/-- The words of a plan; an optional step that has none is left out. -/
theorem words_commands (tag : String) :
    ((ofConfig config).commands tag).map Command.words =
      [[config.git, "fetch", config.remote], [config.git, "fetch", "--tags", config.remote],
        [config.git, "checkout", tag]] ++ [config.script, config.restart].filter (· ≠ []) := by
  have hoptional : [config.script, config.restart].filter (· ≠ []) =
      [config.script].filter (· ≠ []) ++ [config.restart].filter (· ≠ []) :=
    List.filter_append [config.script] [config.restart]
  rw [hoptional, ← words_of_ofWords?, ← words_of_ofWords?, commands, List.map_append,
    List.map_append, List.append_assoc]
  rfl

/-- The plans for two tags have as many commands and are the same but for the
last argument of the checkout, which is the tag. The words are those of the
settings in their order, no command has anything but words, and so all of them
run in the directory and with the entries of the settings, on any system and
without a refusal. -/
theorem commands_of_tag (config : DeployConfig) (tag other : String) :
    let plan := ofConfig config
    let runner := Runner.ofConfig config
    let asked (command : Command) : Request :=
      { program := command.program, args := command.args, dir := config.dir, env := config.env }
    (plan.commands other).length = (plan.commands tag).length ∧
    plan.commands other = (plan.commands tag).modify 2 (fun command =>
      { command with args := command.args.dropLast ++ [other] }) ∧
    (plan.commands tag)[2]? = some { program := config.git, args := ["checkout", tag] } ∧
    (plan.commands tag).map Command.words =
      [[config.git, "fetch", config.remote], [config.git, "fetch", "--tags", config.remote],
        [config.git, "checkout", tag]] ++ [config.script, config.restart].filter (· ≠ []) ∧
    (∀ command ∈ plan.commands tag, command.dir = none ∧ command.env = .empty ∧
      command.stdout = none ∧ command.stderr = none ∧ runner.request command = asked command) ∧
    ∀ (World : Type) (system : System World) (world : World),
      (∃ outcome, (runner.runAll system (plan.commands tag) world).value = .ok outcome) ∧
      (runner.runAll system.recording (plan.commands tag) (world, [])).world.2 <+:
        (plan.commands tag).map asked := by
  intro plan runner asked
  have hmodify : plan.commands other = (plan.commands tag).modify 2 (fun command =>
      { command with args := command.args.dropLast ++ [other] }) := rfl
  have captured : ∀ command ∈ plan.commands tag, command.redirects = false :=
    commands_captured config tag
  refine ⟨by rw [hmodify, List.length_modify], hmodify, rfl, words_commands config tag, ?_, ?_⟩
  · intro command h
    have hrequest := request_of_plain h
    obtain ⟨program, args, rfl⟩ := commands_plain config tag command h
    exact ⟨rfl, rfl, rfl, rfl, hrequest⟩
  · intro World system world
    refine ⟨Runner.runAll_ok system runner world captured, ?_⟩
    have hmap : (plan.commands tag).map asked = (plan.commands tag).map runner.request :=
      List.map_congr_left fun command h => (request_of_plain h).symm
    rw [Runner.runAll_asked captured, List.nil_append, hmap]
    exact (Runner.executed_prefix system runner _ world).map runner.request

end Plan

end Rollout
