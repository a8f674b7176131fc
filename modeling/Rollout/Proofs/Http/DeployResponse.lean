import Mathlib
import Rollout.Proofs.ExitStatus
import Rollout.Proofs.Http.Handling
import Rollout.Proofs.Http.ReturnCode
import Rollout.Proofs.Runner.FirstFailure

/-!
# What the response to a deploy tells

The status and the header of a response tell whether the commands of the plan
succeeded, one of them failed, or one could not be run; the body shows the
texts of all, the streams of the one that failed, or what was in its way. That
the digits of a number read back is a law of the whole library alone, which is
imported for it.
-/

namespace Rollout.Http

/-- What a response tells of the commands that were run. -/
structure Response.Tells {World : Type} (response : Response) (system : System World)
    (runner : Runner) (commands : List Command) (world : World) : Prop where
  status : response.status = 200 ∨ response.status = 400
  success : response.status = 200 ↔ runner.Succeeds system commands world
  success_told : runner.Succeeds system commands world →
    response.body = String.join ((runner.endings system commands world).map Ending.text) ∧
    response.values "x-returncode" = []
  /-- The header is there exactly if a command ran and failed. -/
  header : response.values "x-returncode" ≠ [] ↔ ∃ k command status stdout stderr,
    runner.StopsAt system commands world k command (.ended status stdout stderr)
  failure_told : ∀ k command status stdout stderr,
    runner.StopsAt system commands world k command (.ended status stdout stderr) →
    response.values "x-returncode" = [toString status.exitCode] ∧
    response.body = Text.lossy stdout ++ "\n\n" ++ Text.lossy stderr
  /-- The digits of an exit code read back, and a header can carry them. -/
  code : ∀ k command status stdout stderr,
    runner.StopsAt system commands world k command (.ended status stdout stderr) →
    (toString status.exitCode).toInt? = some status.exitCode ∧
    toString status.exitCode ≠ "0" ∧
    -126 ≤ status.exitCode ∧ status.exitCode ≤ 255 ∧
    (toString status.exitCode).toList.all Request.isValueChar = true
  /-- A failure without the header is a command that could not be run. -/
  error : response.status = 400 ∧ response.values "x-returncode" = [] ↔ ∃ k command error,
    runner.StopsAt system commands world k command (.notStarted error) ∨
    runner.StopsAt system commands world k command (.notAwaited error)
  spawn_told : ∀ k command error,
    runner.StopsAt system commands world k command (.notStarted error) →
    response.body = ProcessError.diagnostic ⟨.spawn, command.program, error⟩
  wait_told : ∀ k command error,
    runner.StopsAt system commands world k command (.notAwaited error) →
    response.body = ProcessError.diagnostic ⟨.wait, command.program, error⟩

namespace Response

variable {World : Type} {system : System World} {runner : Runner} {commands : List Command}
  {world : World} {outcome : Outcome}

theorem toString_ne_zero {code : Int} (h : code ≠ 0) : toString code ≠ "0" := by
  rw [Int.toString_eq_repr]
  intro hzero
  exact h (Int.repr_injective hzero)

section
variable (captured : ∀ command ∈ commands, command.redirects = false)
  (hrun : (runner.runAll system commands world).value = .ok outcome)
include captured hrun

theorem ofOutcome_of_succeeds (h : runner.Succeeds system commands world) :
    ofOutcome outcome =
      plain 200 (String.join ((runner.endings system commands world).map Ending.text)) := by
  rw [Runner.runAll_of_succeeds captured h] at hrun
  cases hrun
  rfl

variable {k : Nat} {command : Command}

theorem ofOutcome_of_failed {status : WaitStatus} {stdout stderr : Text.Bytes}
    (h : runner.StopsAt system commands world k command (.ended status stdout stderr)) :
    ofOutcome outcome = plain 400 (Text.lossy stdout ++ "\n\n" ++ Text.lossy stderr)
      [(exitCodeHeader, toString status.exitCode)] := by
  rw [Runner.runAll_of_stopsAt captured h] at hrun
  cases hrun
  exact ofOutcome_failed ..

/-- Both ways in which a command cannot be run. -/
theorem ofOutcome_of_errored {ending : Ending} {error : ProcessError}
    (h : runner.StopsAt system commands world k command ending)
    (herror : Runner.resultOf command ending = .error error) :
    ofOutcome outcome = plain 400 error.diagnostic := by
  rw [Runner.runAll_of_stopsAt captured h] at hrun
  cases hrun
  cases ending with
  | ended => cases herror
  | _ =>
    cases herror
    rfl

/-- The response to an outcome tells how the sequence went. -/
theorem tells_ofOutcome : (ofOutcome outcome).Tells system runner commands world := by
  have herrored {k : Nat} {command : Command} {error : IoError}
      (h : runner.StopsAt system commands world k command (.notStarted error) ∨
        runner.StopsAt system commands world k command (.notAwaited error)) :
      (ofOutcome outcome).status = 400 ∧ (ofOutcome outcome).values "x-returncode" = [] := by
    rcases h with h | h
    · rw [ofOutcome_of_errored captured hrun h rfl]
      exact ⟨rfl, rfl⟩
    · rw [ofOutcome_of_errored captured hrun h rfl]
      exact ⟨rfl, rfl⟩
  have hcases := Runner.sequence_cases system runner commands world
  constructor
  case status => exact status_ofOutcome outcome
  case success =>
    constructor
    · intro hstatus
      rcases hcases with h | ⟨_, _, _, _, _, h⟩ | ⟨_, _, _, h⟩
      · exact h
      · rw [ofOutcome_of_failed captured hrun h] at hstatus
        cases hstatus
      · rw [(herrored h).1] at hstatus
        cases hstatus
    · intro h
      rw [ofOutcome_of_succeeds captured hrun h]
      rfl
  case success_told =>
    intro h
    rw [ofOutcome_of_succeeds captured hrun h]
    exact ⟨rfl, rfl⟩
  case header =>
    constructor
    · intro hheader
      rcases hcases with h | h | ⟨_, _, _, h⟩
      · exact absurd (by rw [ofOutcome_of_succeeds captured hrun h]; rfl) hheader
      · exact h
      · exact absurd (herrored h).2 hheader
    · rintro ⟨_, _, _, _, _, h⟩
      rw [ofOutcome_of_failed captured hrun h]
      exact List.cons_ne_nil _ _
  case failure_told =>
    intro k command status stdout stderr h
    rw [ofOutcome_of_failed captured hrun h]
    exact ⟨rfl, rfl⟩
  case code =>
    intro k command status stdout stderr h
    obtain ⟨hlow, hhigh⟩ := status.exitCode_bounds
    exact ⟨Int.toInt?_repr _, toString_ne_zero h.exitCode_ne_zero, hlow, hhigh,
      isValueChar_toString _⟩
  case error =>
    constructor
    · rintro ⟨hstatus, hheader⟩
      rcases hcases with h | ⟨_, _, _, _, _, h⟩ | h
      · rw [ofOutcome_of_succeeds captured hrun h] at hstatus
        cases hstatus
      · rw [ofOutcome_of_failed captured hrun h] at hheader
        exact absurd hheader (List.cons_ne_nil _ _)
      · exact h
    · rintro ⟨_, _, _, h⟩
      exact herrored h
  case spawn_told =>
    intro k command error h
    rw [ofOutcome_of_errored captured hrun h rfl]
    rfl
  case wait_told =>
    intro k command error h
    rw [ofOutcome_of_errored captured hrun h rfl]
    rfl

end

end Response

namespace Service

/-- The response to a deploy is settled by the commands of the plan for its
tag. It is 200 exactly if all of them exit with code zero and 400 otherwise;
the header tells a command that failed from one that could not be run. -/
theorem handle_deploy_tells {World : Type} (system : System World) (config : DeployConfig)
    (startedAt : String) (request : Request) (tag : String) (world : World)
    (deploys : request.deployTag? = some tag) :
    ∃ response,
      ((ofConfig config startedAt).handle system request world).value = .ok response ∧
      response.Tells system (Runner.ofConfig config) ((Plan.ofConfig config).commands tag)
        world := by
  obtain ⟨outcome, hrun, hvalue, -⟩ := handle_of_deploy system config startedAt world deploys
  exact ⟨_, hvalue, Response.tells_ofOutcome (Plan.commands_captured config tag) hrun⟩

/-- The deploy script exits with code three: the header holds it, and the body
holds its streams alone. -/
theorem handle_deploy_tells_script :
    let request : Request := ⟨"POST", { path := "/deploy", query := some "tag=v2" }, [], ""⟩
    request.deployTag? = some "v2" ∧
    ∃ response,
      ((ofConfig {} "now").handle (Runner.failingAt "bash") request 0).value = .ok response ∧
      response.status = 400 ∧ response.values "x-returncode" = ["3"] ∧
      response.body = "out\n\nerr" := by
  intro request
  have deploys : request.deployTag? = some "v2" := by decide
  have stop : (Runner.ofConfig {}).StopsAt (Runner.failingAt "bash")
      ((Plan.ofConfig {}).commands "v2") 0 3 { program := "bash", args := ["deploy/deploy.bash"] }
      (.ended (.exited 3) (Text.encode "out") (Text.encode "err")) :=
    ⟨rfl, rfl, by decide, by decide⟩
  obtain ⟨response, hvalue, h⟩ :=
    handle_deploy_tells (Runner.failingAt "bash") {} "now" request "v2" 0 deploys
  obtain ⟨hheader, hbody⟩ := h.failure_told _ _ _ _ _ stop
  refine ⟨deploys, response, hvalue, ?_, hheader, hbody⟩
  exact h.status.resolve_left fun hstatus => absurd (h.success.1 hstatus) (by decide)

end Service

end Rollout.Http
