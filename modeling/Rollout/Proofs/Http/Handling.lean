import Rollout.Proofs.Http.Routing
import Rollout.Proofs.Plan
import Rollout.Proofs.Runner.RunLaws

/-!
# How a request is handled

A request that does not deploy is answered at once and leaves the world as it
was. One that deploys leaves the world of the commands that are run for its
tag, and its response is that of their outcome. Every request is answered.
-/

namespace Rollout.Http.Service

variable {World : Type} {system : System World} {service : Service} {config : DeployConfig}
  {startedAt : String} {request : Request} {response : Response} {tag : String} {world : World}

theorem handle_of_respond (h : service.reply request = .respond response) :
    service.handle system request world = ⟨world, [answered request response], .ok response⟩ := by
  simp only [handle, answer, h]
  rfl

theorem handle_of_outcome {outcome : Outcome} (h : request.deployTag? = some tag)
    (hrun : (service.runner.runAll system (service.plan.commands tag) world).value =
      .ok outcome) :
    service.handle system request world =
      ⟨(service.runner.runAll system (service.plan.commands tag) world).world,
        service.started :: (service.runner.runAll system (service.plan.commands tag) world).log ++
          [outcomeEvent outcome, answered request (.ofOutcome outcome)],
        .ok (.ofOutcome outcome)⟩ := by
  simp [handle, answer, reply_of_deployTag? h, deploy, hrun]

variable (system config startedAt world) in
/-- Some outcome is reached: the commands of a plan are never refused. -/
theorem handle_of_deploy (h : request.deployTag? = some tag) :
    ∃ outcome,
      ((Runner.ofConfig config).runAll system ((Plan.ofConfig config).commands tag) world).value =
        .ok outcome ∧
      ((ofConfig config startedAt).handle system request world).value = .ok (.ofOutcome outcome) ∧
      ((ofConfig config startedAt).handle system request world).world =
        (Runner.ofConfig config).worldAfter system
          ((Runner.ofConfig config).executed system ((Plan.ofConfig config).commands tag) world)
          world := by
  have captured := Plan.commands_captured config tag
  obtain ⟨outcome, hrun⟩ := Runner.runAll_ok system (Runner.ofConfig config) world captured
  have hhandle : (ofConfig config startedAt).handle system request world = _ :=
    handle_of_outcome h hrun
  refine ⟨outcome, hrun, ?_, ?_⟩
  · rw [hhandle]
  · rw [hhandle]
    exact Runner.runAll_world captured

end Rollout.Http.Service
