import Mathlib.Data.List.Forall2
import Rollout.Proofs.Http.Handling
import Rollout.Proofs.Http.ReturnCode
import Rollout.Proofs.Runner.Recording

/-!
# Requests one after another

Whatever requests come, in whatever order, the commands that are run are those
of the deploys among them, each for its own tag and up to its own first
failure; all other requests might as well not have come. Every request is
answered with one of four statuses.
-/

namespace Rollout.Http.Service

section
variable {World : Type} (system : System World) (service : Service)

/-- The commands that are run for deploys of these tags, one deploy after
another. -/
def executedFor : List String → World → List Command
  | [], _ => []
  | tag :: rest, world =>
    let commands := service.runner.executed system (service.plan.commands tag) world
    commands ++ executedFor rest (service.runner.worldAfter system commands world)

end

variable {World : Type} {system : System World} {service : Service} {config : DeployConfig}
  {startedAt : String} {request : Request} {world : World}

theorem executedFor_recording (tags : List String) (asked : List Rollout.Request) :
    service.executedFor system.recording tags (world, asked) =
      service.executedFor system tags world := by
  induction tags generalizing world asked with
  | nil => rfl
  | cons tag rest ih =>
    simp only [executedFor, Runner.executed_recording, Runner.worldAfter_recording, ih]

/-- A request that does not deploy changes nothing and is answered with the
status of its resource. -/
theorem handle_of_not_deploy (h : request.deployTag? = none) :
    (service.handle system request world).world = world ∧
      ∃ response, (service.handle system request world).value = .ok response ∧
        response.status ∈ request.statuses := by
  obtain ⟨response, hreply, hstatus⟩ := reply_of_not_deploy h
  rw [handle_of_respond hreply]
  exact ⟨rfl, response, rfl, hstatus⟩

theorem handle_answered (request : Request) (world : World) :
    ∃ response,
      ((ofConfig config startedAt).handle system request world).value = .ok response ∧
      response.status ∈ request.statuses := by
  cases h : request.deployTag? with
  | none => exact (handle_of_not_deploy h).2
  | some tag =>
    obtain ⟨outcome, -, hvalue, -⟩ := handle_of_deploy system config startedAt world h
    refine ⟨_, hvalue, ?_⟩
    rw [Request.statuses_of_deployTag? h]
    simpa using Response.status_ofOutcome outcome

theorem handleAll_world (requests : List Request) (world : World) :
    ((ofConfig config startedAt).handleAll system requests world).world =
      (Runner.ofConfig config).worldAfter system
        ((ofConfig config startedAt).executedFor system
          (requests.filterMap Request.deployTag?) world) world := by
  induction requests generalizing world with
  | nil => rfl
  | cons request rest ih =>
    rw [handleAll, ih]
    cases h : request.deployTag? with
    -- The requests behind it meet the world as it was.
    | none => rw [(handle_of_not_deploy h).1, List.filterMap_cons_none h]
    | some tag =>
      obtain ⟨-, -, -, hworld⟩ := handle_of_deploy system config startedAt world h
      rw [hworld, List.filterMap_cons_some h, executedFor, Runner.worldAfter_append]
      rfl

theorem handleAll_answered (requests : List Request) (world : World) :
    List.Forall₂
      (fun request value => ∃ response, value = .ok response ∧
        response.status ∈ request.statuses)
      requests ((ofConfig config startedAt).handleAll system requests world).value := by
  induction requests generalizing world with
  | nil => exact .nil
  | cons request rest ih => exact .cons (handle_answered request world) (ih _)

/-- Over any requests, the commands put to the system are those of the deploys
among them, in order, each up to its first failure, and the world is the one
these leave. A request that is no deploy leaves the world alone. None is met
with a refusal, and none with a failure of the server. -/
theorem handleAll_runs_deploys (system : System World) (config : DeployConfig)
    (startedAt : String) (requests : List Request) (world : World) :
    let service := ofConfig config startedAt
    let commands := service.executedFor system (requests.filterMap Request.deployTag?) world
    (service.handleAll system.recording requests (world, [])).world.2 =
      commands.map service.runner.request ∧
    (service.handleAll system requests world).world =
      service.runner.worldAfter system commands world ∧
    (∀ request world, request.deployTag? = none →
      (service.handle system request world).world = world) ∧
    List.Forall₂
      (fun request value => ∃ response, value = .ok response ∧
        response.status ∈ request.statuses ∧ response.status ∈ [200, 400, 404, 405])
      requests (service.handleAll system requests world).value := by
  intro service commands
  refine ⟨?_, handleAll_world requests world, fun _ _ h => (handle_of_not_deploy h).1, ?_⟩
  · rw [handleAll_world, executedFor_recording, Runner.worldAfter_recording, List.nil_append]
    rfl
  · refine (handleAll_answered requests world).imp ?_
    rintro request value ⟨response, hvalue, hstatus⟩
    exact ⟨response, hvalue, hstatus, Request.mem_statuses hstatus⟩

end Rollout.Http.Service
