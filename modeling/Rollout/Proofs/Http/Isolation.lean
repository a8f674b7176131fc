import Rollout.Proofs.Http.Handling
import Rollout.Proofs.Http.TrafficRecording

/-!
# Deploys that run beside each other

Deploys share a service and a world and take their steps in any order, with
whatever results. Each is nevertheless where its own commands have brought it,
and its response is the one that a deploy gets which runs alone and meets the
same results.
-/

namespace Rollout.Http

/-- The commands that a request asks for. -/
def Service.commandsFor (service : Service) (request : Request) : List Command :=
  match request.deployTag? with
  | some tag => service.plan.commands tag
  | none => []

namespace Exchange

/-- What a request in flight shows, told by the commands that were started for
it alone and by those that have ended. -/
structure Isolated (service : Service) (exchange : Exchange) (started : List Command)
    (record : Record) : Prop where
  /-- What is started is the front of the plan for the request's own tag. -/
  planned : started <+: service.commandsFor exchange.request
  /-- Of the commands that were started, all have ended but the one that a child
  runs for. -/
  children : started = record.commands ++ (exchange.deploy?.bind (·.progress.child?)).toList
  /-- All commands that were started before the last one exited with code zero. -/
  successful : Record.Successful (record.take (started.length - 1))
  /-- A deploy is one of the request's own tag, and keeps the results of its own
  commands. -/
  own : ∀ deploy, exchange.stage = .deploying deploy →
    exchange.request.deployTag? = some deploy.tag ∧ deploy.history = record.results
  /-- The position is the number of its own commands that have ended, and the
  text is made of their texts. -/
  output : ∀ deploy step output command rest, exchange.stage = .deploying deploy →
    deploy.progress = .running step output rest ∨
      deploy.progress = .waiting step output command rest →
    step = record.length ∧ output = record.text
  /-- A deploy that has ended ran to its end, and came to what a sequence comes
  to that runs alone and meets the same endings. -/
  ended : ∀ deploy value, exchange.stage = .deploying deploy → deploy.progress = .ended value →
    record.Complete (service.plan.commands deploy.tag) ∧
    let report :=
      service.runner.runAll .replaying (service.plan.commands deploy.tag) record.endings
    report.value = value ∧ report.world = []
  /-- So does the response to it. -/
  answered : ∀ response, exchange.stage = .answered response →
    (∀ tag, exchange.request.deployTag? = some tag →
      record.Complete (service.plan.commands tag)) ∧
    let report := service.handle .replaying exchange.request record.endings
    report.value = .ok response ∧ report.world = []
  unrefused : ∀ refusal, exchange.stage ≠ .refused refusal

/-- A request that is where the commands run for it have brought it. -/
inductive Accounted (service : Service) : Option Exchange → Record → List Mark → Prop
  | absent : Accounted service none [] []
  | received {exchange : Exchange} (stage : exchange.stage = .received) :
      Accounted service (some exchange) [] []
  | replied {exchange : Exchange} {response : Response}
      (stage : exchange.stage = .answered response)
      (reply : service.reply exchange.request = .respond response) :
      Accounted service (some exchange) [] []
  | deploying {exchange : Exchange} {deploy : Deploy} {record : Record} {marks : List Mark}
      (deploys : exchange.request.deployTag? = some deploy.tag)
      (stage : exchange.stage = .deploying deploy) (follows : deploy.Follows service record marks) :
      Accounted service (some exchange) record marks
  | deployed {exchange : Exchange} {tag : String} {outcome : Outcome} {record : Record}
      (deploys : exchange.request.deployTag? = some tag)
      (stage : exchange.stage = .answered (.ofOutcome outcome))
      (follows : (Progress.ended (.ok outcome)).Follows (service.plan.commands tag) record) :
      Accounted service (some exchange) record record.marks

variable {World : Type} {system : System World} {service : Service} {config : DeployConfig}
  {startedAt : String} {exchange : Exchange} {before after : Option Exchange}
  {deploy : Deploy} {record : Record} {done marks : List Mark} {world : World}

namespace Accounted

theorem of_received (h : Accounted service (some exchange) record done)
    (stage : exchange.stage = .received) : record = [] ∧ done = [] := by
  cases h with
  | received _ => exact ⟨rfl, rfl⟩
  | replied other _ | deploying _ other _ | deployed _ other _ => cases stage.symm.trans other

theorem of_deploying (h : Accounted service (some exchange) record done)
    (stage : exchange.stage = .deploying deploy) :
    exchange.request.deployTag? = some deploy.tag ∧ deploy.Follows service record done := by
  cases h with
  | deploying deploys other follows =>
    cases stage.symm.trans other
    exact ⟨deploys, follows⟩
  | received other | replied other _ | deployed _ other _ => cases stage.symm.trans other

end Accounted

/-- Whatever happens to a request, it stays accounted for. -/
theorem Moves.accounted
    (h : Moves system (.ofConfig config startedAt) world before after marks)
    (ha : Accounted (.ofConfig config startedAt) before record done) :
    ∃ record', Accounted (.ofConfig config startedAt) after record' (done ++ marks) := by
  cases h with
  | stays => exact ⟨record, by rwa [List.append_nil]⟩
  | arrives request =>
    cases ha with
    | absent => exact ⟨[], .received rfl⟩
  | leaves exchange =>
    rw [List.append_nil]
    cases ha with
    | received stage => exact ⟨[], .received stage⟩
    | replied stage reply => exact ⟨[], .replied stage reply⟩
    | deploying deploys stage follows => exact ⟨record, .deploying deploys stage follows⟩
    | deployed deploys stage follows => exact ⟨record, .deployed deploys stage follows⟩
  | replies _ stage reply =>
    obtain ⟨rfl, rfl⟩ := ha.of_received stage
    exact ⟨[], .replied rfl reply⟩
  | @starts exchange tag _ stage reply =>
    obtain ⟨rfl, rfl⟩ := ha.of_received stage
    exact ⟨[], .deploying (Service.deployTag?_of_reply reply) rfl (Deploy.start_follows tag)⟩
  | @advances exchange deploy stage =>
    obtain ⟨deploys, follows⟩ := ha.of_deploying stage
    have captured := Plan.commands_captured config deploy.tag
    exact ⟨_, .deploying (by simpa using deploys) rfl (Deploy.advance_follows captured follows)⟩
  | finishes _ stage ended =>
    obtain ⟨deploys, hprogress, -, rfl⟩ := ha.of_deploying stage
    rw [ended] at hprogress ⊢
    simpa [Progress.child?] using ⟨record, Accounted.deployed deploys rfl hprogress⟩
  | refuses _ stage ended =>
    obtain ⟨-, hprogress, -⟩ := ha.of_deploying stage
    rw [ended] at hprogress
    obtain ⟨_, hok⟩ := hprogress.ended_ok
    cases hok

/-- A run accounts for every request, and nothing is done for others. -/
theorem run_accounted (system : System World) (config : DeployConfig) (startedAt : String)
    (world : World) (actions : List Action) (index : Nat) :
    let service := Service.ofConfig config startedAt
    ∃ record, Accounted service (Traffic.run system service { world } actions).exchanges[index]?
      record ((Traffic.journal system service { world } actions).own index) := by
  intro service
  refine Traffic.run_invariant
    (fun exchange? marks => ∃ record, Accounted service exchange? record marks)
    ?_ ⟨[], .absent⟩ world actions index
  rintro world before after done marks hmoves ⟨record, haccounted⟩
  exact hmoves.accounted haccounted

theorem Accounted.isolated
    (h : Accounted (.ofConfig config startedAt) (some exchange) record marks) :
    exchange.Isolated (.ofConfig config startedAt) (Mark.started marks) (Mark.record marks) := by
  cases h with
  | received stage =>
    constructor
    all_goals simp [deploy?, stage, Mark.started, Mark.record, Record.commands, Record.Successful]
  | @replied _ response stage reply =>
    constructor
    case answered =>
      intro other hother
      cases stage.symm.trans hother
      refine ⟨fun tag deploys => ?_, ?_⟩
      · cases reply.symm.trans (Service.reply_of_deployTag? deploys)
      · rw [Service.handle_of_respond reply]
        exact ⟨rfl, rfl⟩
    all_goals simp [deploy?, stage, Mark.started, Mark.record, Record.commands, Record.Successful]
  | @deploying _ deploy _ _ deploys stage follows =>
    rw [follows.started, follows.record_eq]
    have hchild : exchange.deploy?.bind (·.progress.child?) = deploy.progress.child? := by
      rw [deploy?_eq_some_iff.2 stage]
      rfl
    constructor
    case planned =>
      rw [Service.commandsFor, deploys]
      exact follows.progress.started_prefix
    case children => rw [hchild]
    case successful => exact follows.progress.successful_before
    case own =>
      intro other hother
      cases stage.symm.trans hother
      exact ⟨deploys, follows.history⟩
    case output =>
      intro other step output command rest hother hprogress
      cases stage.symm.trans hother
      exact follows.progress.position_and_text hprogress
    case ended =>
      intro other value hother hprogress
      cases stage.symm.trans hother
      have hended := hprogress ▸ follows.progress
      exact ⟨hended.complete,
        (hended.replays (.ofConfig config) (Plan.commands_captured config deploy.tag)).symm⟩
    case answered | unrefused => simp [stage]
  | @deployed _ tag outcome _ deploys stage follows =>
    rw [Record.started_marks, Record.record_marks]
    have hchild : exchange.deploy? = none := by simp [deploy?, stage]
    constructor
    case planned =>
      rw [Service.commandsFor, deploys]
      simpa [Progress.child?] using follows.started_prefix
    case children => simp [hchild]
    case successful => simpa [Progress.child?] using follows.successful_before
    case answered =>
      intro response hother
      cases stage.symm.trans hother
      refine ⟨fun other hdeploys => ?_, ?_⟩
      · cases deploys.symm.trans hdeploys
        exact follows.complete
      · obtain ⟨hworld, hvalue⟩ :=
          follows.replays (.ofConfig config) (Plan.commands_captured config tag)
        rw [Service.handle_of_outcome deploys hvalue]
        exact ⟨rfl, hworld⟩
    case own | output | ended | unrefused => simp [stage]

end Exchange

namespace Traffic

/-- For any number of requests on one service, in any order of what happens to
them and with any results: each is where its own commands have brought it, and
once it is answered its response is that of a deploy that runs alone and meets
the same results. What the system was asked for are the commands that have
ended, and nothing is done for a request that has not come in. -/
theorem run_isolates {World : Type} (system : System World) (config : DeployConfig)
    (startedAt : String) (world : World) (actions : List Action) :
    let service := Service.ofConfig config startedAt
    let traffic := run system service { world } actions
    let journal := journal system service { world } actions
    (∀ index (exchange : Exchange), traffic.exchanges[index]? = some exchange →
      exchange.Isolated service (Mark.started (journal.own index))
        (Mark.record (journal.own index))) ∧
    (∀ index, traffic.exchanges[index]? = none → journal.own index = []) ∧
    (run system.recording service { world := (world, []) } actions).world.2 =
      service.asked (Mark.record (journal.map (·.2))) := by
  intro service traffic journal
  have haccounted := Exchange.run_accounted system config startedAt world actions
  refine ⟨?_, ?_, ?_⟩
  · intro index exchange hexchange
    obtain ⟨record, h⟩ := haccounted index
    rw [hexchange] at h
    exact h.isolated
  · intro index hnone
    obtain ⟨record, h⟩ := haccounted index
    rw [hnone] at h
    generalize journal.own index = marks at h
    cases h
    rfl
  · exact congrArg (·.world.2) (run_recording { world } actions [])

/-- Two deploys in turns. The seventh command to end is the fourth of the first
deploy; that it fails is told to its own client alone. -/
example :
    let request (tag : String) : Request :=
      ⟨"POST", { path := "/deploy", query := some ("tag=" ++ tag) }, [], ""⟩
    let system : System Nat := fun count _ =>
      (count + 1, .ended (if count = 6 then .exited 3 else .exited 0) [] [])
    let turns := (List.replicate 12 [Action.advance 0, Action.advance 1]).flatten
    let actions := [.arrive (request "v1"), .arrive (request "v2"), .take 0, .take 1] ++ turns ++
      [.finish 1, .finish 0]
    (run system (.ofConfig {} "now") { world := 0 } actions).exchanges.map (fun exchange =>
      match exchange.stage with
      | .answered response => response.status
      | _ => 0) = [400, 200] := by
  decide +kernel

end Traffic

end Rollout.Http
