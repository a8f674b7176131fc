import Rollout.Http.Endpoint
import Rollout.Proofs.Http.Draining
import Rollout.Proofs.Http.ReturnCode
import Rollout.Proofs.Text.Lossy
import Rollout.Proofs.Text.Quoting

/-!
# What is served under settings

Whatever happens to requests, what the system is asked for goes back to those
that deploy, each of which asks for the front of what the settings say, and what
a client is told of the program's health is of the same settings. With what a
server says of itself, and with when it comes to its end, that is what it is to
serve under settings (`serves`).
-/

namespace Rollout.Http

namespace Exchange

/-- The deploy of this request has come to an outcome, whether or not its client
is there to be told. -/
def CameTo (exchange : Exchange) (outcome : Outcome) : Prop :=
  exchange.stage = .answered (.ofOutcome outcome) ∨
  ∃ deploy, exchange.stage = .deploying deploy ∧ deploy.progress = .ended (.ok outcome)

/-- This request is answered, or its deploy has ended. -/
def Over (exchange : Exchange) : Prop :=
  (∃ response, exchange.stage = .answered response) ∨
  ∃ deploy value, exchange.stage = .deploying deploy ∧ deploy.progress = .ended value

/-- What the system is asked for on behalf of a request under these settings. -/
structure Asks (config : DeployConfig) (exchange : Exchange) (asked : List Rollout.Request) :
    Prop where
  idle : exchange.request.deployTag? = none → asked = []
  planned : ∀ tag, exchange.request.deployTag? = some tag → asked <+: config.requests tag
  /-- Up to the step that stopped the deploy, or all where none did. -/
  ended : ∀ tag, exchange.request.deployTag? = some tag → exchange.Over →
    ∃ outcome, exchange.CameTo outcome ∧
      asked = match outcome.failedStep with
        | some step => (config.requests tag).take (step + 1)
        | none => config.requests tag

/-- A client that asks for the health of the program is told, in JSON, when it was
started and where it deploys. -/
def Healthy (config : DeployConfig) (startedAt : String) (exchange : Exchange) : Prop :=
  exchange.request.method = "GET" → exchange.request.uri.path = "/health" →
    ∀ response, exchange.stage = .answered response →
      response.status = 200 ∧ ∃ started dir shown,
        response.body = "\x7b\"started_at\":" ++ started ++
          ",\"status\":\"ok\",\"workdir\":" ++ dir ++ "\x7d" ∧
        Text.unquote? started = some startedAt ∧ Text.unquote? dir = some shown ∧
        Text.Reads config.dir.octets shown.toList

end Exchange

/-- A server under settings that listens, once `actions` have happened to it
and `asked` is what the system was asked for, each entry on behalf of the request
at that position. -/
structure Serves {World : Type} (config : DeployConfig) (startedAt : String) (listening : Event)
    (actions : List Action) (asked : List (Nat × Rollout.Request)) (traffic : Traffic World) :
    Prop where
  /-- What it says of itself, with the first signal that it got. -/
  told : traffic.phase.Told listening (actions.findSome? Action.signal?) traffic.log.lifecycle
  /-- It is through if a signal came and every request has had its turns since. -/
  ends : ∀ before signal more,
    actions = before ++ Action.stop (some signal) :: (more ++ [Action.close]) →
    (∀ index < traffic.exchanges.length,
      ((Service.ofConfig config startedAt).turns index).Sublist more) →
    traffic.phase = .through
  asks : ∀ (index : Nat) exchange, traffic.exchanges[index]? = some exchange →
    exchange.Asks config ((asked.filter (·.1 == index)).map (·.2))
  /-- The system is asked for nothing else. -/
  theirs : ∀ entry ∈ asked, entry.1 < traffic.exchanges.length
  health : ∀ exchange ∈ traffic.exchanges, exchange.Healthy config startedAt

variable {config : DeployConfig} {startedAt tag : String} {exchange : Exchange} {record : Record}
  {marks : List Mark} {commands : List Command} {outcome : Outcome} {progress : Progress}
  {exchange? : Option Exchange}

theorem Progress.Follows.commands_prefix (h : progress.Follows commands record) :
    record.commands <+: commands :=
  (List.prefix_append _ _).trans h.started_prefix

theorem Progress.Follows.commands_of_ended
    (h : (Progress.ended (.ok outcome)).Follows commands record) :
    record.commands = match outcome.failedStep with
      | some step => commands.take (step + 1)
      | none => commands := by
  cases h with
  | succeeded all _ => exact all.symm
  | @stopped record command ending rest split _ _ =>
    -- The command that stopped the deploy was run as well.
    have hstep : (Runner.stopOutcome record.length command ending).failedStep =
        some record.length := by
      cases ending <;> rfl
    rw [hstep, split, Record.commands_append_singleton]
    simp [← Record.length_commands, List.take_length_add_append]

theorem Service.reply_of_health {request : Request} {service : Service}
    (hmethod : request.method = "GET") (hpath : request.uri.path = "/health") :
    service.reply request = .respond service.health := by
  simp [reply, Route.ofPath?, hpath, Route.methods, hmethod]

theorem Service.asked_prefix
    (h : record.commands <+: (Service.ofConfig config startedAt).plan.commands tag) :
    (Service.ofConfig config startedAt).asked record <+: config.requests tag := by
  rw [← Plan.map_request]
  exact h.map (Runner.ofConfig config).request

theorem Service.asked_of_ended
    (h : (Progress.ended (.ok outcome)).Follows
      ((Service.ofConfig config startedAt).plan.commands tag) record) :
    (Service.ofConfig config startedAt).asked record = match outcome.failedStep with
      | some step => (config.requests tag).take (step + 1)
      | none => config.requests tag := by
  rw [asked, h.commands_of_ended, ← Plan.map_request]
  cases outcome.failedStep with
  | some step => exact List.map_take
  | none => rfl

namespace Exchange

theorem asks_nothing (h : exchange.Over → exchange.request.deployTag? = none) :
    exchange.Asks config [] := by
  constructor
  case idle => exact fun _ => rfl
  case planned => exact fun _ _ => List.nil_prefix
  case ended =>
    intro tag deploys hover
    cases deploys.symm.trans (h hover)

theorem asks_of_follows (deploys : exchange.request.deployTag? = some tag)
    (follows : progress.Follows ((Service.ofConfig config startedAt).plan.commands tag) record)
    (ended : exchange.Over → ∃ outcome, exchange.CameTo outcome ∧ progress = .ended (.ok outcome)) :
    exchange.Asks config ((Service.ofConfig config startedAt).asked record) := by
  constructor
  case idle =>
    intro hidle
    cases deploys.symm.trans hidle
  case planned =>
    intro other hdeploys
    cases deploys.symm.trans hdeploys
    exact Service.asked_prefix follows.commands_prefix
  case ended =>
    intro other hdeploys hover
    cases deploys.symm.trans hdeploys
    obtain ⟨outcome, hcame, hprogress⟩ := ended hover
    exact ⟨outcome, hcame, Service.asked_of_ended (hprogress ▸ follows)⟩

namespace Accounted

theorem asks (h : Accounted (.ofConfig config startedAt) (some exchange) record marks) :
    exchange.Asks config ((Service.ofConfig config startedAt).asked record) := by
  cases h with
  | received stage =>
    refine asks_nothing fun hover => ?_
    simp [Over, stage] at hover
  | replied stage reply =>
    refine asks_nothing fun _ => Option.eq_none_iff_forall_ne_some.2 fun tag deploys => ?_
    cases reply.symm.trans (Service.reply_of_deployTag? deploys)
  | @deploying _ deploy _ _ deploys stage follows =>
    refine asks_of_follows deploys follows.progress fun hover => ?_
    obtain ⟨response, hstage⟩ | ⟨other, value, hstage, hended⟩ := hover
    · cases stage.symm.trans hstage
    · cases stage.symm.trans hstage
      obtain ⟨outcome, rfl⟩ := (hended ▸ follows.progress).ended_ok
      exact ⟨outcome, .inr ⟨deploy, stage, hended⟩, hended⟩
  | @deployed _ tag outcome _ deploys stage follows =>
    exact asks_of_follows deploys follows fun _ => ⟨outcome, .inl stage, rfl⟩

theorem healthy (h : Accounted (.ofConfig config startedAt) (some exchange) record marks) :
    exchange.Healthy config startedAt := by
  intro hmethod hpath response hstage
  cases h with
  | received stage | deploying _ stage _ => cases hstage.symm.trans stage
  | replied stage reply =>
    cases hstage.symm.trans stage
    cases reply.symm.trans (Service.reply_of_health hmethod hpath)
    exact ⟨rfl, _, _, _, rfl, Text.unquote?_quote _, Text.unquote?_quote _,
      config.dir.reads_display⟩
  | deployed deploys _ _ =>
    have hpost := (Request.deployTag?_eq_some_iff.1 deploys).1
    exact absurd (hmethod.symm.trans hpost) (by decide)

theorem record_eq {service : Service}
    (h : Accounted service exchange? record marks) : Mark.record marks = record := by
  cases h with
  | deploying _ _ follows => exact follows.record_eq
  | deployed _ _ _ => exact Record.record_marks
  | absent | received _ | replied _ _ => rfl

theorem of_absent {service : Service}
    (h : Accounted service none record marks) : record = [] := by
  cases h with
  | absent => rfl

end Accounted

end Exchange

-- ---------------------------------------------------------------------------
-- What the system is asked for, request by request
-- ---------------------------------------------------------------------------

namespace Journal

variable {rest : Journal} {mark : Mark} {index other : Nat}

theorem own_cons_here : own ((index, mark) :: rest) index = mark :: rest.own index := by
  simp [own]

theorem own_cons_elsewhere (h : other ≠ index) :
    own ((other, mark) :: rest) index = rest.own index := by
  simp [own, h]

end Journal

namespace Service

/-- What the system is asked for in a journal, and on whose behalf. -/
def askedFor (service : Service) (journal : Journal) : List (Nat × Rollout.Request) :=
  journal.filterMap fun (index, mark) =>
    mark.ended?.map fun (command, _) => (index, service.runner.request command)

variable (service : Service)

theorem askedFor_map (journal : Journal) :
    (service.askedFor journal).map (·.2) = service.asked (Mark.record (journal.map (·.2))) := by
  induction journal with
  | nil => rfl
  | cons entry rest ih =>
    obtain ⟨index, mark⟩ := entry
    cases mark with
    | starts command => exact ih
    | ends command ending => exact congrArg (service.runner.request command :: ·) ih

theorem askedFor_own (journal : Journal) (index : Nat) :
    ((service.askedFor journal).filter (·.1 == index)).map (·.2) =
      service.asked (Mark.record (journal.own index)) := by
  induction journal with
  | nil => rfl
  | cons entry rest ih =>
    obtain ⟨other, mark⟩ := entry
    by_cases h : other = index
    · subst h
      rw [Journal.own_cons_here]
      cases mark with
      | starts command => exact ih
      | ends command ending =>
        change List.map (·.2) (List.filter (·.1 == other)
          ((other, service.runner.request command) :: service.askedFor rest)) = _
        rw [List.filter_cons_of_pos (by simp)]
        exact congrArg (service.runner.request command :: ·) ih
    · rw [Journal.own_cons_elsewhere h]
      cases mark with
      | starts command => exact ih
      | ends command ending =>
        change List.map (·.2) (List.filter (·.1 == index)
          ((other, service.runner.request command) :: service.askedFor rest)) = _
        rw [List.filter_cons_of_neg (by simpa using h)]
        exact ih

end Service

-- ---------------------------------------------------------------------------
-- A server under settings
-- ---------------------------------------------------------------------------

variable {World : Type} {traffic : Traffic World} {actions : List Action}

theorem Listener.lifecycle_listening (listener : Listener) (debug : Bool) :
    Log.lifecycle [listener.listening debug] = [listener.listening debug] := by
  -- No message of a request or of a deploy begins like this one.
  have hhead : (listener.listening debug).message.toList.head? = some 'H' := by
    simp [listening]
  have hothers : ∀ message ∈ deployMessages ++ requestMessages,
      message.toList.head? ≠ some 'H' := by
    decide
  have hmessage : (listener.listening debug).message ∉ deployMessages ++ requestMessages :=
    fun hm => hothers _ hm hhead
  simpa [Log.lifecycle] using hmessage

theorem Traffic.accounts (system : System World) (config : DeployConfig) (startedAt : String)
    (start : traffic.exchanges = []) (actions : List Action) (index : Nat) :
    Exchange.Accounted (.ofConfig config startedAt)
      (traffic.run system (.ofConfig config startedAt) actions).exchanges[index]?
      (Mark.record ((traffic.journal system (.ofConfig config startedAt) actions).own index))
      ((traffic.journal system (.ofConfig config startedAt) actions).own index) := by
  have hstart : ∃ record,
      Exchange.Accounted (.ofConfig config startedAt) traffic.exchanges[index]? record [] :=
    ⟨[], by simpa [start] using .absent⟩
  obtain ⟨record, haccounted⟩ := run_preserves
    (fun exchange? marks =>
      ∃ record, Exchange.Accounted (.ofConfig config startedAt) exchange? record marks)
    (fun _ _ _ _ _ hmoves ⟨_, haccounted⟩ => hmoves.accounted haccounted) traffic actions hstart
  rw [List.nil_append] at haccounted
  rwa [haccounted.record_eq]

theorem Traffic.run_ends (system : System World) (service : Service)
    (start : traffic.exchanges = []) {before more : List Action} {signal : Option Signal}
    (hactions : actions = before ++ Action.stop signal :: (more ++ [Action.close]))
    (turns : ∀ index < (traffic.run system service actions).exchanges.length,
      (service.turns index).Sublist more) :
    (traffic.run system service actions).phase = .through := by
  have hsplit : actions = (before ++ [Action.stop signal]) ++ (more ++ [Action.close]) := by
    simp [hactions]
  rw [hsplit, run_append] at turns ⊢
  have bounded := run_bounded system service start (before ++ [Action.stop signal])
  have hphase : (traffic.run system service (before ++ [Action.stop signal])).phase ≠ .serving := by
    rw [run_append]
    change ((traffic.run system service before).stop signal).phase ≠ .serving
    unfold stop
    split
    · exact nofun
    · assumption
  refine run_through hphase bounded fun index hlt => turns index ?_
  rw [run_append]
  exact Nat.lt_of_lt_of_eq hlt (congrArg List.length close_exchanges.symm)

/-- A server under settings, once anything has happened to it. -/
theorem serves (system : System World) (config : DeployConfig) (startedAt : String)
    (listener : Listener) (debug : Bool) (actions : List Action) (world : World)
    (signals : .stop none ∉ actions) :
    let service := Service.ofConfig config startedAt
    let start : Traffic World := { world, log := [listener.listening debug] }
    Serves config startedAt (listener.listening debug) actions
      (service.askedFor (start.journal system service actions))
      (start.run system service actions) := by
  intro service start
  have haccounted := Traffic.accounts system config startedAt (rfl : start.exchanges = []) actions
  have hown (index : Nat) := service.askedFor_own (start.journal system service actions) index
  constructor
  case told =>
    have hstart : start.phase.Told (listener.listening debug) none start.log.lifecycle := by
      rw [listener.lifecycle_listening debug]
      exact .serving
    simpa using Traffic.run_told signals hstart
  case ends =>
    intro before signal more hactions turns
    exact Traffic.run_ends system service rfl hactions turns
  case asks =>
    intro index exchange hexchange
    rw [hown]
    exact (hexchange ▸ haccounted index).asks
  case theirs =>
    -- Nothing is asked for on behalf of a request that has not come in.
    intro entry hm
    refine Nat.lt_of_not_le fun hge => ?_
    have habsent := haccounted entry.1
    rw [List.getElem?_eq_none hge] at habsent
    have hnothing := hown entry.1
    rw [habsent.of_absent, Service.asked_nil, List.map_eq_nil_iff] at hnothing
    exact List.filter_eq_nil_iff.1 hnothing entry hm (by simp)
  case health =>
    intro exchange hm
    obtain ⟨index, hexchange⟩ := List.getElem?_of_mem hm
    exact (hexchange ▸ haccounted index).healthy

end Rollout.Http
