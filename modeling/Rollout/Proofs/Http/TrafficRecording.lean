import Rollout.Proofs.Http.TrafficSteps
import Rollout.Proofs.Runner.Recording

/-!
# The journal is what the system is asked

A traffic over a system that keeps what it is asked goes on like the traffic
over the system itself, and what is kept are the requests for the commands that
the journal says have ended, in the order in which they did (`run_recording`).
-/

namespace Rollout.Http

/-- The requests to the system for commands that have ended. -/
def Service.asked (service : Service) (record : Record) : List Rollout.Request :=
  record.commands.map service.runner.request

@[simp] theorem Service.asked_nil (service : Service) : service.asked [] = [] := rfl

@[simp] theorem Service.asked_singleton (service : Service) (command : Command)
    (ending : Ending) : service.asked [(command, ending)] = [service.runner.request command] := rfl

theorem Service.asked_append (service : Service) (before after : Record) :
    service.asked (before ++ after) = service.asked before ++ service.asked after := by
  simp [asked, Record.commands]

namespace Traffic

variable {World World' : Type} {system : System World} {service : Service}
  {traffic : Traffic World} {action : Action} {world : World} {asked : List Rollout.Request}

/-- The same traffic in another world. -/
def inWorld (traffic : Traffic World) (world : World') : Traffic World' where
  world
  log := traffic.log
  exchanges := traffic.exchanges
  phase := traffic.phase

theorem advance_recording (deploy : Deploy) :
    deploy.advance system.recording service (world, asked) =
      let report := deploy.advance system service world
      ⟨(report.world, asked ++ service.asked (Mark.record (deploy.marks system service world))),
        report.log, report.value⟩ := by
  unfold Deploy.advance
  split
  next commands hp => simp [Deploy.marks, hp]
  next step output hp => simp [Deploy.marks, hp]
  next step output command rest hp =>
    cases hc : command.redirects <;> simp [Deploy.marks, hp, hc]
  next step output command rest hp =>
    rw [Runner.run_recording]
    cases hc : command.redirects <;> simp [Deploy.marks, hp, hc]
  next value hp => simp [Deploy.marks, hp]

theorem take_inWorld (world' : World') (index : Nat) (exchange : Exchange) :
    (traffic.inWorld world').take service index exchange =
      (traffic.take service index exchange).inWorld world' ∧
    (traffic.take service index exchange).world = traffic.world := by
  unfold take
  split
  · split <;> exact ⟨rfl, rfl⟩
  · exact ⟨rfl, rfl⟩

theorem finish_inWorld (world' : World') (index : Nat) (exchange : Exchange) :
    (traffic.inWorld world').finish index exchange =
      (traffic.finish index exchange).inWorld world' ∧
    (traffic.finish index exchange).world = traffic.world := by
  unfold finish
  split
  · split <;> exact ⟨rfl, rfl⟩
  · exact ⟨rfl, rfl⟩

theorem close_inWorld (world' : World') :
    (traffic.inWorld world').close = traffic.close.inWorld world' ∧
    traffic.close.world = traffic.world := by
  have hsame : ((traffic.inWorld world').phase = .draining &&
      !(traffic.inWorld world').exchanges.any Exchange.isOpen) =
      (traffic.phase = .draining && !traffic.exchanges.any Exchange.isOpen) := rfl
  unfold close
  rw [hsame]
  split <;> exact ⟨rfl, rfl⟩

/-- Only the step of a deploy has to do with the world. -/
theorem act_inWorld (system : System World) (system' : System World') (service : Service)
    (traffic : Traffic World) (h : ∀ index, action ≠ .advance index) (world' : World') :
    act system' service (traffic.inWorld world') action =
      (traffic.act system service action).inWorld world' ∧
    (traffic.act system service action).world = traffic.world ∧
    traffic.marks system service action = [] := by
  cases action with
  | arrive request =>
    by_cases hphase : traffic.phase = .serving <;> simp [act, inWorld, marks, hphase]
  | take index =>
    cases hx : traffic.exchanges[index]? with
    | none => simp [act, inWorld, marks, hx]
    | some exchange => simpa [act, inWorld, marks, hx] using take_inWorld world' index exchange
  | advance index => exact absurd rfl (h index)
  | finish index =>
    cases hx : traffic.exchanges[index]? with
    | none => simp [act, inWorld, marks, hx]
    | some exchange => simpa [act, inWorld, marks, hx] using finish_inWorld world' index exchange
  | leave index => exact ⟨rfl, rfl, rfl⟩
  | stop signal =>
    by_cases hphase : traffic.phase = .serving <;> simp [act, stop, write, inWorld, marks, hphase]
  | close => simpa [act, marks] using close_inWorld world'

/-- A step of a deploy asks for the command that ends in it. -/
theorem advance_inWorld (index : Nat) (exchange : Exchange)
    (h : traffic.exchanges[index]? = some exchange) :
    (traffic.inWorld (traffic.world, asked)).advance system.recording service index exchange =
      let next := traffic.advance system service index exchange
      next.inWorld (next.world, asked ++ service.asked
        (Mark.record ((traffic.marks system service (.advance index)).map (·.2)))) := by
  cases hstage : exchange.stage with
  | deploying deploy =>
    simp [advance, marks, h, Exchange.deploy?, hstage, inWorld, advance_recording, setStage, write,
      Function.comp_def]
  | received | answered _ | refused _ => simp [advance, marks, h, Exchange.deploy?, hstage]

/-- Whether requests are kept makes no difference to anything else. -/
theorem act_recording (traffic : Traffic World) (action : Action) (asked : List Rollout.Request) :
    act system.recording service (traffic.inWorld (traffic.world, asked)) action =
      let next := traffic.act system service action
      next.inWorld (next.world, asked ++
        service.asked (Mark.record ((traffic.marks system service action).map (·.2)))) := by
  by_cases h : ∃ index, action = .advance index
  · obtain ⟨index, rfl⟩ := h
    cases hx : traffic.exchanges[index]? with
    | none => simp [act, inWorld, marks, hx]
    | some exchange => simpa [act, inWorld, hx] using advance_inWorld index exchange hx
  · have hother (index : Nat) : action ≠ .advance index := fun heq => h ⟨index, heq⟩
    obtain ⟨hover, hworld, hmarks⟩ :=
      act_inWorld system system.recording service traffic hother (traffic.world, asked)
    simp [hover, hworld, hmarks]

/-- The requests to the system are those for the commands that have ended. -/
theorem run_recording (traffic : Traffic World) (actions : List Action)
    (asked : List Rollout.Request) :
    run system.recording service (traffic.inWorld (traffic.world, asked)) actions =
      let last := traffic.run system service actions
      last.inWorld (last.world, asked ++
        service.asked (Mark.record ((traffic.journal system service actions).map (·.2)))) := by
  induction actions generalizing traffic asked with
  | nil => simp [run, journal]
  | cons action rest ih =>
    rw [run_cons, act_recording, ih]
    simp [run_cons, journal, Service.asked_append]

end Traffic

end Rollout.Http
