import Rollout.Proofs.Http.RequestLog
import Rollout.Proofs.Http.Shutdown

/-!
# What a server logs of itself

Requests and deploys log under messages of their own, so that what is left of a
log without them is what the server says of itself. Its phase and the first
signal that it got tell that whole (`run_told`), whatever requests there are.
-/

namespace Rollout

/-- The events of a log that are neither of requests nor of deploys. -/
def Log.lifecycle (log : Log) : Log :=
  log.filter fun event => event.message ∉ Http.deployMessages ++ Http.requestMessages

namespace Log

variable {log : Log}

@[simp] theorem lifecycle_append (before after : Log) :
    lifecycle (before ++ after) = before.lifecycle ++ after.lifecycle :=
  List.filter_append before after

theorem lifecycle_eq_nil
    (h : ∀ event ∈ log, event.message ∈ Http.deployMessages ++ Http.requestMessages) :
    log.lifecycle = [] :=
  List.filter_eq_nil_iff.2 fun event hm => by simp [List.mem_append.1 (h event hm)]

theorem lifecycle_append_of (before : Log)
    (h : ∀ event ∈ log, event.message ∈ Http.deployMessages ++ Http.requestMessages) :
    lifecycle (before ++ log) = before.lifecycle := by
  rw [lifecycle_append, lifecycle_eq_nil h, List.append_nil]

end Log

namespace Runner

variable {World : Type} {system : System World} {runner : Runner} {command : Command}
  {world : World} {event : Event}

theorem message_of_run (h : event ∈ (run system runner command world).log) :
    event.message ∈ messages := by
  unfold run at h
  split at h
  · cases h
  · cases hresult : resultOf command (system world (runner.request command)).2 with
    | ok finished =>
      simp only [hresult, List.mem_cons, List.not_mem_nil, or_false] at h
      rcases h with rfl | rfl <;> simp [messages, starting, exited]
    | error error =>
      simp only [hresult, List.mem_singleton] at h
      subst h
      simp [messages, starting]

end Runner

namespace Http

/-- The signal that an action tells a server to stop with. -/
def Action.signal? : Action → Option Signal
  | .stop signal => signal
  | _ => none

/-- What a server has logged of itself in a phase, after the first signal that
it got, if it got any. -/
inductive Phase.Told (listening : Event) : Option Signal → Phase → Log → Prop
  | serving : Told listening none .serving [listening]
  | draining (signal : Signal) : Told listening (some signal) .draining
      [listening, signal.received,
        { level := .info, message := "Starting graceful shutdown..." }]
  | through (signal : Signal) : Told listening (some signal) .through
      [listening, signal.received,
        { level := .info, message := "Starting graceful shutdown..." },
        { level := .info, message := "Server shutdown complete" }]

theorem Phase.Told.signaled {listening : Event} {signal? : Option Signal} {phase : Phase}
    {log : Log} (h : phase.Told listening signal? log) (hphase : phase ≠ .serving) :
    ∃ signal, signal? = some signal := by
  cases h with
  | serving => exact absurd rfl hphase
  | draining signal | through signal => exact ⟨signal, rfl⟩

theorem Progress.message_of_after {step : Nat} {output : String} {command : Command}
    {rest : List Command} {value : Except Refusal (Except ProcessError Finished)} {event : Event}
    (h : event ∈ (after step output command rest value).1) : event.message ∈ Runner.messages := by
  unfold after at h
  split at h
  · cases h
  · rw [List.mem_singleton.1 h]
    simp [Runner.messages, Runner.erring]
  · split at h
    · cases h
    · rw [List.mem_singleton.1 h]
      simp [Runner.messages, Runner.failing]

variable {World : Type} {system : System World} {service : Service} {traffic : Traffic World}
  {exchange : Exchange} {index : Nat} {action : Action} {actions : List Action} {world : World}
  {event listening : Event} {signal? : Option Signal}

theorem Deploy.message_of_advance {deploy : Deploy}
    (h : event ∈ (deploy.advance system service world).log) : event.message ∈ deployMessages := by
  unfold advance at h
  split at h
  next =>
    rw [List.mem_singleton.1 h]
    simp [deployMessages, Service.started]
  next => cases h
  next =>
    split at h
    · cases h
    · rw [List.mem_singleton.1 h]
      simp [deployMessages, Runner.messages, Runner.starting]
  next =>
    refine List.mem_append_right _ ?_
    rcases List.mem_append.1 h with h | h
    · exact Runner.message_of_run (List.mem_of_mem_drop h)
    · exact Progress.message_of_after h
  next => cases h

namespace Traffic

@[simp] theorem write_log (log : Log) : (traffic.write log).log = traffic.log ++ log := rfl

@[simp] theorem setStage_log (stage : Stage) :
    (traffic.setStage index stage).log = traffic.log := rfl

theorem message_answered (request : Request) (response : Response) :
    (Service.answered request response).message ∈ deployMessages ++ requestMessages := by
  rw [answered_eq]
  refine List.mem_append_right _ ?_
  unfold requestEvent
  split <;> simp [requestMessages]

theorem take_lifecycle : (traffic.take service index exchange).log.lifecycle =
    traffic.log.lifecycle := by
  unfold take
  split
  · split
    · rw [write_log, setStage_log]
      refine Log.lifecycle_append_of _ fun event hm => ?_
      rw [List.mem_singleton.1 hm]
      exact message_answered _ _
    · rfl
  · rfl

theorem advance_lifecycle : (traffic.advance system service index exchange).log.lifecycle =
    traffic.log.lifecycle := by
  unfold advance
  split
  · exact Log.lifecycle_append_of _ fun event hm =>
      List.mem_append_left _ (Deploy.message_of_advance hm)
  · rfl

theorem finish_lifecycle : (traffic.finish index exchange).log.lifecycle =
    traffic.log.lifecycle := by
  unfold finish
  split
  · split
    · rw [write_log, setStage_log]
      refine Log.lifecycle_append_of _ fun event hm => ?_
      simp only [List.mem_cons, List.not_mem_nil, or_false] at hm
      rcases hm with rfl | rfl
      · exact List.mem_append_left _ (message_outcomeEvent _)
      · exact message_answered _ _
    · rfl
    · rfl
  · rfl

variable (system service traffic) in
/-- Whatever happens to requests, the server stays in its phase and says nothing
of itself. -/
theorem act_quiet (hstop : ∀ signal, action ≠ .stop signal) (hclose : action ≠ .close) :
    (traffic.act system service action).phase = traffic.phase ∧
    (traffic.act system service action).log.lifecycle = traffic.log.lifecycle := by
  cases action with
  | arrive request =>
    simp only [act]
    split <;> exact ⟨rfl, rfl⟩
  | take index =>
    simp only [act]
    split
    · exact ⟨take_phase index, take_lifecycle⟩
    · exact ⟨rfl, rfl⟩
  | advance index =>
    simp only [act]
    split
    · exact ⟨advance_phase index, advance_lifecycle⟩
    · exact ⟨rfl, rfl⟩
  | finish index =>
    simp only [act]
    split
    · exact ⟨finish_phase index, finish_lifecycle⟩
    · exact ⟨rfl, rfl⟩
  | leave index => exact ⟨rfl, rfl⟩
  | stop signal => exact absurd rfl (hstop signal)
  | close => exact absurd rfl hclose

theorem stop_told (signal : Signal)
    (h : traffic.phase.Told listening signal? traffic.log.lifecycle) :
    (traffic.stop (some signal)).phase.Told listening (signal?.or (some signal))
      (traffic.stop (some signal)).log.lifecycle := by
  by_cases hphase : traffic.phase = .serving
  · rw [hphase] at h
    generalize hlog : traffic.log.lifecycle = log at h
    cases h
    have hnew : Log.lifecycle [signal.received, stopping] = [signal.received, stopping] := by
      cases signal <;> decide
    have hstop : traffic.stop (some signal) =
        { traffic.write [signal.received, stopping] with phase := .draining } := by
      simp [stop, hphase]
    rw [hstop]
    simp only [write_log, Log.lifecycle_append, hlog, hnew]
    exact .draining signal
  · -- A server that is draining or through has got its signal.
    have hsame : traffic.stop (some signal) = traffic := by simp [stop, hphase]
    obtain ⟨first, rfl⟩ := h.signaled hphase
    rwa [hsame]

theorem close_told (h : traffic.phase.Told listening signal? traffic.log.lifecycle) :
    traffic.close.phase.Told listening signal? traffic.close.log.lifecycle := by
  unfold close
  split
  next hcond =>
    have hphase : traffic.phase = .draining := by simp at hcond; exact hcond.1
    have hnew : Log.lifecycle [stopped] = [stopped] := by decide
    rw [hphase] at h
    generalize hlog : traffic.log.lifecycle = log at h
    cases h with
    | draining signal =>
      simp only [write_log, Log.lifecycle_append, hlog, hnew]
      exact .through signal
  next => exact h

variable (system service) in
/-- An action, other than that the server is stopped without a signal. -/
theorem act_told (haction : action ≠ .stop none)
    (h : traffic.phase.Told listening signal? traffic.log.lifecycle) :
    (traffic.act system service action).phase.Told listening (signal?.or action.signal?)
      (traffic.act system service action).log.lifecycle := by
  by_cases hstop : ∃ signal, action = .stop signal
  · obtain ⟨signal, rfl⟩ := hstop
    cases signal with
    | none => exact absurd rfl haction
    | some signal => exact stop_told signal h
  · have hother (signal : Option Signal) : action ≠ .stop signal := fun heq => hstop ⟨signal, heq⟩
    have hnone : action.signal? = none := by
      cases action with
      | stop signal => exact absurd rfl (hother signal)
      | _ => rfl
    rw [hnone, Option.or_none]
    by_cases hclose : action = .close
    · subst hclose
      exact close_told h
    · obtain ⟨hphase, hlog⟩ := act_quiet system service traffic hother hclose
      rwa [hphase, hlog]

theorem run_told (signals : .stop none ∉ actions)
    (h : traffic.phase.Told listening signal? traffic.log.lifecycle) :
    (traffic.run system service actions).phase.Told listening
      (signal?.or (actions.findSome? Action.signal?))
      (traffic.run system service actions).log.lifecycle := by
  induction actions generalizing traffic signal? with
  | nil => simpa [run] using h
  | cons action rest ih =>
    -- A signal counts only if none came before it.
    rw [List.mem_cons, not_or] at signals
    have hnext := ih signals.2 (act_told system service (Ne.symm signals.1) h)
    rw [run_cons]
    cases hsignal : action.signal? with
    | none => simpa [hsignal] using hnext
    | some signal => cases signal? <;> simpa [hsignal] using hnext

end Traffic

end Http

end Rollout
