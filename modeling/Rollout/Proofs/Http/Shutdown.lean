import Rollout.Proofs.Http.Isolation
import Rollout.Proofs.Runner.FirstFailure

/-!
# What a server that is through leaves behind

A server that is told to stop waits for its open connections and for nothing
else. A deploy whose client stays is therefore run to its end before the server
is through; a deploy whose client has left may be anywhere then, also between
two commands.
-/

namespace Rollout.Http

variable {World : Type} {system : System World} {service : Service} {traffic : Traffic World}
  {world : World} {before after : Option Exchange} {exchange : Exchange} {marks : List Mark}
  {action : Action}

/-- A connection that is closed stays closed. -/
theorem Exchange.Moves.closed (h : Moves system service world (some exchange) after marks)
    (closed : exchange.isOpen = false) : ∃ later, after = some later ∧ later.isOpen = false := by
  cases h with
  | stays => exact ⟨_, rfl, closed⟩
  | leaves => exact ⟨_, rfl, rfl⟩
  | replies connected stage _ | starts connected stage _ | finishes connected stage _
  | refuses connected stage _ => simp [isOpen, connected, stage] at closed
  | advances stage => exact ⟨_, rfl, by simpa [isOpen, stage] using closed⟩

namespace Traffic

@[simp] theorem take_phase (index : Nat) :
    (traffic.take service index exchange).phase = traffic.phase := by
  unfold take
  repeat' split
  all_goals rfl

@[simp] theorem advance_phase (index : Nat) :
    (traffic.advance system service index exchange).phase = traffic.phase := by
  unfold advance
  split <;> rfl

@[simp] theorem finish_phase (index : Nat) :
    (traffic.finish index exchange).phase = traffic.phase := by
  unfold finish
  repeat' split
  all_goals rfl

/-- No connection is open. -/
def Closed (traffic : Traffic World) : Prop :=
  ∀ exchange ∈ traffic.exchanges, exchange.isOpen = false

/-- A server is through if it was before or finds no connection open. -/
theorem through_of_act (h : (traffic.act system service action).phase = .through) :
    traffic.phase = .through ∨ action = .close ∧ traffic.Closed := by
  cases action with
  | arrive request =>
    simp only [act] at h
    split at h <;> exact .inl h
  | take index | advance index | finish index =>
    simp only [act] at h
    split at h <;> exact .inl (by simpa using h)
  | leave index => exact .inl h
  | stop signal =>
    simp only [act, stop] at h
    split at h
    · cases h
    · exact .inl h
  | close =>
    simp only [act, close] at h
    split at h
    next hclosed =>
      rw [Bool.and_eq_true, Bool.not_eq_true', List.any_eq_false] at hclosed
      exact .inr ⟨rfl, fun exchange hm => by simpa using hclosed.2 exchange hm⟩
    next => exact .inl h

theorem act_absent (h : ∀ request, action ≠ .arrive request) {index : Nat}
    (hnone : traffic.exchanges[index]? = none) :
    (traffic.act system service action).exchanges[index]? = none := by
  cases hindex : action.index? with
  | some other =>
    by_cases hother : other = index
    · subst hother
      rw [(act_nobody hindex hnone).1, hnone]
    · rw [(act_elsewhere hindex hother).1, hnone]
  | none =>
    cases action with
    | arrive request => exact absurd rfl (h request)
    | stop signal => rw [act, stop_exchanges, hnone]
    | close => rw [act, close_exchanges, hnone]
    | _ => cases hindex

/-- Where no connection is open and nobody is let in, none is opened. -/
theorem act_closed (hphase : traffic.phase ≠ .serving) (closed : traffic.Closed) :
    (traffic.act system service action).Closed := by
  by_cases harrive : ∃ request, action = .arrive request
  · obtain ⟨request, rfl⟩ := harrive
    simpa [act, hphase] using closed
  · intro later hm
    obtain ⟨index, hlater⟩ := List.getElem?_of_mem hm
    have hmoves := act_moves system service traffic action index
    cases hbefore : traffic.exchanges[index]? with
    | none =>
      have hother (request : Request) : action ≠ .arrive request :=
        fun heq => harrive ⟨request, heq⟩
      cases hlater.symm.trans (act_absent hother hbefore)
    | some exchange =>
      rw [hbefore, hlater] at hmoves
      obtain ⟨other, heq, hclosed⟩ := hmoves.closed (closed exchange (List.mem_of_getElem? hbefore))
      cases heq
      exact hclosed

/-- No connection of a server that is through is open. -/
theorem run_closed (actions : List Action) (start : traffic.phase = .through → traffic.Closed)
    (through : (traffic.run system service actions).phase = .through) :
    (traffic.run system service actions).Closed := by
  induction actions generalizing traffic with
  | nil => exact start through
  | cons action rest ih =>
    refine ih (fun hact => ?_) through
    rcases through_of_act hact with hphase | ⟨rfl, closed⟩
    · exact act_closed (by simp [hphase]) (start hphase)
    · simpa [Closed, act] using closed

-- ---------------------------------------------------------------------------
-- What is settled and what is not
-- ---------------------------------------------------------------------------

/-- When a server is through, every request whose client has stayed is
answered, and if it deployed, the commands of its plan were all run or up to
the first that did not exit with code zero. -/
theorem through_settles_staying {World : Type} (system : System World) (config : DeployConfig)
    (startedAt : String) (world : World) (actions : List Action)
    (through : (run system (.ofConfig config startedAt) { world } actions).phase = .through) :
    let service := Service.ofConfig config startedAt
    let traffic := run system service { world } actions
    let journal := journal system service { world } actions
    ∀ index (exchange : Exchange), traffic.exchanges[index]? = some exchange →
      exchange.connected = true →
      (∃ response, exchange.stage = .answered response) ∧
      ∀ tag, exchange.request.deployTag? = some tag →
        (Mark.record (journal.own index)).Complete (service.plan.commands tag) := by
  intro service traffic journal index exchange hexchange connected
  have hstart : ({ world } : Traffic World).phase = .through → ({ world } : Traffic World).Closed :=
    fun h => nomatch h
  have closed := run_closed actions hstart through exchange (List.mem_of_getElem? hexchange)
  obtain ⟨record, haccounted⟩ := Exchange.run_accounted system config startedAt world actions index
  rw [hexchange] at haccounted
  have isolated := haccounted.isolated
  cases hstage : exchange.stage with
  | received => simp [Exchange.isOpen, connected, hstage] at closed
  | deploying deploy => simp [Exchange.isOpen, connected, hstage] at closed
  | refused refusal => exact absurd hstage (isolated.unrefused refusal)
  | answered response => exact ⟨⟨response, rfl⟩, (isolated.answered response hstage).1⟩

/-- The server is told to stop while a deploy is about to begin. The client
stays, the deploy fails at its fourth command, and the server is through when
that is answered. -/
theorem through_settles_staying_failed :
    let request : Request := ⟨"POST", { path := "/deploy" }, [], ""⟩
    let actions : List Action := [.arrive request, .take 0, .stop (some .terminate)] ++
      List.replicate 12 (.advance 0) ++ [.close, .finish 0, .close]
    let traffic := run (Runner.failingAt "bash") (.ofConfig {} "now") { world := 0 } actions
    traffic.phase = .through ∧
    ∃ exchange response, traffic.exchanges[0]? = some exchange ∧ exchange.connected = true ∧
      exchange.stage = .answered response := by
  intro request actions traffic
  have through : traffic.phase = .through := by decide +kernel
  have stayed : traffic.exchanges[0]?.any (·.connected) = true := by decide +kernel
  obtain ⟨exchange, hexchange, connected⟩ := (Option.any_eq_true _ _).1 stayed
  obtain ⟨⟨response, answered⟩, -⟩ := through_settles_staying (Runner.failingAt "bash") {} "now" 0
    actions through 0 exchange hexchange connected
  exact ⟨through, exchange, response, hexchange, connected, answered⟩

variable (system service traffic) in
theorem run_leaves (count : Nat) :
    let last := traffic.run system service ((List.range count).map .leave)
    last.world = traffic.world ∧ last.phase = traffic.phase ∧
    ∀ index : Nat, last.exchanges[index]? = traffic.exchanges[index]?.map
      fun exchange => if index < count then { exchange with connected := false } else exchange := by
  induction count with
  | zero => simp [run]
  | succ count ih =>
    obtain ⟨hworld, hphase, hexchanges⟩ := ih
    rw [List.range_succ, List.map_append, run_append]
    refine ⟨hworld, hphase, fun index => ?_⟩
    rw [List.map_singleton, run_cons]
    simp only [run, List.foldl_nil, act, leave, List.getElem?_modify] at hexchanges ⊢
    rw [hexchanges]
    cases traffic.exchanges[index]? with
    | none => rfl
    | some exchange =>
      rcases Nat.lt_trichotomy index count with hlt | rfl | hgt
      · simp [hlt, Nat.lt_succ_of_lt hlt, Nat.ne_of_gt hlt]
      · simp
      · have hge : ¬ index < count + 1 := Nat.not_lt_of_ge hgt
        simp [Nat.not_lt_of_gt hgt, hge, Nat.ne_of_lt hgt]

theorem stop_of_serving (signal : Option Signal) (h : traffic.phase = .serving) :
    (traffic.stop signal).phase = .draining ∧ (traffic.stop signal).world = traffic.world := by
  simp [stop, write, h]

theorem close_of_closed (h : traffic.phase = .draining)
    (closed : traffic.exchanges.any Exchange.isOpen = false) :
    traffic.close.phase = .through ∧ traffic.close.world = traffic.world := by
  simp [close, write, h, closed]

/-- Wherever deploys are, a server is through as soon as all clients have left
and it is told to stop; no deploy takes a step for that. -/
theorem through_from_anywhere (system : System World) (service : Service)
    (traffic : Traffic World) (signal : Option Signal) (serving : traffic.phase = .serving) :
    let last := traffic.run system service
      ((List.range traffic.exchanges.length).map .leave ++ [.stop signal, .close])
    last.phase = .through ∧ last.world = traffic.world ∧
    last.exchanges = traffic.exchanges.map ({ · with connected := false }) := by
  obtain ⟨hworld, hphase, hexchanges⟩ := run_leaves system service traffic traffic.exchanges.length
  rw [run_append]
  generalize traffic.run system service ((List.range traffic.exchanges.length).map .leave) =
    left at *
  have hleft : left.exchanges = traffic.exchanges.map ({ · with connected := false }) := by
    apply List.ext_getElem?
    intro index
    rw [hexchanges, List.getElem?_map]
    by_cases hindex : index < traffic.exchanges.length
    · simp [hindex]
    · simp [List.getElem?_eq_none (Nat.le_of_not_lt hindex)]
  have closed : (left.exchanges.any Exchange.isOpen) = false := by
    simp [hleft, Exchange.isOpen]
  obtain ⟨hdraining, hstop⟩ := stop_of_serving signal (hphase.trans serving)
  obtain ⟨hthrough, hclose⟩ := close_of_closed hdraining (by rwa [stop_exchanges])
  refine ⟨hthrough, ?_, ?_⟩
  · exact hclose.trans (hstop.trans hworld)
  · exact close_exchanges.trans ((stop_exchanges signal).trans hleft)

/-- A deploy that was started need not have ended when the server is through. -/
theorem through_cuts_deploy :
    ¬ ∀ (system : System Nat) (config : DeployConfig) (startedAt : String) (world : Nat)
      (actions : List Action),
      let traffic := run system (.ofConfig config startedAt) { world } actions
      traffic.phase = .through → ∀ exchange ∈ traffic.exchanges, ∀ deploy,
        exchange.stage = .deploying deploy → ∃ value, deploy.progress = .ended value := by
  intro h
  let request : Request := ⟨"POST", { path := "/deploy" }, [], ""⟩
  -- The first command has ended and the second has not begun.
  let actions : List Action := [.arrive request, .take 0, .advance 0, .advance 0, .advance 0,
    .leave 0, .stop (some .terminate), .close]
  let traffic := run (Runner.failingAt "bash") (.ofConfig {} "now") { world := 0 } actions
  have through : traffic.phase = .through := by decide +kernel
  have under_way :
      traffic.exchanges.any (·.deploy?.any (·.progress.value?.isNone)) = true := by
    decide +kernel
  obtain ⟨exchange, hm, hdeploy⟩ := List.any_eq_true.1 under_way
  obtain ⟨deploy, hsome, hnone⟩ := (Option.any_eq_true _ _).1 hdeploy
  obtain ⟨value, hended⟩ :=
    h _ _ _ _ actions through exchange hm deploy (Exchange.deploy?_eq_some_iff.1 hsome)
  simp [hended, Progress.value?] at hnone

end Traffic

end Rollout.Http
