import Rollout.Proofs.Http.DeployRest
import Rollout.Proofs.Http.Lifecycle

/-!
# A server that is told to stop comes to its end

A request needs its handler started, some steps of its deploy, and its handler
ended. It may get these at any time and with anything in between: whatever else
happens brings its deploy no further from the end (`Moves.near`). A server that
was told to stop is therefore through once every request has had its turns.
-/

namespace Rollout.Http

/-- The turns that bring a request to its answer. -/
def Service.turns (service : Service) (index : Nat) : List Action :=
  .take index :: (List.replicate service.steps (Action.advance index) ++ [Action.finish index])

variable {World : Type} {system : System World} {service : Service} {traffic : Traffic World}
  {world : World} {exchange : Exchange} {before after : Option Exchange} {marks : List Mark}
  {index count : Nat} {action : Action} {actions : List Action}

theorem Deploy.stepsLeft_start (service : Service) (tag : String) :
    (start service tag).progress.stepsLeft ≤ service.steps :=
  -- The number of commands is the same for every tag.
  Nat.le_refl _

theorem Deploy.stepsLeft_advance_le {deploy : Deploy} (h : deploy.progress.stepsLeft ≤ count) :
    (deploy.advance system service world).value.progress.stepsLeft ≤ count :=
  calc (deploy.advance system service world).value.progress.stepsLeft
    _ ≤ deploy.progress.stepsLeft - 1 := deploy.stepsLeft_advance system service world
    _ ≤ deploy.progress.stepsLeft := Nat.sub_le _ 1
    _ ≤ count := h

namespace Exchange

/-- A deploy of this request has at most `count` steps to its end. -/
def Bounded (count : Nat) (exchange : Exchange) : Prop :=
  ∀ deploy, exchange.stage = .deploying deploy → deploy.progress.stepsLeft ≤ count

/-- The connection is closed, or there is a deploy that has at most `count`
steps to its end. -/
def Near (count : Nat) (exchange : Exchange) : Prop :=
  exchange.isOpen = true →
    ∃ deploy, exchange.stage = .deploying deploy ∧ deploy.progress.stepsLeft ≤ count

theorem Moves.persists (h : Moves system service world (some exchange) after marks) :
    ∃ later, after = some later := by
  cases h <;> exact ⟨_, rfl⟩

theorem near_of_closed (closed : exchange.isOpen = false) : exchange.Near count :=
  fun hopen => absurd hopen (by simp [closed])

theorem Moves.bounded (h : Moves system service world before after marks)
    (bounded : ∀ exchange ∈ before, exchange.Bounded service.steps) :
    ∀ exchange ∈ after, exchange.Bounded service.steps := by
  rintro later rfl
  cases h with
  | stays => exact bounded later rfl
  | leaves exchange => exact bounded exchange rfl
  | arrives _ | replies _ _ _ | finishes _ _ _ | refuses _ _ _ => exact nofun
  | starts _ _ _ =>
    rintro _ ⟨⟩
    exact Deploy.stepsLeft_start service _
  | @advances exchange deploy stage =>
    rintro _ ⟨⟩
    exact Deploy.stepsLeft_advance_le (bounded exchange rfl deploy stage)

/-- Nothing that may happen to a request brings it further from its end. -/
theorem Moves.near (h : Moves system service world (some exchange) after marks)
    (near : exchange.Near count) : ∃ later, after = some later ∧ later.Near count := by
  by_cases hopen : exchange.isOpen = true
  · obtain ⟨deploy, hstage, hsteps⟩ := near hopen
    cases h with
    | stays => exact ⟨exchange, rfl, near⟩
    | leaves => exact ⟨_, rfl, near_of_closed rfl⟩
    | replies _ stage _ | starts _ stage _ => cases hstage.symm.trans stage
    | advances stage =>
      cases hstage.symm.trans stage
      exact ⟨_, rfl, fun _ => ⟨_, rfl, Deploy.stepsLeft_advance_le hsteps⟩⟩
    | finishes _ _ _ | refuses _ _ _ =>
      exact ⟨_, rfl, near_of_closed (by simp [isOpen])⟩
  · obtain ⟨later, hlater, closed⟩ := h.closed (by simpa using hopen)
    exact ⟨later, hlater, near_of_closed closed⟩

end Exchange

namespace Traffic

/-- There is a request at `index` of which this holds. -/
def At (Holds : Exchange → Prop) (index : Nat) (traffic : Traffic World) : Prop :=
  ∃ exchange, traffic.exchanges[index]? = some exchange ∧ Holds exchange

abbrev ClosedAt (index : Nat) (traffic : Traffic World) : Prop :=
  At (fun exchange => exchange.isOpen = false) index traffic

/-- What lasts through all moves of a request lasts through all actions. -/
theorem act_at {Holds : Exchange → Prop}
    (moves : ∀ exchange after marks, Exchange.Moves system service traffic.world (some exchange)
      after marks → Holds exchange → ∃ later, after = some later ∧ Holds later)
    (h : At Holds index traffic) : At Holds index (traffic.act system service action) := by
  obtain ⟨exchange, hexchange, hholds⟩ := h
  have hmoves := act_moves system service traffic action index
  rw [hexchange] at hmoves
  exact moves _ _ _ hmoves hholds

theorem act_bounded (h : At (·.Bounded service.steps) index traffic) :
    At (·.Bounded service.steps) index (traffic.act system service action) := by
  refine act_at (fun exchange after marks hmoves bounded => ?_) h
  obtain ⟨later, rfl⟩ := hmoves.persists
  exact ⟨later, rfl, hmoves.bounded (fun _ heq => Option.some.inj heq ▸ bounded) later rfl⟩

theorem act_near (h : At (·.Near count) index traffic) :
    At (·.Near count) index (traffic.act system service action) :=
  act_at (fun _ _ _ hmoves => hmoves.near) h

theorem act_closedAt (h : ClosedAt index traffic) :
    ClosedAt index (traffic.act system service action) :=
  act_at (fun _ _ _ hmoves => hmoves.closed) h

-- ---------------------------------------------------------------------------
-- The turns of a request
-- ---------------------------------------------------------------------------

theorem take_near (h : At (·.Bounded service.steps) index traffic) :
    At (·.Near service.steps) index (traffic.act system service (.take index)) := by
  obtain ⟨exchange, hexchange, bounded⟩ := h
  simp only [act, hexchange, take]
  split
  next hc hs =>
    split
    next response hreply =>
      exact ⟨_, setStage_here hexchange _, Exchange.near_of_closed (by simp [Exchange.isOpen])⟩
    next tag hreply =>
      refine ⟨_, setStage_here hexchange _, fun _ => ⟨_, rfl, ?_⟩⟩
      exact Deploy.stepsLeft_start service tag
  next hother =>
    refine ⟨exchange, hexchange, fun hopen => ?_⟩
    obtain ⟨connected, hstage⟩ := Bool.and_eq_true_iff.1 hopen
    cases hs : exchange.stage with
    | received => exact absurd hs (hother connected)
    | deploying deploy => exact ⟨deploy, rfl, bounded deploy hs⟩
    | answered | refused => simp [hs] at hstage

theorem advance_near (h : At (·.Near (count + 1)) index traffic) :
    At (·.Near count) index (traffic.act system service (.advance index)) := by
  obtain ⟨exchange, hexchange, near⟩ := h
  by_cases hopen : exchange.isOpen = true
  · obtain ⟨deploy, hstage, hsteps⟩ := near hopen
    simp only [act, hexchange, advance, hstage]
    refine ⟨_, setStage_here hexchange _, fun _ => ⟨_, rfl, ?_⟩⟩
    calc (deploy.advance system service traffic.world).value.progress.stepsLeft
        ≤ deploy.progress.stepsLeft - 1 := deploy.stepsLeft_advance system service traffic.world
      _ ≤ count := Nat.sub_le_of_le_add hsteps
  · have hclosed : ClosedAt index (traffic.act system service (.advance index)) :=
      act_closedAt ⟨exchange, hexchange, by simpa using hopen⟩
    obtain ⟨later, hlater, closed⟩ := hclosed
    exact ⟨later, hlater, Exchange.near_of_closed closed⟩

theorem finish_closedAt (h : At (·.Near 0) index traffic) :
    ClosedAt index (traffic.act system service (.finish index)) := by
  obtain ⟨exchange, hexchange, near⟩ := h
  by_cases hopen : exchange.isOpen = true
  · obtain ⟨deploy, hstage, hsteps⟩ := near hopen
    obtain ⟨value, hended⟩ := Progress.ended_of_stepsLeft (Nat.le_zero.1 hsteps)
    have connected : exchange.connected = true := (Bool.and_eq_true_iff.1 hopen).1
    simp only [act, hexchange, finish, connected, hstage, hended, Progress.value?]
    cases value with
    | ok outcome => exact ⟨_, setStage_here hexchange _, by simp [Exchange.isOpen]⟩
    | error refusal => exact ⟨_, setStage_here hexchange _, by simp [Exchange.isOpen]⟩
  · exact act_closedAt ⟨exchange, hexchange, by simpa using hopen⟩

-- ---------------------------------------------------------------------------
-- Turns among whatever else happens
-- ---------------------------------------------------------------------------

theorem run_stable (Holds : Traffic World → Prop)
    (stable : ∀ traffic action, Holds traffic → Holds (act system service traffic action))
    (h : Holds traffic) (actions : List Action) : Holds (traffic.run system service actions) := by
  induction actions generalizing traffic with
  | nil => exact h
  | cons action rest ih => exact ih (stable traffic action h)

/-- What lasts, and what an action then makes of it that lasts as well. -/
theorem run_of_mem (Before After : Traffic World → Prop)
    (before : ∀ traffic action, Before traffic → Before (act system service traffic action))
    (after : ∀ traffic action, After traffic → After (act system service traffic action))
    (step : ∀ traffic, Before traffic → After (act system service traffic action))
    (hm : action ∈ actions) (h : Before traffic) :
    After (traffic.run system service actions) := by
  obtain ⟨front, back, rfl⟩ := List.append_of_mem hm
  rw [run_append, run_cons]
  exact run_stable After after (step _ (run_stable Before before h front)) back

theorem run_closed_of_near
    (turns : (List.replicate count (Action.advance index) ++ [Action.finish index]).Sublist actions)
    (h : At (·.Near count) index traffic) :
    ClosedAt index (traffic.run system service actions) := by
  -- Each step that is left stands somewhere among the actions, and those before and
  -- behind it take nothing back.
  induction count generalizing traffic actions with
  | zero =>
    exact run_of_mem (At (·.Near 0) index) (ClosedAt index) (fun _ _ => act_near)
      (fun _ _ => act_closedAt) (fun _ => finish_closedAt) (List.singleton_sublist.1 turns) h
  | succ count ih =>
    rw [List.replicate_succ, List.cons_append, List.cons_sublist_iff] at turns
    obtain ⟨front, back, rfl, hm, rest⟩ := turns
    rw [run_append]
    exact ih rest (run_of_mem (At (·.Near (count + 1)) index) (At (·.Near count) index)
      (fun _ _ => act_near) (fun _ _ => act_near) (fun _ => advance_near) hm h)

theorem run_closed_of_turns (turns : (service.turns index).Sublist actions)
    (h : At (·.Bounded service.steps) index traffic) :
    ClosedAt index (traffic.run system service actions) := by
  rw [Service.turns, List.cons_sublist_iff] at turns
  obtain ⟨front, back, rfl, hm, rest⟩ := turns
  rw [run_append]
  exact run_closed_of_near rest (run_of_mem (At (·.Bounded service.steps) index)
    (At (·.Near service.steps) index) (fun _ _ => act_bounded) (fun _ _ => act_near)
    (fun _ => take_near) hm h)

-- ---------------------------------------------------------------------------
-- To the end of the server
-- ---------------------------------------------------------------------------

theorem run_bounded (system : System World) (service : Service) (start : traffic.exchanges = [])
    (actions : List Action) (index : Nat) :
    ∀ exchange ∈ (traffic.run system service actions).exchanges[index]?,
      exchange.Bounded service.steps := by
  have hstart : ∀ exchange ∈ traffic.exchanges[index]?, exchange.Bounded service.steps := by
    simp [start]
  exact run_stable (fun last => ∀ exchange ∈ last.exchanges[index]?, exchange.Bounded service.steps)
    (fun last action h => (act_moves system service last action index).bounded h) hstart actions

theorem act_stopped (h : traffic.phase ≠ .serving) :
    (traffic.act system service action).phase ≠ .serving := by
  by_cases hstop : ∃ signal, action = .stop signal
  · obtain ⟨signal, rfl⟩ := hstop
    simp [act, stop, h]
  · by_cases hclose : action = .close
    · subst hclose
      simp only [act, close]
      split
      · intro hserving
        cases hserving
      · exact h
    · have hquiet := act_quiet system service traffic (fun signal heq => hstop ⟨signal, heq⟩) hclose
      rwa [hquiet.1]

theorem act_stopped_absent (h : traffic.phase ≠ .serving ∧ traffic.exchanges[index]? = none) :
    (traffic.act system service action).phase ≠ .serving ∧
      (traffic.act system service action).exchanges[index]? = none := by
  refine ⟨act_stopped h.1, ?_⟩
  -- Nobody comes in once the server was told to stop.
  by_cases harrive : ∃ request, action = .arrive request
  · obtain ⟨request, rfl⟩ := harrive
    simpa [act, h.1] using h.2
  · exact act_absent (fun request heq => harrive ⟨request, heq⟩) h.2

/-- A server that was told to stop is through when it finds that every request
has had its turns. -/
theorem run_through (hphase : traffic.phase ≠ .serving)
    (bounded : ∀ index : Nat, ∀ exchange ∈ traffic.exchanges[index]?,
      exchange.Bounded service.steps)
    (turns : ∀ index < (traffic.run system service actions).exchanges.length,
      (service.turns index).Sublist actions) :
    (traffic.run system service (actions ++ [Action.close])).phase = .through := by
  have closed : (traffic.run system service actions).exchanges.any Exchange.isOpen = false := by
    rw [List.any_eq_false]
    intro exchange hm
    obtain ⟨index, hexchange⟩ := List.getElem?_of_mem hm
    obtain ⟨hlt, -⟩ := List.getElem?_eq_some_iff.1 hexchange
    -- A request that is there in the end was there when the server was told to stop.
    cases hbefore : traffic.exchanges[index]? with
    | none =>
      have habsent : _ ∧ (traffic.run system service actions).exchanges[index]? = none :=
        run_stable (fun last => last.phase ≠ .serving ∧ last.exchanges[index]? = none)
          (fun _ _ => act_stopped_absent) ⟨hphase, hbefore⟩ actions
      cases habsent.2.symm.trans hexchange
    | some first =>
      have hclosed : ClosedAt index (traffic.run system service actions) :=
        run_closed_of_turns (turns index hlt) ⟨first, hbefore, bounded index first hbefore⟩
      obtain ⟨later, hlater, hclosed⟩ := hclosed
      cases hlater.symm.trans hexchange
      simp [hclosed]
  have hstopped : (traffic.run system service actions).phase ≠ .serving :=
    run_stable (·.phase ≠ .serving) (fun _ _ => act_stopped) hphase actions
  rw [run_append]
  generalize traffic.run system service actions = last at closed hstopped
  change last.close.phase = .through
  cases hlast : last.phase with
  | serving => exact absurd hlast hstopped
  | draining => exact (close_of_closed hlast closed).1
  | through => simp [close, hlast]

end Traffic

end Rollout.Http
