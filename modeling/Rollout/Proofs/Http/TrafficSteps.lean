import Rollout.Http.Traffic
import Rollout.Proofs.Http.DeploySteps

/-!
# Traffic as one request sees it

What an action means for a single request out of many: `Exchange.Moves` lists
everything that may happen to it, and `act_moves` says that an action does one
of these things to each request. Whatever holds of a request through all its
moves holds of every request in every traffic (`run_invariant`).
-/

namespace Rollout.Http

/-- What is done with children, and for which request. -/
abbrev Journal := List (Nat × Mark)

namespace Journal

/-- What is done for one request. -/
def own (journal : Journal) (index : Nat) : List Mark :=
  (journal.filter (·.1 == index)).map (·.2)

@[simp] theorem own_nil (index : Nat) : own [] index = [] := rfl

@[simp] theorem own_append (before after : Journal) (index : Nat) :
    own (before ++ after) index = own before index ++ own after index := by
  simp [own]

theorem own_here (marks : List Mark) (index : Nat) :
    own (marks.map (Prod.mk index)) index = marks := by
  induction marks with
  | nil => rfl
  | cons mark rest ih => simpa [own] using ih

theorem own_elsewhere {index other : Nat} (h : other ≠ index) (marks : List Mark) :
    own (marks.map (Prod.mk other)) index = [] := by
  simp [own, h]

end Journal

theorem Exchange.deploy?_eq_some_iff {exchange : Exchange} {deploy : Deploy} :
    exchange.deploy? = some deploy ↔ exchange.stage = .deploying deploy := by
  unfold deploy?
  cases exchange.stage <;> simp

/-- The request that an action is about, if it is about one that came in. -/
def Action.index? : Action → Option Nat
  | .take index | .advance index | .finish index | .leave index => some index
  | .arrive _ | .stop _ | .close => none

/-- What may happen to one request when an action is taken in `world`. -/
inductive Exchange.Moves {World : Type} (system : System World) (service : Service)
    (world : World) : Option Exchange → Option Exchange → List Mark → Prop
  | stays {before : Option Exchange} : Moves system service world before before []
  | arrives (request : Request) : Moves system service world none (some { request }) []
  | leaves (exchange : Exchange) :
      Moves system service world (some exchange) (some { exchange with connected := false }) []
  | replies {exchange : Exchange} {response : Response} (connected : exchange.connected = true)
      (stage : exchange.stage = .received)
      (reply : service.reply exchange.request = .respond response) :
      Moves system service world (some exchange)
        (some { exchange with stage := .answered response }) []
  | starts {exchange : Exchange} {tag : String} (connected : exchange.connected = true)
      (stage : exchange.stage = .received) (reply : service.reply exchange.request = .deploy tag) :
      Moves system service world (some exchange)
        (some { exchange with stage := .deploying (.start service tag) }) []
  | advances {exchange : Exchange} {deploy : Deploy} (stage : exchange.stage = .deploying deploy) :
      Moves system service world (some exchange)
        (some { exchange with stage := .deploying (deploy.advance system service world).value })
        (deploy.marks system service world)
  | finishes {exchange : Exchange} {deploy : Deploy} {outcome : Outcome}
      (connected : exchange.connected = true) (stage : exchange.stage = .deploying deploy)
      (ended : deploy.progress = .ended (.ok outcome)) :
      Moves system service world (some exchange)
        (some { exchange with stage := .answered (.ofOutcome outcome) }) []
  | refuses {exchange : Exchange} {deploy : Deploy} {refusal : Refusal}
      (connected : exchange.connected = true) (stage : exchange.stage = .deploying deploy)
      (ended : deploy.progress = .ended (.error refusal)) :
      Moves system service world (some exchange)
        (some { exchange with stage := .refused refusal }) []

namespace Traffic

variable {World : Type} {system : System World} {service : Service} {traffic : Traffic World}
  {exchange : Exchange} {index : Nat} {action : Action} {actions : List Action}

/-- What an action does with children. -/
def marks (system : System World) (service : Service) (traffic : Traffic World) :
    Action → Journal
  | .advance index =>
    match traffic.exchanges[index]?.bind Exchange.deploy? with
    | some deploy => (deploy.marks system service traffic.world).map (Prod.mk index)
    | none => []
  | _ => []

/-- What a list of actions does with children. -/
def journal (system : System World) (service : Service) : Traffic World → List Action → Journal
  | _, [] => []
  | traffic, action :: rest =>
    traffic.marks system service action ++
      journal system service (traffic.act system service action) rest

theorem run_append (before after : List Action) :
    traffic.run system service (before ++ after) =
      (traffic.run system service before).run system service after :=
  List.foldl_append

theorem journal_append (before after : List Action) :
    traffic.journal system service (before ++ after) =
      traffic.journal system service before ++
        (traffic.run system service before).journal system service after := by
  induction before generalizing traffic with
  | nil => rfl
  | cons action rest ih => simp [journal, run, ih]

theorem run_cons (action : Action) (actions : List Action) :
    traffic.run system service (action :: actions) =
      (traffic.act system service action).run system service actions := rfl

-- ---------------------------------------------------------------------------
-- The exchange at an index
-- ---------------------------------------------------------------------------

@[simp] theorem write_exchanges (log : Log) : (traffic.write log).exchanges = traffic.exchanges :=
  rfl

theorem setStage_here (h : traffic.exchanges[index]? = some exchange) (stage : Stage) :
    (traffic.setStage index stage).exchanges[index]? = some { exchange with stage } := by
  simp [setStage, h]

theorem setStage_elsewhere {other : Nat} (h : other ≠ index) (stage : Stage) :
    (traffic.setStage other stage).exchanges[index]? = traffic.exchanges[index]? := by
  simp [setStage, h]

theorem take_elsewhere {other : Nat} (h : other ≠ index) :
    (traffic.take service other exchange).exchanges[index]? = traffic.exchanges[index]? := by
  unfold take
  repeat' split
  all_goals simp [setStage_elsewhere h]

theorem advance_elsewhere {other : Nat} (h : other ≠ index) :
    (traffic.advance system service other exchange).exchanges[index]? =
      traffic.exchanges[index]? := by
  unfold advance
  split
  all_goals simp [setStage_elsewhere h]

theorem finish_elsewhere {other : Nat} (h : other ≠ index) :
    (traffic.finish other exchange).exchanges[index]? = traffic.exchanges[index]? := by
  unfold finish
  repeat' split
  all_goals simp [setStage_elsewhere h]

theorem leave_elsewhere {other : Nat} (h : other ≠ index) :
    (traffic.leave other).exchanges[index]? = traffic.exchanges[index]? := by
  simp [leave, h]

@[simp] theorem stop_exchanges (signal : Option Signal) :
    (traffic.stop signal).exchanges = traffic.exchanges := by
  unfold stop
  split <;> rfl

@[simp] theorem close_exchanges : traffic.close.exchanges = traffic.exchanges := by
  unfold close
  split <;> rfl

-- ---------------------------------------------------------------------------
-- What an action means for a request
-- ---------------------------------------------------------------------------

section
variable (h : traffic.exchanges[index]? = some exchange)
include h

theorem take_moves : Exchange.Moves system service traffic.world (some exchange)
    (traffic.take service index exchange).exchanges[index]? [] := by
  unfold take
  split
  next hc hs =>
    split
    next response hreply =>
      rw [write_exchanges, setStage_here h]
      exact .replies hc hs hreply
    next tag hreply =>
      rw [setStage_here h]
      exact .starts hc hs hreply
  next =>
    rw [h]
    exact .stays

theorem advance_moves : Exchange.Moves system service traffic.world (some exchange)
    (traffic.advance system service index exchange).exchanges[index]?
    ((traffic.marks system service (.advance index)).own index) := by
  simp only [marks, h, Option.bind_some]
  cases hdeploy : exchange.deploy? with
  | none =>
    have hstage (deploy : Deploy) : exchange.stage ≠ .deploying deploy := by
      simp [← Exchange.deploy?_eq_some_iff, hdeploy]
    have hsame : traffic.advance system service index exchange = traffic := by
      unfold advance
      split
      next deploy hs => exact absurd hs (hstage deploy)
      next => rfl
    rw [hsame, h]
    exact .stays
  | some deploy =>
    have hs := Exchange.deploy?_eq_some_iff.1 hdeploy
    simp only [advance, hs, Journal.own_here, write_exchanges, setStage_here h]
    exact .advances hs

theorem finish_moves : Exchange.Moves system service traffic.world (some exchange)
    (traffic.finish index exchange).exchanges[index]? [] := by
  unfold finish
  split
  next deploy hc hs =>
    split
    next outcome hvalue =>
      rw [write_exchanges, setStage_here h]
      exact .finishes hc hs (Progress.value?_eq_some_iff.1 hvalue)
    next refusal hvalue =>
      rw [setStage_here h]
      exact .refuses hc hs (Progress.value?_eq_some_iff.1 hvalue)
    next =>
      rw [h]
      exact .stays
  next =>
    rw [h]
    exact .stays

theorem leave_moves : Exchange.Moves system service traffic.world (some exchange)
    (traffic.leave index).exchanges[index]? [] := by
  have hleft : (traffic.leave index).exchanges[index]? =
      some { exchange with connected := false } := by
    simp [leave, h]
  rw [hleft]
  exact .leaves exchange

end

theorem marks_elsewhere {other : Nat} (h : other ≠ index) :
    (traffic.marks system service (.advance other)).own index = [] := by
  simp only [marks]
  split
  · exact Journal.own_elsewhere h _
  · rfl

theorem arrive_moves (request : Request) (index : Nat) :
    Exchange.Moves system service traffic.world traffic.exchanges[index]?
      (traffic.exchanges ++ [({ request } : Exchange)])[index]? [] := by
  -- A request that comes in stands behind all others.
  rcases Nat.lt_trichotomy index traffic.exchanges.length with hlt | rfl | hgt
  · rw [List.getElem?_append_left hlt]
    exact .stays
  · rw [List.getElem?_concat_length, List.getElem?_eq_none (Nat.le_refl _)]
    exact .arrives request
  · have hlength : (traffic.exchanges ++ [({ request } : Exchange)]).length ≤ index := by
      simpa using Nat.succ_le_of_lt hgt
    rw [List.getElem?_eq_none (Nat.le_of_lt hgt), List.getElem?_eq_none hlength]
    exact .stays

theorem act_elsewhere {other : Nat} (hindex : action.index? = some other) (h : other ≠ index) :
    (traffic.act system service action).exchanges[index]? = traffic.exchanges[index]? ∧
      (traffic.marks system service action).own index = [] := by
  cases action with
  | take _ =>
    cases hindex
    simp only [act]
    split
    · exact ⟨take_elsewhere h, rfl⟩
    · exact ⟨rfl, rfl⟩
  | advance _ =>
    cases hindex
    simp only [act]
    split
    · exact ⟨advance_elsewhere h, marks_elsewhere h⟩
    · exact ⟨rfl, marks_elsewhere h⟩
  | finish _ =>
    cases hindex
    simp only [act]
    split
    · exact ⟨finish_elsewhere h, rfl⟩
    · exact ⟨rfl, rfl⟩
  | leave _ =>
    cases hindex
    exact ⟨leave_elsewhere h, rfl⟩
  | arrive _ | stop _ | close => cases hindex

/-- Nothing is done for a request that has not come in. -/
theorem act_nobody (hindex : action.index? = some index) (h : traffic.exchanges[index]? = none) :
    traffic.act system service action = traffic ∧ traffic.marks system service action = [] := by
  cases action with
  | take _ | finish _ =>
    cases hindex
    simp only [act, marks, h, and_self]
  | advance _ =>
    cases hindex
    simp only [act, marks, h, Option.bind_none, and_self]
  | leave _ =>
    cases hindex
    have hsame : traffic.exchanges.modify index ({ · with connected := false }) =
        traffic.exchanges := List.modify_eq_self (List.getElem?_eq_none_iff.1 h)
    simp only [act, leave, marks, hsame, and_self]
  | arrive _ | stop _ | close => cases hindex

theorem act_here (hindex : action.index? = some index)
    (h : traffic.exchanges[index]? = some exchange) :
    Exchange.Moves system service traffic.world (some exchange)
      (traffic.act system service action).exchanges[index]?
      ((traffic.marks system service action).own index) := by
  cases action with
  | take _ =>
    cases hindex
    simp only [act, h]
    exact take_moves h
  | advance _ =>
    cases hindex
    simp only [act, h]
    exact advance_moves h
  | finish _ =>
    cases hindex
    simp only [act, h]
    exact finish_moves h
  | leave _ =>
    cases hindex
    exact leave_moves h
  | arrive _ | stop _ | close => cases hindex

/-- An action does to each request one of the things that may happen to it. -/
theorem act_moves (system : System World) (service : Service) (traffic : Traffic World)
    (action : Action) (index : Nat) :
    Exchange.Moves system service traffic.world traffic.exchanges[index]?
      (traffic.act system service action).exchanges[index]?
      ((traffic.marks system service action).own index) := by
  cases hindex : action.index? with
  | some other =>
    by_cases hother : other = index
    · subst hother
      cases h : traffic.exchanges[other]? with
      | none =>
        obtain ⟨hsame, hmarks⟩ := act_nobody hindex h
        rw [hsame, hmarks, h]
        exact .stays
      | some exchange => exact act_here hindex h
    · obtain ⟨hsame, hmarks⟩ := act_elsewhere hindex hother
      rw [hsame, hmarks]
      exact .stays
  | none =>
    cases action with
    | arrive request =>
      simp only [act]
      split
      · exact arrive_moves request index
      · exact .stays
    | stop signal =>
      rw [act, stop_exchanges]
      exact .stays
    | close =>
      rw [act, close_exchanges]
      exact .stays
    | _ => cases hindex

-- ---------------------------------------------------------------------------
-- Whole runs
-- ---------------------------------------------------------------------------

section
variable (Holds : Option Exchange → List Mark → Prop)
  (moves : ∀ world before after done marks,
    Exchange.Moves system service world before after marks →
    Holds before done → Holds after (done ++ marks))
include moves

theorem run_preserves (traffic : Traffic World) (actions : List Action) {done : List Mark}
    (h : Holds traffic.exchanges[index]? done) :
    Holds (traffic.run system service actions).exchanges[index]?
      (done ++ (traffic.journal system service actions).own index) := by
  induction actions generalizing traffic done with
  | nil => simpa [run, journal] using h
  | cons action rest ih =>
    have hstep := moves _ _ _ _ _ (act_moves system service traffic action index) h
    simpa [run, journal] using ih _ hstep

/-- What holds of a request before anything happens to it and through all its
moves holds of every request in every traffic, told by what was done for it. -/
theorem run_invariant (start : Holds none []) (world : World) (actions : List Action)
    (index : Nat) :
    Holds (run system service { world } actions).exchanges[index]?
      ((journal system service { world } actions).own index) := by
  simpa using run_preserves Holds moves { world } actions start

end

end Traffic

end Rollout.Http
