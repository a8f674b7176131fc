import Mathlib.Logic.Function.Iterate
import Rollout.Proofs.Http.Handling

/-!
# The causes in a diagnostic

Behind an error stands its source, behind that the source's own, and so on to an
end. A walk along the sources meets every cause once, from the outermost on
(`Walk`), and a diagnostic is the message of the error with a part for each cause
on this walk. The text that an error shows when it wraps another is the text of
that other one, which is why the walk goes on behind the other.
-/

namespace Rollout

-- ---------------------------------------------------------------------------
-- Walks along the sources
-- ---------------------------------------------------------------------------

/-- A cause of a process error: what was met at the system, or an error
somewhere behind it. -/
inductive Cause where
  | met (error : IoError)
  | behind (chain : Chain)

namespace Cause

def text : Cause → String
  | met error => error.text
  | behind chain => chain.text

def source : Cause → Option Cause
  | met error => error.source.map behind
  | behind chain => chain.source.map behind

/-- The causes from one on, each the source of the one before it, until one has
none. -/
inductive Walk : Option Cause → List Cause → Prop where
  | done : Walk none []
  | next {cause : Cause} {rest : List Cause} (walk : Walk cause.source rest) :
      Walk (some cause) (cause :: rest)

variable {start : Option Cause} {causes others : List Cause}

theorem Walk.unique (walk : Walk start causes) (other : Walk start others) : others = causes := by
  induction walk generalizing others with
  | done =>
    cases other
    rfl
  | next walk ih =>
    cases other with
    | next rest => rw [ih rest]

theorem walk_behind (text : String) (texts : List String) :
    ∃ causes, Walk (some (behind ⟨text, texts⟩)) causes ∧
      causes.map Cause.text = text :: texts := by
  induction texts generalizing text with
  | nil => exact ⟨_, .next .done, rfl⟩
  | cons second rest ih =>
    obtain ⟨causes, walk, htexts⟩ := ih second
    exact ⟨_, .next walk, congrArg (text :: ·) htexts⟩

theorem walk_met (error : IoError) :
    ∃ causes, Walk (some (met error)) causes ∧ causes.map Cause.text = error.texts := by
  cases hsource : error.source with
  | none =>
    have walk : Walk (some (met error)) [met error] := by
      refine .next ?_
      rw [source, hsource]
      exact .done
    exact ⟨_, walk, by rw [IoError.texts, hsource]; rfl⟩
  | some chain =>
    obtain ⟨causes, walk, htexts⟩ := walk_behind chain.text chain.causes
    have walk_all : Walk (some (met error)) (met error :: causes) := by
      refine .next ?_
      rw [source, hsource]
      exact walk
    refine ⟨_, walk_all, ?_⟩
    rw [List.map_cons, htexts, IoError.texts, hsource]
    rfl

end Cause

open Cause (Walk)

-- ---------------------------------------------------------------------------
-- The diagnostic
-- ---------------------------------------------------------------------------

namespace ProcessError

/-- One turn of writing a diagnostic: the part of a cause is put behind the text,
and its source comes next. -/
def turn : String × Option Cause → String × Option Cause
  | (text, none) => (text, none)
  | (text, some cause) => (text ++ "\ncaused by: " ++ cause.text, cause.source)

def part (cause : Cause) : String :=
  "\ncaused by: " ++ cause.text

variable {start : Option Cause} {causes : List Cause}

theorem withCauses_eq (text : String) (causes : List Cause) :
    withCauses text (causes.map Cause.text) = text ++ String.join (causes.map part) := by
  induction causes generalizing text with
  | nil => simp [withCauses]
  | cons cause rest ih =>
    have hrest : withCauses text ((cause :: rest).map Cause.text) = _ :=
      ih (text ++ "\ncaused by: " ++ cause.text)
    rw [hrest, List.map_cons, String.join_cons, part, String.append_assoc, String.append_assoc,
      String.append_assoc]

/-- Writing ends after a turn for each cause. -/
theorem turn_iterate (walk : Walk start causes) (text : String) :
    turn^[causes.length] (text, start) = (withCauses text (causes.map Cause.text), none) := by
  induction walk generalizing text with
  | done => rfl
  | next walk ih => exact ih _

end ProcessError

open ProcessError (part turn)

namespace Http

variable {World : Type} {system : System World} {service : Service} {request : Request}
  {world : World}

theorem Service.handle_of_errored {tag : String} {step : Nat} {command : String}
    {error : ProcessError} (deploys : request.deployTag? = some tag)
    (errored : (service.runner.runAll system (service.plan.commands tag) world).value =
      .ok (.errored step command error)) :
    (service.handle system request world).value = .ok (.plain 400 error.diagnostic) := by
  rw [handle_of_outcome deploys errored]
  rfl

/-- What is told of a command that could not be run. Writing the diagnostic ends,
and it is the message with a part for each cause that is met on the walk along
the sources, which starts at the error met at the system and is the only one. An
error of the system is met alone; where the error wraps another, what is met has
the texts of that other one and of what stands behind it. The client of a deploy
that ends so is answered the diagnostic. -/
theorem diagnostic_walks (error : ProcessError) :
    ∃ causes, Walk (some (.met error.source)) causes ∧
      (∀ others, Walk (some (.met error.source)) others → others = causes) ∧
      turn^[causes.length] (error.message, some (.met error.source)) = (error.diagnostic, none) ∧
      error.diagnostic = error.message ++ String.join (causes.map part) ∧
      (∀ code, error.source = .system code → causes.map Cause.text = [error.source.text]) ∧
      (∀ text, error.source = .message text → causes.map Cause.text = [text]) ∧
      (∀ chain, error.source = .wrapped chain →
        causes.map Cause.text = chain.text :: chain.causes) ∧
      ∀ (World : Type) (system : System World) (service : Service) (request : Request)
        (tag : String) (world : World) (step : Nat) (command : String),
        request.deployTag? = some tag →
        (service.runner.runAll system (service.plan.commands tag) world).value =
          .ok (.errored step command error) →
        ∃ response, (service.handle system request world).value = .ok response ∧
          response.status = 400 ∧ response.body = error.diagnostic := by
  obtain ⟨causes, walk, htexts⟩ := Cause.walk_met error.source
  have hwritten : error.diagnostic = ProcessError.withCauses error.message
      (causes.map Cause.text) := by
    rw [htexts]
    rfl
  refine ⟨causes, walk, fun others other => walk.unique other, ?_, ?_, ?_, ?_, ?_, ?_⟩
  · rw [ProcessError.turn_iterate walk, hwritten]
  · rw [hwritten, ProcessError.withCauses_eq]
  · intro code hsource
    rw [htexts, hsource]
    rfl
  · intro text hsource
    rw [htexts, hsource]
    rfl
  · rintro ⟨text, behind⟩ hsource
    rw [htexts, hsource]
    cases behind <;> rfl
  · intro World system service request tag world step command deploys errored
    exact ⟨_, Service.handle_of_errored deploys errored, rfl, rfl⟩

/-- Nothing can be started, for a reason that has a reason of its own. -/
theorem diagnostic_walks_fetch :
    let system : System Unit := fun world _ => (world, .notStarted (.wrapped ⟨"closed", ["full"]⟩))
    let request : Request := ⟨"POST", { path := "/deploy" }, [], ""⟩
    let error : ProcessError := ⟨.spawn, "git", .wrapped ⟨"closed", ["full"]⟩⟩
    request.deployTag? = some "HEAD" ∧
    ((Runner.ofConfig {}).runAll system ((Plan.ofConfig {}).commands "HEAD") ()).value =
      .ok (.errored 0 "git fetch origin" error) ∧
    ∃ response, ((Service.ofConfig {} "now").handle system request ()).value = .ok response ∧
      response.body = "failed to spawn process: git\ncaused by: closed\ncaused by: full" := by
  intro system request error
  have deploys : request.deployTag? = some "HEAD" := by decide
  have errored :
      ((Runner.ofConfig {}).runAll system ((Plan.ofConfig {}).commands "HEAD") ()).value =
        .ok (.errored 0 "git fetch origin" error) := rfl
  obtain ⟨causes, -, -, -, -, -, -, -, told⟩ := diagnostic_walks error
  obtain ⟨response, hvalue, -, hbody⟩ :=
    told Unit system (.ofConfig {} "now") request "HEAD" () 0 "git fetch origin" deploys errored
  exact ⟨deploys, errored, response, hvalue, hbody.trans (by decide)⟩

end Http

end Rollout
