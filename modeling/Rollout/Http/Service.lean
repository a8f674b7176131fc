import Rollout.Plan
import Rollout.Text.Quoted
import Rollout.Http.Form
import Rollout.Http.Request
import Rollout.Http.Response

/-!
# The service

Two resources: one that deploys and one that tells that the program is alive.
Only a deploy changes the world. Every request that is answered is logged
after all that its handling logs.
-/

namespace Rollout.Http

/-- The resources of the service. -/
inductive Route where
  | deploy
  | health
  deriving DecidableEq, Repr

namespace Route

/-- The resource at a path, which has to match letter by letter. -/
def ofPath? (path : String) : Option Route :=
  if path = "/deploy" then some deploy
  else if path = "/health" then some health
  else none

/-- The methods that a resource answers to. -/
def methods : Route → List String
  | deploy => ["POST"]
  | health => ["GET", "HEAD"]

end Route

/-- A query names more than one tag. -/
def repeatedTag : String := "Failed to deserialize query string: duplicate field \x60tag\x60"

/-- The tag that a query names, if it names any; an error where it names more
than one. -/
def tagOf (query : Option String) : Except String (Option String) :=
  match (Form.read (query.getD "")).filter (fun pair => pair.1 == "tag") with
  | [] => .ok none
  | [pair] => .ok (some pair.2)
  | _ => .error repeatedTag

/-- What is shared by all requests. -/
structure Service where
  runner : Runner
  plan : Plan
  /-- When the service was started, as text. -/
  startedAt : String
  deriving DecidableEq

namespace Service

/-- The service that a deploy's settings ask for. -/
def ofConfig (config : DeployConfig) (startedAt : String) : Service where
  runner := .ofConfig config
  plan := .ofConfig config
  startedAt

/-- How a request is met: with a response at once or with a deploy. -/
inductive Reply where
  | respond (response : Response)
  | deploy (tag : String)
  deriving DecidableEq

/-- What tells that the service is alive. -/
def health (service : Service) : Response :=
  .typed 200 "application/json" (
    "\x7b\"started_at\":" ++ Text.quote service.startedAt ++ ",\"status\":\"ok\",\"workdir\":" ++
      Text.quote service.runner.dir.display ++ "\x7d")

/-- How a request is met. -/
def reply (service : Service) (request : Request) : Reply :=
  match Route.ofPath? request.uri.path with
  | none => .respond .notFound
  | some route =>
    -- The method counts before the query: a wrong one is refused whatever the query says.
    if request.method ∈ route.methods then
      match route with
      | .health =>
        .respond (if request.method = "HEAD" then service.health.head else service.health)
      | .deploy =>
        match tagOf request.uri.query with
        | .error text => .respond (.plain 400 text)
        | .ok tag => .deploy (resolveTag tag)
    else .respond (.notAllowed route.methods)

/-- The event at the start of a deploy. -/
def started (service : Service) : Event where
  level := .info
  message := "Deploy started"
  fields := [("workdir", .text service.runner.dir.display)]

/-- The event of a request that was answered. Time is left out of it, and so is
the field that tells how long the answer took. -/
def answered (request : Request) (response : Response) : Event where
  level := if response.failed then .warn else .info
  message := if response.failed then "Request failed" else "Request completed"
  fields := [
    ("method", .text request.method),
    ("uri", .text request.uri.text),
    ("status", .text (toString response.status))]

section Handling

variable {World : Type} (system : System World) (service : Service)

/-- Runs the commands that deploy `tag`. -/
def deploy (tag : String) (world : World) : Report World (Except Refusal Outcome) :=
  -- The plan is made for this tag alone; nothing of an earlier deploy is left in the service.
  let report := service.runner.runAll system (service.plan.commands tag) world
  { report with log := service.started :: report.log }

/-- Meets a request without logging that it was answered. -/
def answer (request : Request) (world : World) : Report World (Except Refusal Response) :=
  match service.reply request with
  | .respond response => ⟨world, [], .ok response⟩
  | .deploy tag =>
    let report := service.deploy system tag world
    match report.value with
    | .error refusal => ⟨report.world, report.log, .error refusal⟩
    | .ok outcome =>
      ⟨report.world, report.log ++ [outcomeEvent outcome], .ok (.ofOutcome outcome)⟩

/-- Handles a request from its arrival to its answer. -/
def handle (request : Request) (world : World) : Report World (Except Refusal Response) :=
  let report := service.answer system request world
  match report.value with
  | .error _ => report
  | .ok response => { report with log := report.log ++ [answered request response] }

/-- Handles requests one after another. -/
def handleAll : List Request → World → Report World (List (Except Refusal Response))
  | [], world => ⟨world, [], []⟩
  | request :: rest, world =>
    let first := service.handle system request world
    let others := handleAll rest first.world
    ⟨others.world, first.log ++ others.log, first.value :: others.value⟩

end Handling

end Service

end Rollout.Http
