import Rollout.Http.Traffic
import Rollout.Posix.System

/-!
# A service at work on the small system

Requests that are handled while deploys of others go on. A deploy whose client
has left is still under way; its commands run beside those of later requests,
and what it logs comes in between. A deploy takes its next step as soon as its
command has ended.
-/

namespace Rollout.Posix

open Http (Deploy Response Service outcomeEvent)

/-- A deploy under way, with the program that runs for it. -/
structure Effort where
  deploy : Deploy
  running : Option Running := none

/-- A world in which deploys are under way. -/
structure Site where
  world : World
  log : Log := []
  efforts : List Effort := []

namespace Site

/-- A system that is known to answer in one way. -/
def answering (ending : Ending) : System World :=
  fun world _ => (world, ending)

section

variable (base : Place) (service : Service)

/-- Lets a deploy know how the command ended that it waits for. -/
def receive (site : Site) (deploy : Deploy) (ending : Ending) : Site × Effort :=
  let report := deploy.advance (answering ending) service site.world
  ({ site with log := site.log ++ report.log }, { deploy := report.value })

/-- Takes the next step of a deploy that can be taken now, if there is one. -/
def advance? (site : Site) (effort : Effort) : Option (Site × Effort) :=
  let deploy := effort.deploy
  match effort.running, deploy.progress with
  | some running, _ => do
    let (world, ending) := running.conclude (← running.exit? site.world) site.world
    return receive service { site with world } deploy ending
  | none, .ended _ => none
  | none, .waiting _ _ command _ =>
    match prepare base site.world.tree (service.runner.request command) with
    | .error error => some (receive service site deploy (.notStarted error))
    | .ok (start, process) =>
      let (running, world) := Running.begin start process site.world
      some ({ site with world }, { effort with running := some running })
  | none, _ =>
    -- Nothing is asked of the system in these steps.
    let report := deploy.advance (system base) service site.world
    some ({ site with log := site.log ++ report.log }, { deploy := report.value })

/-- Takes all steps of a deploy that can be taken now. -/
def advanceAll : Nat → Site → Effort → Site × Effort
  | 0, site, effort => (site, effort)
  | steps + 1, site, effort =>
    match site.advance? base service effort with
    | some (site, effort) => advanceAll steps site effort
    | none => (site, effort)

/-- The most steps that a deploy takes here, where a child begins in a step of its
own. -/
def stepLimit : Nat :=
  2 * service.steps

/-- Lets all deploys go as far as they can now. -/
def settle (site : Site) : Site :=
  site.efforts.foldl (fun site effort =>
    let (site, effort) := site.advanceAll base service (stepLimit service) effort
    { site with efforts := site.efforts ++ [effort] }) { site with efforts := [] }

/-- Lets time pass until something is so, or up to a time. -/
def pass (isDone : Site → Bool) (limit : Option Nat) : Nat → Site → Site
  | 0, site => site
  | turns + 1, site =>
    let site := site.settle base service
    let atLimit : Site := match limit with
      | none => site
      | some time =>
        let clock := max site.world.kernel.clock time
        { site with world := { site.world with kernel := { site.world.kernel with clock } } }
    if isDone site then site
    else if (site.world.next?.any fun time => limit.all (time ≤ ·)) then
      match site.world.step Shell.begin with
      | some world => pass isDone limit turns { site with world }
      | none => atLimit
    else atLimit

/-- What the last deploy that was started came to. -/
def value? (site : Site) : Option (Except Refusal Outcome) :=
  site.efforts.getLast?.bind (·.deploy.progress.value?)

/-- Forgets the deploys that have ended. -/
def tidy (site : Site) : Site :=
  { site with efforts := site.efforts.filter (·.deploy.progress.value?.isNone) }

/-- Handles a request beside the deploys under way, up to a time if one is
given: the answer, unless its own deploy is still under way then. -/
def handleBeside (site : Site) (request : Http.Request) (limit : Option Nat) :
    Site × Option (Except Refusal Response) :=
  let site := site.tidy
  match service.reply request with
  | .respond response =>
    ({ site with log := site.log ++ [Service.answered request response] }, some (.ok response))
  | .deploy tag =>
    let efforts := site.efforts ++ [{ deploy := .start service tag }]
    let site := { site with efforts }.pass base service (·.value?.isSome) limit turnLimit
    match site.value? with
    | none => (site, none)
    | some value =>
      let site := { site with efforts := site.efforts.dropLast }
      match value with
      | .error refusal => (site, some (.error refusal))
      | .ok outcome =>
        let response := Response.ofOutcome outcome
        ({ site with log := site.log ++ [outcomeEvent outcome, Service.answered request response] },
          some (.ok response))

/-- Handles a request whose client stays. -/
def handle (site : Site) (request : Http.Request) : Site × Option (Except Refusal Response) :=
  if site.tidy.efforts.isEmpty then
    let report := service.handle (system base) request site.world
    ({ world := report.world, log := site.log ++ report.log }, some report.value)
  else site.handleBeside base service request none

/-- How long a client waits that leaves, in microseconds. -/
def patience : Nat := 40000

/-- How long a file is waited for, and how long it is left in peace then. -/
def fileTime : Nat × Nat := (3000000, 30000)

/-- Handles a request whose client leaves when it has waited for some time, and
waits for a file then; whether the client has left without an answer. -/
def abandon (site : Site) (request : Http.Request) (file : String) : Site × Bool :=
  let (site, answer) :=
    site.handleBeside base service request (some (site.world.kernel.clock + patience))
  let isThere (site : Site) : Bool :=
    match site.world.tree.find base (Text.encode file) with
    | .ok _ => true
    | .error _ => false
  let site := site.pass base service isThere
    (some (site.world.kernel.clock + fileTime.1)) turnLimit
  let site := site.pass base service (fun _ => false)
    (some (site.world.kernel.clock + fileTime.2)) turnLimit
  (site, answer.isNone)

end

end Site

end Rollout.Posix
