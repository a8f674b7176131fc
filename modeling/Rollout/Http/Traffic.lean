import Rollout.Http.Deploy

/-!
# Traffic

Any number of requests in flight on one service and one world. Whatever
happens is an action: a request comes in, its handler starts, its deploy
takes a step, its handler ends, its client leaves, the server is told to stop
or is through. An action that cannot happen changes nothing, so every list of
actions is a run. A deploy belongs to nobody once its client has left: it
runs on, and nothing waits for it.
-/

namespace Rollout.Http

/-- What tells a server to stop. Both signals are waited for; that SIGTERM could not
be, which is logged as a warning and leaves the other, is left out. -/
inductive Signal where
  | interrupt
  | terminate
  deriving DecidableEq, Repr

def Signal.received : Signal → Event
  | interrupt => { level := .info, message := "Received Ctrl+C signal" }
  | terminate => { level := .info, message := "Received SIGTERM signal" }

/-- How far the handling of a request has come. -/
inductive Stage where
  /-- Its handler has not started. -/
  | received
  /-- Its deploy was started, and its handler waits for it if the client is
  still there. -/
  | deploying (deploy : Deploy)
  | answered (response : Response)
  /-- Its handler was ended by a refusal and there is no response. -/
  | refused (refusal : Refusal)

/-- A request and what has become of it. -/
structure Exchange where
  request : Request
  connected : Bool := true
  stage : Stage := .received

namespace Exchange

/-- Whether the connection of a request is open. -/
def isOpen (exchange : Exchange) : Bool :=
  exchange.connected &&
    match exchange.stage with
    | .received => true
    | .deploying _ => true
    | .answered _ => false
    | .refused _ => false

/-- The deploy that was started for a request. -/
def deploy? (exchange : Exchange) : Option Deploy :=
  match exchange.stage with
  | .deploying deploy => some deploy
  | _ => none

end Exchange

/-- What a server is doing. -/
inductive Phase where
  | serving
  /-- No request is let in any more. -/
  | draining
  | through
  deriving DecidableEq, Repr

/-- Everything in flight. -/
structure Traffic (World : Type) where
  world : World
  log : Log := []
  exchanges : List Exchange := []
  phase : Phase := .serving

/-- What may happen. Requests are named by their position. -/
inductive Action where
  /-- A request comes in. -/
  | arrive (request : Request)
  /-- The handler of a request starts. -/
  | take (index : Nat)
  /-- The deploy of a request takes a step. -/
  | advance (index : Nat)
  /-- The handler of a request finds that its deploy has ended. -/
  | finish (index : Nat)
  /-- The client of a request leaves. -/
  | leave (index : Nat)
  /-- The server is told to stop, by a signal or otherwise. -/
  | stop (signal : Option Signal)
  /-- The server is through. -/
  | close
  deriving DecidableEq

namespace Traffic

variable {World : Type}

def stopping : Event where
  level := .info
  message := "Starting graceful shutdown..."

def stopped : Event where
  level := .info
  message := "Server shutdown complete"

def setStage (traffic : Traffic World) (index : Nat) (stage : Stage) : Traffic World :=
  { traffic with exchanges := traffic.exchanges.modify index ({ · with stage }) }

def write (traffic : Traffic World) (log : Log) : Traffic World :=
  { traffic with log := traffic.log ++ log }

/-- Starts the handler of a request: it answers at once or starts a deploy. -/
def take (service : Service) (traffic : Traffic World) (index : Nat) (exchange : Exchange) :
    Traffic World :=
  match exchange.connected, exchange.stage with
  | true, .received =>
    match service.reply exchange.request with
    | .respond response =>
      (traffic.setStage index (.answered response)).write
        [Service.answered exchange.request response]
    -- From here on the deploy runs, whether or not the client stays.
    | .deploy tag => traffic.setStage index (.deploying (.start service tag))
  | _, _ => traffic

/-- Lets the deploy of a request take a step. -/
def advance (system : System World) (service : Service) (traffic : Traffic World) (index : Nat)
    (exchange : Exchange) : Traffic World :=
  match exchange.stage with
  | .deploying deploy =>
    let report := deploy.advance system service traffic.world
    { (traffic.setStage index (.deploying report.value)).write report.log with
      world := report.world }
  | _ => traffic

/-- Ends the handler of a request whose deploy has ended, if the client is
still there. -/
def finish (traffic : Traffic World) (index : Nat) (exchange : Exchange) : Traffic World :=
  match exchange.connected, exchange.stage with
  | true, .deploying deploy =>
    -- Nothing cancels a deploy, so there is no answer of 500 that tells of that.
    match deploy.progress.value? with
    | some (.ok outcome) =>
      let response := Response.ofOutcome outcome
      (traffic.setStage index (.answered response)).write
        [outcomeEvent outcome, Service.answered exchange.request response]
    | some (.error refusal) => traffic.setStage index (.refused refusal)
    | none => traffic
  | _, _ => traffic

def leave (traffic : Traffic World) (index : Nat) : Traffic World :=
  { traffic with exchanges := traffic.exchanges.modify index ({ · with connected := false }) }

def stop (traffic : Traffic World) (signal : Option Signal) : Traffic World :=
  if traffic.phase = .serving then
    { traffic.write ((signal.map Signal.received).toList ++ [stopping]) with phase := .draining }
  else traffic

/-- Ends a server that was told to stop, once no connection is open. -/
def close (traffic : Traffic World) : Traffic World :=
  -- Open connections are waited for; a deploy whose client has left is not.
  if traffic.phase = .draining && !traffic.exchanges.any Exchange.isOpen then
    { traffic.write [stopped] with phase := .through }
  else traffic

/-- What an action changes. -/
def act (system : System World) (service : Service) (traffic : Traffic World) (action : Action) :
    Traffic World :=
  let upon (index : Nat) (change : Exchange → Traffic World) : Traffic World :=
    match traffic.exchanges[index]? with
    | some exchange => change exchange
    | none => traffic
  match action with
  | .arrive request =>
    if traffic.phase = .serving then
      { traffic with exchanges := traffic.exchanges ++ [{ request }] }
    else traffic
  | .take index => upon index (traffic.take service index)
  | .advance index => upon index (traffic.advance system service index)
  | .finish index => upon index (traffic.finish index)
  | .leave index => traffic.leave index
  | .stop signal => traffic.stop signal
  | .close => traffic.close

/-- What a list of actions comes to. -/
def run (system : System World) (service : Service) (traffic : Traffic World)
    (actions : List Action) : Traffic World :=
  actions.foldl (act system service) traffic

end Traffic

namespace Service

/-- The most steps that a deploy of this service takes to its end: two for each
command, one before them and one behind. -/
def steps (service : Service) : Nat :=
  2 * (service.plan.commands defaultTag).length + 2

end Service

end Rollout.Http
