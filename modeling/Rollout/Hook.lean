import Rollout.Failure
import Rollout.Flags
import Rollout.Http.Traffic

/-!
# The whole program

Settings are loaded, the start is announced, a place to listen is asked for,
and requests are served until a signal comes and all connections are closed.
-/

namespace Rollout

open Http (Endpoint Listener Network Service Traffic Action)

/-- What the program finds when it starts. -/
structure Surroundings where
  /-- What is at the path of the settings file. -/
  file : FileState
  overrides : Overrides
  network : Network
  /-- The time of the start, as text. -/
  startedAt : String

/-- A server that listens. -/
structure Server where
  endpoint : Endpoint
  listener : Listener
  service : Service

namespace Server

/-- Serves from the start on. -/
def serve {World : Type} (server : Server) (system : System World) (actions : List Action)
    (world : World) : Traffic World :=
  Traffic.run system server.service
    { world, log := [server.listener.listening server.endpoint.debug] } actions

end Server

namespace Hook

/-- The endpoint of settings. -/
def endpoint (flags : Flags) (config : Config) : Endpoint :=
  { config.server with debug := flags.debug }

def starting (endpoint : Endpoint) (deploy : DeployConfig) : Event where
  level := .info
  message := "Starting deploy hook on " ++ endpoint.address ++ " (workdir: " ++
    deploy.dir.display ++ ", remote: " ++ deploy.remote ++ ")"

/-- Goes as far as listening. -/
def launch (flags : Flags) (around : Surroundings) : Log × Except Failure Server :=
  match flags.settings around.file around.overrides with
  | (log, .error error) => (log, .error (.config error))
  | (log, .ok config) =>
    let endpoint := endpoint flags config
    -- The start is announced before anything can listen.
    (log ++ [starting endpoint config.deploy],
      (endpoint.bind around.network).map fun listener =>
        { endpoint, listener, service := .ofConfig config.deploy around.startedAt })

/-- Launches, and then lets things happen. -/
def run {World : Type} (system : System World) (flags : Flags) (around : Surroundings)
    (actions : List Action) (world : World) : Log × Except Failure (Traffic World) :=
  match launch flags around with
  | (log, .error failure) => (log, .error failure)
  | (log, .ok server) =>
    let traffic := server.serve system actions world
    (log ++ traffic.log, .ok traffic)

end Hook

end Rollout
