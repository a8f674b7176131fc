import Rollout.Config
import Rollout.Event
import Rollout.IoError

/-!
# Endpoints

Where a server is asked to listen and where it then listens. A network turns
one into the other or refuses.
-/

namespace Rollout.Http

/-- Where a server is asked to listen, and whether it traces requests. -/
structure Endpoint extends ServerConfig where
  debug : Bool := false
  deriving DecidableEq

/-- The text of an endpoint: the host and the port. -/
def Endpoint.address (endpoint : Endpoint) : String :=
  endpoint.host ++ ":" ++ toString endpoint.port.toNat

/-- Where a server listens. -/
structure Listener where
  /-- The host as an address. -/
  host : String
  port : Port
  deriving DecidableEq, Repr

def Listener.address (listener : Listener) : String :=
  listener.host ++ ":" ++ toString listener.port.toNat

/-- How hosts and ports are turned into places to listen. -/
abbrev Network :=
  String → Port → Except IoError Listener

/-- The event of a server that listens. A listener always knows its address here;
one that is not told it by its network would log a warning in place of this. -/
def Listener.listening (listener : Listener) (debug : Bool) : Event where
  level := .info
  message := "HTTP server listening on http://" ++ listener.address ++ " (debug: " ++
    (if debug then "true" else "false") ++ ")"

end Rollout.Http
