import Rollout.Config.Error
import Rollout.Http.Endpoint

/-!
# Failures

Why the program ended without having served, or while it served. An error of
the settings speaks for itself.
-/

namespace Rollout

inductive Failure where
  | config (error : ConfigError)
  /-- Nothing can listen at the address. -/
  | bind (address : String) (source : IoError)
  /-- The server broke down. -/
  | server (source : IoError)
  deriving DecidableEq, Repr

namespace Failure

def message : Failure → String
  | config error => error.message
  | bind address _ => "failed to bind " ++ address
  | server _ => "http server error"

/-- The texts of the causes, outermost first. -/
def causes : Failure → List String
  | config error => error.causes
  | bind _ source => source.texts
  | server source => source.texts

end Failure

/-- Asks a network for a place to listen. -/
def Http.Endpoint.bind (endpoint : Http.Endpoint) (network : Http.Network) :
    Except Failure Http.Listener :=
  match network endpoint.host endpoint.port with
  | .ok listener => .ok listener
  | .error source => .error (.bind endpoint.address source)

end Rollout
