import Rollout.Event
import Rollout.Http.Request
import Rollout.Runner.Outcome

/-!
# Responses

What a request is answered with, and how the outcome of a deploy is told to
the client and to the operator.
-/

namespace Rollout.Http

structure Response where
  status : Nat
  /-- Names in lower case. -/
  headers : List (String × String) := []
  body : String := ""
  deriving DecidableEq, Repr

namespace Response

/-- The size of a body in octets. -/
def length (body : String) : String × String :=
  ("content-length", toString body.utf8ByteSize)

/-- A response with a body of this type. -/
def typed (status : Nat) (kind body : String) (headers : List (String × String) := []) :
    Response where
  status
  headers := ("content-type", kind) :: headers ++ [length body]
  body

def plain (status : Nat) (body : String) (headers : List (String × String) := []) : Response :=
  typed status "text/plain; charset=utf-8" body headers

/-- A response without a body. -/
def bare (status : Nat) (headers : List (String × String) := []) : Response where
  status
  headers := headers ++ [length ""]

def notFound : Response := bare 404

/-- The answer to a method that a resource does not have. -/
def notAllowed (methods : List String) : Response :=
  bare 405 [("allow", ",".intercalate methods)]

/-- The same response for a client that asked for its head alone. -/
def head (response : Response) : Response :=
  { response with body := "" }

/-- A status that tells of a failure. -/
def failed (response : Response) : Bool :=
  400 ≤ response.status && response.status ≤ 599

/-- A response with a body and headers of its own. Headers that no message can
carry make it a failure of the server. -/
def withHeaders (status : Nat) (headers : List (String × String)) (body : String) : Response :=
  match Request.headerFault? headers with
  | some fault => plain 500 fault.message
  | none => plain status body headers

/-- The header that holds the exit code of a failed command. -/
def exitCodeHeader : String := "x-returncode"

/-- What the client of a deploy is told. -/
def ofOutcome : Outcome → Response
  | .succeeded output => plain 200 output
  | .failed _ _ code output => withHeaders 400 [(exitCodeHeader, toString code)] output
  | .errored step command error => plain 400 (Outcome.errored step command error).intoOutput

end Response

/-- What the operator is told of a deploy at its end. -/
def outcomeEvent : Outcome → Event
  | .succeeded _ => { level := .info, message := "Deploy succeeded" }
  | .failed step command code _ => {
      level := .warn
      message := "Deploy failed"
      fields := [("step", .number step), ("command", .text command), ("exit_code", .number code)] }
  | .errored step _ _ => {
      level := .warn
      message := "Deploy aborted: command could not be executed"
      fields := [("step", .text ("Some(" ++ toString step ++ ")"))] }

end Rollout.Http
