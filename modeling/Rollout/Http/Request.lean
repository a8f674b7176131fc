import Rollout.Http.Uri

/-!
# Requests

A request with its method, target and headers in order. `Request.make`
refuses what no message can carry.
-/

namespace Rollout.Http

structure Request where
  /-- The method as written; methods of different case are different. -/
  method : String
  uri : Uri
  headers : List (String × String) := []
  body : String := ""
  deriving DecidableEq, Repr

namespace Request

/-- Why something is no request. -/
inductive Fault where
  | method
  | uri (fault : Uri.Fault)
  | headerName
  | headerValue
  deriving DecidableEq, Repr

def Fault.message : Fault → String
  | method => "invalid HTTP method"
  | uri fault => fault.message
  | headerName => "invalid HTTP header name"
  | headerValue => "failed to parse header value"

/-- A character of methods and header names. -/
def isTokenChar (c : Char) : Bool :=
  Uri.isAlphanumeric c || "!#$%&'*+-.^_\x60|~".toList.contains c

def isToken (text : String) : Bool :=
  !text.isEmpty && text.toList.all isTokenChar

/-- A character of header values: no control character but the tab. -/
def isValueChar (c : Char) : Bool :=
  (0x20 ≤ c.toNat && c.toNat != 0x7F) || c = '\t'

/-- The first fault of headers in order; a name counts before its value. -/
def headerFault? (headers : List (String × String)) : Option Fault :=
  headers.findSome? fun (name, value) =>
    if !isToken name then some .headerName
    else if !value.toList.all isValueChar then some .headerValue
    else none

/-- The request of these parts. Of several faults that of the method counts
before that of the target, and this before those of the headers. -/
def make (method uri : String) (headers : List (String × String)) (body : String) :
    Except Fault Request :=
  if !isToken method then .error .method
  else
    match Uri.parse uri with
    | .error fault => .error (.uri fault)
    | .ok uri =>
      match headerFault? headers with
      | some fault => .error fault
      | none => .ok { method, uri, headers, body }

end Request

end Rollout.Http
