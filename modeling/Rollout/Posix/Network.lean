import Rollout.Http.Endpoint
import Rollout.Posix.Address

/-!
# A small network

A network without name servers and without an interface that is up: it knows
the addresses that are written out and its own name, lets anyone listen at an
address of four octets or at all addresses, and keeps the ports below 1024 to
itself. Nobody can connect over it.
-/

namespace Rollout.Posix

open Http (Network Listener)

/-- The labels of a name between its points; a point at the end ends the last
label. A backslash takes the character behind it as it is. -/
def labels? : List Char → List Char → Option (List (List Char))
  | label, [] => some (if label.isEmpty then [] else [label.reverse])
  | label, ['.'] => some (if label.isEmpty then [] else [label.reverse])
  | label, '.' :: rest =>
    if label.isEmpty then none else (labels? [] rest).map (label.reverse :: ·)
  | _, ['\\'] => none
  | label, '\\' :: c :: rest => labels? (c :: label) rest
  | label, c :: rest => labels? (c :: label) rest

/-- Whether a text may be the name of a host, so that it is asked for. -/
def isHostName (cs : List Char) : Bool :=
  let isPlain (c : Char) : Bool := ('!' ≤ c && c ≤ '~')
  let isLabel (label : List Char) : Bool :=
    !label.isEmpty && label.length < 64 &&
      label.all fun c => c.isAlphanum || c = '-' || c = '_'
  match labels? [] cs with
  | none => false
  | some labels =>
    !cs.isEmpty && cs.all isPlain && (cs = ['.'] || !labels.isEmpty) && labels.all isLabel &&
      (labels.head?.bind List.head?) != some '-' &&
      labels.foldl (fun size label => size + label.length + 1) 0 < 255

/-- The address of a host. -/
def resolve (host : String) : Except IoError Address :=
  let unknown (reason : String) : Except IoError Address :=
    .error (.message ("failed to lookup address information: " ++ reason))
  if host.toList.contains '\x00' then
    .error (.message "file name contained an unexpected NUL byte")
  else
    match Address.ofText? host with
    | some address => .ok address
    | none =>
      if host.toLower = "localhost" then .ok (.short 0x7F000001)
      else if isHostName host.toList then unknown "Temporary failure in name resolution"
      else unknown "Name or service not known"

/-- The port that is taken where none is asked for. -/
def freePort : Port := 32768

/-- The ports that not everybody may listen at. -/
def isPrivileged (port : Port) : Bool :=
  port ≠ 0 && port < 1024

/-- What stands against listening at an address. -/
def obstacle? (address : Address) (port : Port) : Option IoError :=
  let refused : Option IoError := if isPrivileged port then some .accessDenied else none
  match address with
  | .short _ => refused
  | .long groups interface =>
    if Address.isShared groups then some .invalidArgument
    else
      refused <|>
        if groups.all (· = 0) || Address.isMapped groups then none
        else if !Address.isLocal groups then some .addressUnavailable
        else if interface = 0 then some .invalidArgument
        -- No address is given to any interface.
        else if Address.interfaces.any (·.2 = interface) then some .addressUnavailable
        else some .noInterface

def network : Network := fun host port => do
  let address ← resolve host
  match obstacle? address port with
  | some error => throw error
  | none => return { host := address.text, port := if port = 0 then freePort else port }

/-- What a client meets that connects to a listener: no interface carries
anything. -/
def connect (_ : Listener) : IoError :=
  .networkUnreachable

end Rollout.Posix
