import Rollout.IoError.System

/-!
# Input and output errors

An error met while talking to the system, as a text and the chain of causes
behind it. A system error and a plain message have nothing behind them. A
wrapped error speaks with the text of the error it wraps, so what stands
behind it starts with the cause of that error and no text appears twice.
-/

namespace Rollout

/-- An error text with the texts of its causes, outermost first. -/
structure Chain where
  text : String
  causes : List String
  deriving DecidableEq, Repr

namespace Chain

/-- The error behind the first one. -/
def source (chain : Chain) : Option Chain :=
  match chain.causes with
  | [] => none
  | text :: causes => some ⟨text, causes⟩

end Chain

inductive IoError where
  /-- The system refused with this error number. -/
  | system (code : Int)
  /-- A message of its own. -/
  | message (text : String)
  /-- Some other error, met on the way. -/
  | wrapped (chain : Chain)
  deriving DecidableEq, Repr

namespace IoError

def text : IoError → String
  | system code => s!"{systemText code} (os error {code})"
  | message text => text
  | wrapped chain => chain.text

/-- What stands behind the error. -/
def source : IoError → Option Chain
  | system _ => none
  | message _ => none
  -- The wrapped text is the error's own, so its causes start behind it.
  | wrapped chain => chain.source

/-- The texts from this error on, outermost first. -/
def texts (error : IoError) : List String :=
  match error.source with
  | none => [error.text]
  | some chain => error.text :: chain.text :: chain.causes

def notFound : IoError := system 2
def argumentsTooLong : IoError := system 7
def notExecutable : IoError := system 8
def badDescriptor : IoError := system 9
def accessDenied : IoError := system 13
def alreadyExists : IoError := system 17
def noInterface : IoError := system 19
def notDirectory : IoError := system 20
def isDirectory : IoError := system 21
def invalidArgument : IoError := system 22
def tooManyFiles : IoError := system 24
def textBusy : IoError := system 26
def fileTooLarge : IoError := system 27
def noSpace : IoError := system 28
def brokenPipe : IoError := system 32
def outOfRange : IoError := system 34
def nameTooLong : IoError := system 36
def notEmpty : IoError := system 39
def tooManyLinks : IoError := system 40
def addressUnavailable : IoError := system 99
def networkUnreachable : IoError := system 101

/-- A zero octet where the system takes texts that end at one. -/
def zeroOctet : IoError := message "nul byte found in provided data"

/-- A text file that is not UTF-8. -/
def invalidText : IoError := message "stream did not contain valid UTF-8"

end IoError

end Rollout
