import Rollout.Posix.Course

/-!
# Programs as processes

What a program is given, where its reads and writes go, and what one leaves
that runs to its end at once.
-/

namespace Rollout.Posix

open Rollout.Text (Bytes)

/-- The signal that goes with an error of writing. -/
def writeSignal? (error : IoError) : Option Nat :=
  if error = .brokenPipe then some pipeSignal
  else if error = .fileTooLarge then some sizeSignal
  else none

/-- What a process starts with. -/
structure Process where
  /-- The number it goes by. -/
  number : Nat := 0
  /-- The name it was started by, then its arguments. -/
  words : List Bytes
  place : Place
  env : List (Bytes × Bytes)
  channels : Channels
  /-- Rights that new entries do not get. -/
  mask : Mode := .usualMask
  limits : Limits := .usual

namespace Process

/-- The name the process goes by in its messages. -/
def name (process : Process) : Bytes :=
  process.words.headD []

def args (process : Process) : List Bytes :=
  process.words.drop 1

/-- Where the process stands when it uses a path. -/
def footing (process : Process) : Footing where
  place := process.place
  channels := process.channels
  mask := process.mask
  limits := process.limits

def handle? (process : Process) (descriptor : Nat) : Option Handle :=
  process.channels.lookup descriptor

section

variable {Birth : Type} (process : Process)

/-- Reads from a descriptor what there is, up to a count. -/
def read (descriptor count : Nat) : Work Birth (Except IoError Bytes) :=
  match process.handle? descriptor with
  | some handle => Work.read handle count
  | none => pure (.error .badDescriptor)

/-- Writes to a descriptor, as far as that is possible. -/
def write (descriptor : Nat) (octets : Bytes) : Work Birth (Except IoError Unit) :=
  match process.handle? descriptor with
  | some handle => Work.write handle (process.limits.value .fileSize) octets
  | none => pure (if octets.isEmpty then .ok () else .error .badDescriptor)

end

end Process

/-- What a program that runs to its end at once leaves behind: what it wrote,
in order, each part with its descriptor, and its exit code. -/
structure Output where
  writes : List (Nat × Bytes) := []
  code : Nat := 0

namespace Output

/-- Adds to what is written. -/
def say (output : Output) (octets : Bytes) : Output :=
  { output with writes := output.writes ++ [(1, octets)] }

/-- Adds a complaint, and fails with this code. -/
def complain (output : Output) (octets : Bytes) (code : Nat) : Output :=
  { writes := output.writes ++ [(2, octets)], code }

end Output

end Rollout.Posix
