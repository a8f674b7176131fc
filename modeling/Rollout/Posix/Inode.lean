import Rollout.Path
import Rollout.Posix.Mode

/-!
# What stands at a place

A directory, a file, a link, a device or a program, with who may do what with
it and when something was done with it.
-/

namespace Rollout.Posix

inductive Device where
  /-- It swallows what is written and is empty. -/
  | void
  /-- It has zero octets without end. -/
  | zeros
  /-- It has zero octets without end, and no room for more. -/
  | full
  deriving DecidableEq

inductive Entry where
  | directory
  | file (octets : Text.Bytes)
  | link (target : Text.Bytes)
  | device (device : Device)
  /-- What a descriptor of the process that asks stands for. -/
  | descriptor (number : Nat)
  /-- A program of the system, under its name. -/
  | program (name : String)
  deriving DecidableEq

/-- When something was done with an entry, in nanoseconds of the calendar. -/
structure Times where
  /-- It was read. -/
  used : Int
  /-- What is in it was changed. -/
  modified : Int
  /-- Anything about it was changed. -/
  altered : Int
  /-- It was made. -/
  born : Int
  deriving DecidableEq

namespace Times

/-- The times of an entry that is new. -/
def fresh (now : Int) : Times :=
  ⟨now, now, now, now⟩

/-- An entry that was read so long ago has its time noted in any case. -/
def stale : Int := 86400000000000

/-- The times after reading. The time is noted for the first reading after a
change, and once a day. -/
def afterReading (times : Times) (now : Int) : Times :=
  if times.used ≤ times.modified || times.used ≤ times.altered || stale ≤ now - times.used then
    { times with used := now }
  else times

def afterWriting (times : Times) (now : Int) : Times :=
  { times with modified := now, altered := now }

end Times

/-- The time at the start by the system's calendar, in nanoseconds. -/
def startTime : Int := 1767225600000000000

/-- An entry with all that is known of it. -/
structure Inode where
  entry : Entry
  mode : Mode
  times : Times := .fresh startTime
  deriving DecidableEq

namespace Inode

/-- A directory as it is usually made. -/
def directory : Inode := { entry := .directory, mode := ⟨0o755⟩ }

/-- A file as it is usually made. -/
def file (octets : Text.Bytes) (executable : Bool) : Inode :=
  { entry := .file octets, mode := ⟨if executable then 0o755 else 0o644⟩ }

def link (target : Text.Bytes) : Inode :=
  { entry := .link target, mode := ⟨0o777⟩ }

def program (name : String) : Inode :=
  { entry := .program name, mode := ⟨0o755⟩ }

def device (device : Device) : Inode :=
  { entry := .device device, mode := ⟨0o666⟩ }

def descriptor (number : Nat) : Inode :=
  { entry := .descriptor number, mode := ⟨0o777⟩ }

end Inode

end Rollout.Posix
