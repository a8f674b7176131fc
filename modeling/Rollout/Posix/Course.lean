import Rollout.Posix.Lives

/-!
# Courses of processes

What a process does, as far as others can see it: it changes what all share,
it pauses until something is there, it starts other processes, and it ends
with a result. A course that pauses goes on with whatever all share by then.
How a process that is started begins is a value of a type of its own, so that
it can be kept and looked at.
-/

namespace Rollout.Posix

open Rollout.Text (Bytes)

/-- Why a process pauses. -/
inductive Pause (Birth : Type) where
  /-- It waits; a signal that it acts on may end that if it is alert. -/
  | wait (wait : Wait) (alert : Bool)
  /-- It has started another process, and goes on at once. -/
  | birth (number : Nat) (birth : Birth)

/-- What a process does from now on. -/
inductive Course (Birth α : Type) where
  | ended (kernel : Kernel) (result : α)
  | paused (kernel : Kernel) (pause : Pause Birth) (resume : Kernel → Course Birth α)

/-- What is done with what all processes share. -/
def Work (Birth α : Type) : Type :=
  Kernel → Course Birth α

namespace Course

variable {Birth α β : Type}

/-- One course and what follows from its result. -/
def bind : Course Birth α → (α → Work Birth β) → Course Birth β
  | ended kernel result, next => next result kernel
  | paused kernel pause resume, next =>
    paused kernel pause fun kernel => (resume kernel).bind next

end Course

namespace Work

variable {Birth α : Type}

instance : Monad (Work Birth) where
  pure result := fun kernel => .ended kernel result
  bind work next := fun kernel => (work kernel).bind next

/-- What a process sees of what all share. -/
def look (view : Kernel → α) : Work Birth α := fun kernel =>
  .ended kernel (view kernel)

/-- Changes what all processes share. -/
def change (f : Kernel → Kernel) : Work Birth Unit := fun kernel =>
  .ended (f kernel) ()

/-- Changes what all processes share, with a result. -/
def update (f : Kernel → α × Kernel) : Work Birth α := fun kernel =>
  let (result, kernel) := f kernel
  .ended kernel result

/-- Waits for something. -/
def await (wait : Wait) (alert : Bool := false) : Work Birth Unit := fun kernel =>
  .paused kernel (.wait wait alert) fun kernel => .ended kernel ()

/-- Lets time pass. -/
def sleep (time : Nat) : Work Birth Unit := fun kernel =>
  await (.time (kernel.clock + time)) false kernel

/-- Takes some time, in which others may get their turn. -/
def spend (time : Nat) : Work Birth Unit := fun kernel =>
  let kernel := { kernel with clock := kernel.clock + time }
  if kernel.deadline.any (· < kernel.clock) then await .turn false kernel else .ended kernel ()

/-- The time it takes to start a process. -/
def birthTime : Nat := 60

/-- Starts a process. -/
def bear (number : Nat) (birth : Birth) : Work Birth Unit := fun kernel =>
  .paused { kernel with clock := kernel.clock + birthTime } (.birth number birth)
    fun kernel => .ended kernel ()

/-- More turns than a process waits for one thing. -/
def patience : Nat := 1000000000

/-- Waits until there are so many octets to be read from an open file, or it has
ended. With `alert`, signals that the process acts on end the wait. -/
def supply (number : Nat) (handle : Handle) (least : Nat) (alert : Bool) : Nat → Work Birth Unit
  | 0 => pure ()
  | turns + 1 => fun kernel =>
    match kernel.lack? handle least with
    | none => .ended kernel ()
    | some wait =>
      if alert && kernel.isAlerted number then .ended kernel ()
      else .paused kernel (.wait wait alert) (supply number handle least alert turns)

/-- Reads from an open file when there are so many octets, or the file has
ended: all there is, or up to a count. -/
def readWhen (handle : Handle) (count : Option Nat) (least : Nat) :
    Nat → Work Birth (Except IoError Bytes)
  | 0 => fun kernel => .ended kernel (.ok [])
  | turns + 1 => fun kernel =>
    match kernel.lack? handle least with
    | some wait => .paused kernel (.wait wait false) (readWhen handle count least turns)
    | none =>
      match kernel.read handle count with
      | .ok (octets, kernel) => .ended kernel (.ok octets)
      | .error error => .ended kernel (.error error)

/-- Reads what there is, up to a count, as soon as there is something; nothing
at the end. -/
def read (handle : Handle) (count : Nat) : Work Birth (Except IoError Bytes) :=
  readWhen handle (some count) 1 patience

/-- Reads a stream to its end, behind octets that were read, the last part
first. -/
def drain (handle : Handle) : Nat → List Bytes → Work Birth (Except IoError Bytes)
  | 0, seen => pure (.ok seen.reverse.flatten)
  | turns + 1, seen => do
    match ← readWhen handle none (Stream.pipeRoom / 2) patience with
    | .error error => return .error error
    | .ok [] => return .ok seen.reverse.flatten
    | .ok octets => drain handle turns (octets :: seen)

/-- Reads all that is left of an open file. -/
def readAll (handle : Handle) : Work Birth (Except IoError Bytes) := do
  if (← look (·.streamOf? handle)).isSome then drain handle patience []
  else readWhen handle none 1 1

/-- Writes octets to an open file, as far as that is possible. -/
def writeAll (handle : Handle) (limit : Nat) : Nat → Bytes → Work Birth (Except IoError Unit)
  | 0, _ => pure (.ok ())
  | turns + 1, octets => fun kernel =>
    match kernel.write handle limit octets with
    | (kernel, .error error) => .ended kernel (.error error)
    | (kernel, .ok []) => .ended kernel (.ok ())
    | (kernel, .ok rest) =>
      match kernel.streamOf? handle with
      | none => writeAll handle limit turns rest kernel
      | some index =>
        .paused kernel (.wait (.room index (min rest.length Stream.pageSize)) false)
          (writeAll handle limit turns rest)

/-- Writes octets to an open file, which does not grow beyond a limit. -/
def write (handle : Handle) (limit : Nat) (octets : Bytes) : Work Birth (Except IoError Unit) :=
  writeAll handle limit patience octets

end Work

end Rollout.Posix
