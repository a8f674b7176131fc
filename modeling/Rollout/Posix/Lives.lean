import Rollout.Posix.Kernel
import Rollout.Posix.Signal

/-!
# Lives of processes

How processes come into being, how signals reach them, and how they are kept
in mind after their end until their parents have asked for it.
-/

namespace Rollout.Posix

/-- What a signal does to a process. -/
def Life.receive (life : Life) (signal : Nat) : Life :=
  if signal = 0 || life.exit.isSome then life
  else if signal = killSignal then { life with fatal := some signal, isStopped := false }
  else
    let life := if signal = goOnSignal then { life with isStopped := false } else life
    if signal = stopSignal then { life with isStopped := true }
    else if life.ignored.contains signal then life
    else if life.caught.contains signal then
      { life with pending := signal :: life.pending.filter (· != signal) }
    else if pausing.contains signal then { life with isStopped := true }
    else if harmless.contains signal then life
    else { life with fatal := some (life.fatal.getD signal) }

namespace Kernel

/-- The process that starts programs on request. -/
def rootNumber : Nat := 1

def life? (kernel : Kernel) (number : Nat) : Option Life :=
  kernel.lives.find? (·.number = number)

/-- Changes what is known of a process. -/
def alter (kernel : Kernel) (number : Nat) (change : Life → Life) : Kernel :=
  { kernel with lives := kernel.lives.map fun life =>
      if life.number = number then change life else life }

/-- A new process. It ignores and catches the signals that its parent does, as
long as it does not ask for something else. -/
def bear (kernel : Kernel) (parent : Nat) (channels : Channels) : Nat × Kernel :=
  let (ignored, caught) := (kernel.life? parent).elim ([], []) fun life =>
    (life.ignored, life.caught)
  (kernel.next, { kernel with
    next := kernel.next + 1
    lives := { number := kernel.next, parent, channels, ignored, caught } :: kernel.lives })

/-- Lets a process ignore and catch these signals and no others. -/
def heed (kernel : Kernel) (number : Nat) (ignored caught : List Nat) : Kernel :=
  kernel.alter number fun life =>
    { life with ignored, caught, pending := life.pending.filter caught.contains }

/-- Sends a signal; whether there is such a process. -/
def send (kernel : Kernel) (number signal : Nat) : Kernel × Bool :=
  match kernel.life? number with
  | none => (kernel, false)
  | some _ =>
    if number = rootNumber then (kernel, true)
    else ((kernel.alter number (·.receive signal)).rouse fun wait => wait != .turn, true)

/-- Ends a process. Its parent, if it is still there, is told so, and those
that it started belong to nobody any more. -/
def finish (kernel : Kernel) (number : Nat) (exit : Exit) : Kernel :=
  match kernel.life? number with
  | none => kernel
  | some life =>
    let others := kernel.lives.filter fun other =>
      other.number != number && !(other.parent = number && other.exit.isSome)
    let hasParent := others.any fun other => other.number = life.parent && other.exit.isNone
    let others := others.map fun other =>
      if other.parent = number then { other with parent := 0 }
      else if other.number = life.parent then other.receive childSignal
      else other
    let dead := { life with channels := [], exit := some exit, pending := [], wait := .turn }
    { kernel with lives := if hasParent then dead :: others else others }

/-- The children of a process that have ended, the first one first. -/
def endedChildren (kernel : Kernel) (number : Nat) : List (Nat × Exit) :=
  kernel.lives.reverse.filterMap fun life =>
    if life.parent = number then life.exit.map (life.number, ·) else none

/-- Forgets a process that has ended. -/
def bury (kernel : Kernel) (number : Nat) : Kernel :=
  { kernel with lives := kernel.lives.filter (·.number != number) }

/-- Takes a signal that a process has to act on, the lowest one first. -/
def takePending (kernel : Kernel) (number : Nat) : Option (Nat × Kernel) := do
  let life ← kernel.life? number
  let signal ← life.pending.min?
  return (signal, kernel.alter number fun life =>
    { life with pending := life.pending.filter (· != signal) })

/-- Whether a process has to act on signals. -/
def isAlerted (kernel : Kernel) (number : Nat) : Bool :=
  (kernel.life? number).any fun life => !life.pending.isEmpty

/-- Whether what a process waits for is there. -/
def isReady (kernel : Kernel) (life : Life) : Bool :=
  match life.wait with
  | .turn => true
  | .time clock => clock ≤ kernel.clock
  | .input index least => least ≤ (kernel.stream index).size || !kernel.isWritten index
  | .room index least =>
    let stream := kernel.stream index
    stream.room.all (fun room => stream.size + least ≤ room) || !kernel.isRead index
  | .child => kernel.lives.any fun other => other.parent = life.number && other.exit.isSome

end Kernel

end Rollout.Posix
