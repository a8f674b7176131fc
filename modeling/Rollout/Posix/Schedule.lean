import Rollout.Posix.Course

/-!
# Schedules

Processes that go on beside each other, on one clock. The one whose time
comes first goes on until it pauses; a process that waits goes on when what
it waits for is there. Every step is taken by one process alone, so what all
share changes in one order, and a schedule always comes to the same end.
-/

namespace Rollout.Posix

/-- A process that has paused. -/
structure Task (Birth : Type) where
  number : Nat
  /-- The time from which on it goes on; nothing while it waits. -/
  ready : Option Nat
  /-- Signals that it acts on end the wait. -/
  isAlert : Bool := false
  resume : Work Birth Exit

/-- What all processes share, and the processes. -/
structure Schedule (Birth : Type) where
  kernel : Kernel
  tasks : List (Task Birth) := []

/-- How processes begin that are started. -/
abbrev Begin (Birth : Type) := Birth → Work Birth Exit

namespace Schedule

variable {Birth : Type}

/-- The time until a process begins that was started. -/
def birthDelay : Nat := 90

/-- Lets a course go on until it pauses. -/
def carry (start : Begin Birth) (number : Nat) (tasks : List (Task Birth)) :
    Course Birth Exit → Schedule Birth
  | .ended kernel exit => { kernel := kernel.finish number exit, tasks }
  | .paused kernel (.birth child birth) resume =>
    let time := kernel.clock + birthDelay
    let kernel := { kernel with deadline := some (kernel.deadline.elim time (min time)) }
    carry start number (tasks ++ [{ number := child, ready := some time, resume := start birth }])
      (resume kernel)
  | .paused kernel (.wait wait isAlert) resume =>
    let ready := match wait with
      | .turn => some kernel.clock
      | .time clock => some clock
      | _ => none
    { kernel := kernel.alter number ({ · with wait })
      tasks := tasks ++ [{ number, ready, isAlert, resume }] }

/-- The time it takes until a process that waits is ended by a signal. -/
def endDelay : Nat := 120

/-- The earlier one of two times. -/
def earlier (a b : Option Nat) : Option Nat :=
  match a, b with
  | some a, some b => some (min a b)
  | some a, none => some a
  | none, b => b

/-- Lets the processes go on soon that wait for what is there now, or that a
signal ends. -/
def wake (schedule : Schedule Birth) : Schedule Birth :=
  let kernel := schedule.kernel
  { schedule with
    tasks := schedule.tasks.map fun task =>
      match kernel.life? task.number with
      | none => task
      | some life =>
        if life.fatal.isSome then
          { task with ready := earlier task.ready (some (kernel.clock + endDelay)) }
        else if task.ready.isNone &&
            (kernel.isReady life || (task.isAlert && !life.pending.isEmpty)) then
          { task with ready := some (kernel.clock + Kernel.wakeDelay) }
        else task }

/-- When a process goes on, unless it was told to pause. -/
def timeOf? (kernel : Kernel) (task : Task Birth) : Option Nat :=
  if (kernel.life? task.number).any Life.isStopped then none else task.ready

/-- The time at which the next process goes on. -/
def next? (schedule : Schedule Birth) : Option Nat :=
  schedule.tasks.foldl (fun time task => earlier time (timeOf? schedule.kernel task)) none

/-- Lets the process go on whose time comes first, or end if a signal ends it. -/
def step (start : Begin Birth) (schedule : Schedule Birth) : Option (Schedule Birth) := do
  let time ← schedule.next?
  let kernel := schedule.kernel
  let task ← schedule.tasks.find? fun task => timeOf? kernel task = some time
  let others := schedule.tasks.filter (·.number != task.number)
  let deadline := others.foldl (fun time task => earlier time (timeOf? kernel task)) none
  let kernel := { kernel with clock := time, deadline }
  let kernel := kernel.alter task.number ({ · with wait := .turn })
  return match (kernel.life? task.number).bind Life.fatal with
    | some signal =>
      wake { kernel := kernel.finish task.number (.signal signal), tasks := others }
    | none => (carry start task.number others (task.resume kernel)).wake

/-- Lets processes go on until something is so, or until none can. -/
def run (start : Begin Birth) (isDone : Schedule Birth → Bool) :
    Nat → Schedule Birth → Schedule Birth
  | 0, schedule => schedule
  | steps + 1, schedule =>
    if isDone schedule then schedule
    else
      match schedule.step start with
      | some schedule => run start isDone steps schedule
      | none => schedule

end Schedule

end Rollout.Posix
