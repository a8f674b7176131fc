import Rollout.Posix.Shell.Session

/-!
# Children of a shell

The processes that a shell starts and waits for: shells within it and programs,
beside it or in its stead, and those whose output it takes.
-/

namespace Rollout.Posix.Shell

open Rollout.Text (Bytes encode)

/-- What a shell says of a process that a signal ended. -/
def obituary : Exit → Bytes
  | .code _ => []
  | .signal n => if n = 2 || n = pipeSignal then [] else encode (signalText n ++ "\n")

/-- What a shell within this one knows at its start. -/
def Scope.within (scope : Scope) (channels : Channels) : Scope :=
  { scope with
    channels
    listed := []
    unwritten := []
    reached := scope.fileLine
    -- Only signals that are ignored stay ignored in a shell within another one.
    traps := scope.traps.filter fun trap => trap.2.isEmpty }

namespace Act

/-- Notes which processes of the shell have ended, and says so of some that a
signal ended. -/
def reap (isMeant : Nat → Bool) : Act (List (Nat × Exit)) := do
  let own := (← scope).own
  let ended := (← kernel).endedChildren own
  ended.forM fun (number, exit) => do
    changeKernel (·.bury number)
    change fun scope => { scope with listed := scope.listed.map (·.note number exit) }
    if isMeant number then say (obituary exit)
  return ended

/-- Starts a process; its number. -/
def bear (scope : Scope) (birth : Nat → Birth) : Act Nat := do
  let own := (← Act.scope).own
  let number ← doing (Work.update (·.bear own scope.channels))
  doing (Work.bear number (birth number))
  return number

/-- Starts a shell that knows this; its number. -/
def bearShell (scope : Scope) (reroutings : List Rerouting) (tested : Bool) (body : Node) :
    Act Nat :=
  bear scope fun number => .shell { scope with own := number } reroutings tested body

/-- Waits until processes of the shell have ended; how they did. -/
def awaitFrom (numbers : List Nat) : Nat → List (Nat × Exit) → Act (List (Nat × Exit))
  | 0, found => return found
  | turns + 1, found => do
    let found := found ++ (← reap numbers.contains)
    if numbers.all fun number => (found.lookup number).isSome then return found
    else
      doing (Work.await .child)
      awaitFrom numbers turns found

/-- Waits until processes of the shell have ended; how the last one did. -/
def await (numbers : List Nat) : Act Exit := do
  let found ← awaitFrom numbers Work.patience []
  return ((numbers.getLast?.bind (found.lookup ·)).getD (.code 0))

end Act

/-- Runs the commands of a substitution in a shell of its own and takes what
they write. -/
def substitute (body : Node) : Act Bytes := do
  match body with
  | .nothing => return []
  | body =>
    let scope ← Act.scope
    Act.needRoom 0
    let (output, input) ← Act.doing (Work.update fun kernel =>
      let (output, input, kernel) := kernel.openPipe (some Stream.pipeRoom)
      ((output, input), kernel))
    let number ← Act.bearShell (scope.within (scope.channels.put 1 input)) [] false body
    let own := scope.channels.lowestFrom 0
    Act.rewire (·.put own output)
    -- The stream ends when nobody can write to it any more.
    let octets ← Act.doing (Work.readAll output)
    Act.rewire (·.close own)
    let exit ← Act.await [number]
    Act.change fun scope => { scope with substituted := exit.shown }
    return octets.toOption.getD []

end Rollout.Posix.Shell
