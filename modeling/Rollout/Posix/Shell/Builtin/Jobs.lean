import Rollout.Posix.Shell.Builtin.Basic
import Rollout.Posix.Shell.Children

/-!
# Commands on jobs and signals

The jobs that a shell started, signals that are sent, and what is done about
those that are received.
-/

namespace Rollout.Posix.Shell

open Rollout.Text (Bytes encode)

/-- The signal that a word names, by its number or by its name, which may be
that of the end of a shell. -/
def signal? (least : Nat) (word : Bytes) : Option Nat :=
  if !word.isEmpty && word.all isDigit then
    let n := word.foldl (fun n b => 10 * n + (b.toNat - 48)) 0
    if n ≤ signalLimit then some n else none
  else
    let name := (Text.lossy word).toUpper
    if least = 0 && name = "EXIT" then some 0 else signalNamed? name

/-- The name of a signal, or that of the end of a shell. -/
def trapName (signal : Nat) : String :=
  if signal = 0 then "EXIT" else signalName signal

namespace Act

/-- The job of the shell that a word names. With `controlled`, it has to be one
under control, and none is. -/
def job (controlled : Bool) (word : Option Bytes) : Act Listed := do
  let listed := (← scope).listed
  let shown := word.getD (encode "(null)")
  let unknown : Act Listed := fail (encode "No such job: " ++ shown)
  let current (place : Nat) (text : String) : Act Listed :=
    match listed[place]? with
    | some found => return found
    | none => fail (encode text)
  let found ← match word with
    | none => current 0 "No current job"
    | some [0x25] => current 0 "No current job"
    | some [0x25, 0x25] => current 0 "No current job"
    | some [0x25, 0x2B] => current 0 "No current job"
    | some [0x25, 0x2D] => current 1 "No previous job"
    | some (0x25 :: digits) =>
      match listed.find? fun job => encode (toString job.index) = digits with
      | some found => pure found
      | none => unknown
    | some _ => unknown
  if controlled then
    fail (encode "job " ++ shown ++ encode " not created under job control")
  else return found

end Act

namespace Builtin

/-- How a job is doing. -/
def stateText (job : Listed) : String :=
  match job.exit? with
  | none => "Running"
  | some (.code 0) => "Done"
  | some (.code n) => s!"Done({n})"
  | some (.signal n) => signalText n

/-- Shows a job of the shell. One that is over is not listed any more then. -/
def showJob (numbers names : Bool) (found : Listed) : Act Unit := do
  let members := found.members.map fun member => toString member.1
  if numbers then Act.print (encode (members.headD "" ++ "\n"))
  else
    let listed := (← Act.scope).listed
    let isFirst (place : Nat) : Bool := (listed[place]?).any (·.number = found.number)
    let sign := if isFirst 0 then "+" else if isFirst 1 then "-" else " "
    let padded (text : String) : String := text.pushn ' ' (max 1 (33 - text.length))
    let front := s!"[{found.index}] " ++ sign ++ " "
    let name := if names then members.headD "" ++ " " else ""
    let first := padded (front ++ name ++ stateText found)
    -- Commands are not told, so there is nothing between the bars of a pipe.
    let others := (members.drop 1).map fun member =>
      if names then
        " |\n" ++ padded ("".pushn ' ' front.length ++ member ++ " ")
      else " | "
    Act.print (encode (first ++ String.join others ++ "\n"))
    if found.exit?.isSome then
      Act.change fun scope => { scope with
        listed := scope.listed.filter (·.number != found.number) }

def jobs : Builtin := fun args => do
  let (given, names) ← options "lp" args
  let _ ← Act.reap fun _ => false
  let last := given.getLast?.map Prod.fst
  let showOne := showJob (last = some 'p') (last = some 'l')
  if names.isEmpty then (← Act.scope).listed.forM showOne
  else names.forM fun name => do showOne (← Act.job false (some name))
  return 0

/-- Jobs are not under control, so none of them can be brought to the front. -/
def front : Builtin := fun args => do
  let (_, names) ← options "" args
  let _ ← Act.job true names.head?
  return 0

/-- Sends a signal to a process; whether there is one. -/
def send (signal number : Nat) : Act Bool := do
  let own := (← Act.scope).own
  let isThere ← Act.doing (Work.update fun kernel =>
    let (kernel, isThere) := kernel.send number signal
    (isThere, kernel))
  if number = own then
    match (← Act.kernel).life? own with
    | none => return isThere
    | some life =>
      if let some signal := life.fatal then throw (.killed signal)
      -- A shell that was told to pause has no turn until it is told to go on.
      if life.isStopped then Act.doing (Work.await .turn)
  return isThere

/-- What is said of how signals are sent. -/
def killUsage {α : Type} : Act α :=
  Act.fail (encode ("Usage: kill [-s sigspec | -signum | -sigspec] [pid | job]... or\n" ++
    "kill -l [exitstatus]"))

/-- Lists the names of signals, or shows that of a number. -/
def signalNames (words : List Bytes) : Act Nat := do
  match words with
  | [] =>
    let names := (List.range signalLimit).map fun n => signalName (n + 1) ++ "\n"
    Act.print (encode ("0\n" ++ String.join names))
    return 0
  | word :: _ =>
    let n ← Act.number word
    let signal := if 128 < n then n - 128 else n
    if 0 < signal && signal ≤ signalLimit then
      Act.print (encode (signalName signal ++ "\n"))
      return 0
    else Act.fail (encode "invalid signal number or exit status: " ++ word)

def kill : Builtin := fun args => do
  let (isList, signal, targets) ← match args with
    | [] => killUsage
    | (0x2D :: name) :: rest =>
      match signal? 1 name with
      | some signal => pure (false, some signal, rest)
      | none => do
        let (given, rest) ← options "ls:" args
        let named ← given.foldlM (fun found option => do
          if option.1 = 's' then
            match signal? 1 option.2 with
            | some signal => return some signal
            | none => Act.fail (encode "invalid signal number or name: " ++ option.2)
          else return found) none
        pure (has given 'l', named, rest)
    | targets => pure (false, none, targets)
  if isList then
    if signal.isSome && !targets.isEmpty then killUsage else signalNames targets
  else if targets.isEmpty then killUsage
  else
    let signal := signal.getD endSignal
    targets.foldlM (fun status target => do
      let isThere ← match target with
        | 0x25 :: _ => do
          -- No job has a group of processes for itself.
          let _ ← Act.job false (some target)
          pure false
        | 0x2D :: rest => do
          let number ← Act.number rest
          -- All processes together can be asked whether they are there.
          pure (signal = 0 && number = 1)
        | target => do
          let number ← Act.number target
          if number = 0 then pure (signal = 0) else send signal number
      if isThere then return status
      else
        Act.warn (encode "No such process\n")
        return 1) 0

def trap : Builtin := fun args => do
  let (_, args) ← options "" args
  match args with
  | [] =>
    let traps := (← Act.scope).traps
    (List.range (signalLimit + 1)).forM fun signal =>
      match traps.lookup signal with
      | some action =>
        Act.print (encode "trap -- " ++ apostrophed action ++
          encode (" " ++ trapName signal ++ "\n"))
      | none => pure ()
    return 0
  | first :: rest =>
    let isAlone := rest.isEmpty || (first.all isDigit && (signal? 0 first).isSome)
    let action := if isAlone || first = [0x2D] then none else some first
    setTraps action (if isAlone then args else rest)
where
  setTraps (action : Option Bytes) : List Bytes → Act Nat
    | [] => return 0
    | name :: rest =>
      match signal? 0 name with
      | none => do
        Act.say (encode "trap: " ++ name ++ encode ": bad trap\n")
        return 1
      | some signal => do
        Act.change fun scope =>
          let others := scope.traps.filter (·.1 != signal)
          { scope with traps := action.elim others fun action => (signal, action) :: others }
        Act.heed
        setTraps action rest

end Builtin

end Rollout.Posix.Shell
