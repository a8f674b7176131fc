import Rollout.Posix.Executable
import Rollout.Posix.Shell.Syntax
import Rollout.Posix.Shell.Token

/-!
# Shell sessions

What a shell knows while it runs a script, the processes that it starts, and
its actions on what it knows and what all processes share: they go on, or stop
the shell.
-/

namespace Rollout.Posix.Shell

open Rollout.Text (Bytes encode)

/-- What goes by a name. A variable may be marked before it has a value. -/
structure Variable where
  value : Option Bytes := none
  isExported : Bool := false
  isReadOnly : Bool := false

/-- What a function took for itself, as it was before. -/
inductive Held where
  | variable (name : Bytes) (before : Option Variable)
  | options (letters : List Char)

/-- A part of a script that runs beside, as the shell that started it lists
it. -/
structure Listed where
  /-- Its place in the list. -/
  index : Nat
  /-- Its processes, of which the last one stands for all, and how each ended as
  far as the shell knows. -/
  members : List (Nat × Option Exit)
  /-- The shell has waited for it, so that its place is free. -/
  isWaited : Bool := false

namespace Listed

/-- The number it goes by. -/
def number (job : Listed) : Nat :=
  (job.members.getLast?.map Prod.fst).getD 0

/-- How it ended, once that is known of all its processes. -/
def exit? (job : Listed) : Option Exit :=
  if job.members.all (·.2.isSome) then job.members.getLast?.bind Prod.snd else none

/-- Notes how a process ended. -/
def note (job : Listed) (number : Nat) (exit : Exit) : Listed :=
  { job with members := job.members.map fun member =>
      if member.1 = number then (number, some exit) else member }

end Listed

/-- What a shell knows. A copy of it is what a shell within it starts with. -/
structure Scope where
  /-- The name the shell goes by in its messages. -/
  name : Bytes
  params : List Bytes := []
  vars : List (Bytes × Variable) := []
  place : Place
  /-- The path of the place, as the shell came there. -/
  folder : Bytes
  channels : Channels
  functions : List (Bytes × Node) := []
  aliases : List (Bytes × Bytes) := []
  /-- Commands that were found along the search path, with their paths. -/
  remembered : List (Bytes × Bytes) := []
  options : List Char := []
  /-- What is done on a signal; zero is the end of the shell. -/
  traps : List (Nat × Bytes) := []
  status : Nat := 0
  /-- The status of the last substitution in the command. -/
  substituted : Nat := 0
  /-- The status that was there when a trap went off. -/
  saved : Option Nat := none
  /-- The number the shell shows for itself. -/
  number : Nat
  /-- The number of the process that runs it; a shell within another one has
  its own. -/
  own : Nat
  lastJob : Option Nat := none
  /-- The jobs that the shell started, the last one first. -/
  listed : List Listed := []
  line : Nat := 0
  /-- The line up to which the script at work is read. -/
  reached : Nat := 1
  /-- The line up to which the file is read that the shell started with. -/
  fileLine : Nat := 1
  /-- The command of the shell that is at work, for messages. -/
  command : Option Bytes := none
  /-- How many loops stand around, up to a function. -/
  loops : Nat := 0
  /-- How many functions call one another. -/
  calls : Nat := 0
  /-- What was made local, for each function that is at work, or command with
  variables of its own. -/
  frames : List (List Held) := []
  /-- The parameter that options are read from next, and where in it. -/
  optionIndex : Nat := 1
  optionOffset : Option Nat := none
  /-- Rights that new entries do not get. -/
  mask : Mode := .usualMask
  limits : Limits := .usual
  /-- What the command at work wrote and has not put out, the last part first. -/
  unwritten : List Bytes := []
  /-- The documents of all scripts that were read. -/
  documents : Array Word := #[]
  /-- Signals that are ignored for good. -/
  deaf : List Nat := []

/-- Where a shell stands when it uses a path. -/
def Scope.footing (scope : Scope) : Footing where
  place := scope.place
  channels := scope.channels
  mask := scope.mask
  limits := scope.limits

/-- A redirection whose words are known. -/
inductive Rerouting where
  | path (descriptor : Nat) (mode : OpenMode) (path : Bytes)
  /-- Without a source, the descriptor is closed. -/
  | duplicate (descriptor : Nat) (source : Option Nat)
  | document (descriptor number : Nat)

/-- A process that a shell starts. -/
inductive Birth where
  /-- A shell within a shell, with what it knows, what its descriptors are made
  to stand for, and what it runs; failing may be no error in it. -/
  | shell (scope : Scope) (reroutings : List Rerouting) (tested : Bool) (body : Node)
  | program (start : Start) (process : Process)

/-- How the commands of a script go on. -/
inductive Flow where
  | next
  | leave (loops : Nat)
  | again (loops : Nat)
  /-- Back from a function or script, with a status of its own or not. -/
  | back (given : Bool)
  deriving DecidableEq

/-- What stops a shell. -/
inductive Stop where
  /-- It is asked to end. -/
  | exit
  /-- It ends with the status that it has. -/
  | done
  /-- An error, of which a command may be guarded. -/
  | fault
  | killed (signal : Nat)
  deriving DecidableEq

/-- What a shell does. -/
abbrev Act := ExceptT Stop (StateT Scope (Work Birth))

namespace Act

/-- Runs an action in a scope. -/
def perform {α : Type} (act : Act α) (scope : Scope) : Work Birth (Except Stop α × Scope) :=
  (ExceptT.run act).run scope

/-- Does something with what all processes share. -/
def doing {α : Type} (work : Work Birth α) : Act α :=
  ExceptT.lift (StateT.lift work)

def scope : Act Scope :=
  get

def change (f : Scope → Scope) : Act Unit :=
  modify f

def kernel : Act Kernel :=
  doing (Work.look id)

def changeKernel (f : Kernel → Kernel) : Act Unit :=
  doing (Work.change f)

def setKernel (kernel : Kernel) : Act Unit :=
  changeKernel fun _ => kernel

def setStatus (status : Nat) : Act Unit :=
  change fun scope => { scope with status }

/-- Changes what the descriptors of the shell stand for. -/
def rewire (f : Channels → Channels) : Act Unit := do
  let scope ← scope
  let channels := f scope.channels
  set { scope with channels }
  changeKernel (·.alter scope.own ({ · with channels }))

/-- Makes known which signals the shell ignores and which it acts on. -/
def heed : Act Unit := do
  let scope ← scope
  let traps := scope.traps.filter fun trap => trap.1 != 0 && !scope.deaf.contains trap.1
  let ignored := scope.deaf ++ (traps.filter (·.2.isEmpty)).map Prod.fst
  let caught := (traps.filter (!·.2.isEmpty)).map Prod.fst
  changeKernel (·.heed scope.own ignored caught)

/-- Writes to a descriptor of the shell; with what stands against it, if
anything. -/
def write (descriptor : Nat) (octets : Bytes) : Act (Option IoError) := do
  let scope ← scope
  match scope.channels.lookup descriptor with
  | some handle =>
    match ← doing (Work.write handle (scope.limits.value .fileSize) octets) with
    | .ok () => return none
    | .error error =>
      if let some signal := writeSignal? error then
        changeKernel fun kernel => (kernel.send scope.own signal).1
        if ((← kernel).life? scope.own).any (·.fatal.isSome) then throw (.killed signal)
      return some error
  | none => return if octets.isEmpty then none else some .badDescriptor

/-- Writes to the error output, as far as that is possible. -/
def say (octets : Bytes) : Act Unit := do
  let _ ← write 2 octets

end Act

/-- A message of the shell, with its name, the line and the command. -/
def Scope.message (scope : Scope) (text : Bytes) : Bytes :=
  scope.name ++ encode s!": {scope.line}: " ++
    scope.command.elim [] (· ++ encode ": ") ++ text ++ [10]

namespace Act

/-- Adds to the output of the command at work. -/
def print (octets : Bytes) : Act Unit :=
  change fun scope => { scope with unwritten := octets :: scope.unwritten }

/-- Puts out what the command at work wrote. -/
def flush : Act (Option IoError) := do
  let octets := (← scope).unwritten.reverse.flatten
  change fun scope => { scope with unwritten := [] }
  if octets.isEmpty then return none else write 1 octets

/-- Says that something is wrong. -/
def warn (text : Bytes) : Act Unit := do
  say ((← scope).message text)

/-- Stops with an error. -/
def fail {α : Type} (text : Bytes) : Act α := do
  warn text
  setStatus 2
  throw .fault

/-- Fails where there is no room for two ends of a stream beside so many more
descriptors. -/
def needRoom (count : Nat) : Act Unit := do
  if !(← scope).footing.haveRoom (count + 2) then fail (encode "Pipe call failed")

/-- Guards against errors of an action: where one stops it, this goes on. -/
def guarded {α : Type} (act : Act α) (otherwise : Act α) : Act α := fun scope => do
  match ← act.perform scope with
  | (.error .fault, after) => otherwise after
  | found => return found

/-- Does something at the end of an action, however that ends. -/
def ending {α : Type} (act : Act α) (last : Act Unit) : Act α := fun scope => do
  let (result, after) ← act.perform scope
  match ← last.perform after with
  | (.ok _, after) => return (result, after)
  | (.error stop, after) => return (.error stop, after)

end Act

/-- Names that the shell has from its start. -/
def fixedNames : List Bytes :=
  ["IFS", "MAIL", "MAILPATH", "OPTIND", "PATH", "PS1", "PS2", "PS4"].map encode

namespace Scope

def lookup? (scope : Scope) (name : Bytes) : Option Variable :=
  scope.vars.lookup name

def value? (scope : Scope) (name : Bytes) : Option Bytes :=
  (scope.lookup? name).bind Variable.value

def named? (scope : Scope) (name : String) : Option Bytes :=
  scope.value? (encode name)

/-- Puts a variable, or takes it away. -/
def putVariable (scope : Scope) (name : Bytes) (found : Option Variable) : Scope :=
  let others := scope.vars.filter (·.1 != name)
  { scope with vars := found.elim others fun found => (name, found) :: others }

def isSet (scope : Scope) (letter : Char) : Bool :=
  scope.options.contains letter

/-- The environment of a command that the shell starts. -/
def environment (scope : Scope) : List (Bytes × Bytes) :=
  scope.vars.reverse.filterMap fun (name, found) =>
    if found.isExported then found.value.map (name, ·) else none

/-- The octets that separate fields. -/
def separators (scope : Scope) : Bytes :=
  (scope.named? "IFS").getD [0x20, 9, 10]

end Scope

/-- The whole number that a text spells in decimal, with white space and a
sign. -/
def wholeNumber? (text : Bytes) : Option Int :=
  let isSpace (b : UInt8) : Bool := b = 0x20 || (9 ≤ b && b ≤ 13)
  let (isNegative, digits) := match text.dropWhile isSpace with
    | 0x2D :: rest => (true, rest)
    | 0x2B :: rest => (false, rest)
    | rest => (false, rest)
  let (digits, rest) := (digits.takeWhile isDigit, digits.dropWhile isDigit)
  if digits.isEmpty || !(rest.all isSpace) then none
  else
    let size : Int := digits.foldl (fun n b => 10 * n + (b.toNat - 48)) 0
    let number := if isNegative then -size else size
    if -9223372036854775808 ≤ number && number ≤ 9223372036854775807 then some number else none

/-- The largest number that commands of the shell take. -/
def numberLimit : Int := 2147483647

namespace Act

def badNumber {α : Type} (text : Bytes) : Act α :=
  fail (encode "Illegal number: " ++ text)

/-- The number that an argument spells. -/
def number (text : Bytes) : Act Nat :=
  match wholeNumber? text with
  | some n => if 0 ≤ n && n ≤ numberLimit then return n.toNat else badNumber text
  | none => badNumber text

/-- Gives a variable a value, or none, and marks it. Some variables have a
meaning for the shell itself. -/
def assign (name : Bytes) (value : Option Bytes) (exported : Bool := false)
    (readOnly : Bool := false) (quiet : Bool := false) : Act Unit := do
  let scope ← scope
  let before := (scope.lookup? name).getD {}
  if before.isReadOnly then fail (name ++ encode ": is read only")
  if name = encode "PATH" then change fun scope => { scope with remembered := [] }
  if name = encode "OPTIND" && !quiet then
    let index ← if (value.getD []).isEmpty then pure 1 else number (value.getD [])
    change fun scope => { scope with optionIndex := max index 1, optionOffset := none }
  let exported := exported || scope.isSet 'a'
  -- A variable that is taken away keeps its marks only where its name stays known.
  let isKept := fixedNames.contains name ||
    scope.frames.any fun frame => frame.any fun held => match held with
      | .variable other _ => other = name
      | .options _ => false
  let found : Option Variable :=
    if value.isNone && !exported && !readOnly then
      if isKept then some { before with value := none } else none
    else some {
      value, isExported := before.isExported || exported
      isReadOnly := before.isReadOnly || readOnly }
  change fun scope => scope.putVariable name found

/-- Gives a variable a value, or none, where its name is one. What follows an
equals sign in the name is passed over. -/
def setVariable (named : Bytes) (value : Option Bytes) (exported : Bool := false)
    (readOnly : Bool := false) : Act Unit := do
  let name := named.takeWhile (· != 0x3D)
  if !isName name then fail (name ++ encode ": bad variable name")
  assign name value exported readOnly

/-- Makes a variable local to the innermost frame. -/
def makeLocal (name : Bytes) (value : Option Bytes) (exported : Bool := false) : Act Unit := do
  let before := (← scope).lookup? name
  let hold (held : Held) : Act Unit := change fun scope => { scope with
    frames := match scope.frames with
      | frame :: frames => (held :: frame) :: frames
      | [] => [] }
  match before, value with
  | some _, none => hold (.variable name before)
  | some _, some _ =>
    assign name value exported
    hold (.variable name before)
  | none, none =>
    if !isName name then fail (name ++ encode ": bad variable name")
    hold (.variable name none)
    change fun scope => scope.putVariable name
      (some { isExported := exported || scope.isSet 'a' })
  | none, some _ =>
    assign name value exported
    hold (.variable name none)

/-- Gives back what is held, the last part first. A variable whose name is none
is found out only when it is taken away, and nothing is given back then. -/
def giveBack : List Held → Act Unit
  | [] => return
  | .options letters :: rest => do
    change fun scope => { scope with options := letters }
    giveBack rest
  | .variable name before :: rest => do
    if before.isNone && !isName name then fail (name ++ encode ": bad variable name")
    change fun scope => scope.putVariable name before
    if name = encode "PATH" then change fun scope => { scope with remembered := [] }
    giveBack rest

/-- Gives all that the frames above a count hold back. -/
def unwind (count : Nat) : Act Unit := do
  let frames := (← scope).frames
  change fun scope => { scope with frames := frames.drop (frames.length - count) }
  giveBack (frames.take (frames.length - count)).flatten

end Act

/-- A text between apostrophes, the way a shell reads it. -/
def apostrophed (text : Bytes) : Bytes :=
  pieces (text.length + 1) text
where
  pieces : Nat → Bytes → Bytes
    | 0, _ => []
    | fuel + 1, text =>
      let plain := text.takeWhile (· != 0x27)
      let rest := text.drop plain.length
      let marks := rest.takeWhile (· = 0x27)
      let first := 0x27 :: plain ++ [0x27]
      if marks.isEmpty then first
      else
        let rest := rest.drop marks.length
        first ++ 0x22 :: marks ++ 0x22 :: (if rest.isEmpty then [] else pieces fuel rest)

end Rollout.Posix.Shell
