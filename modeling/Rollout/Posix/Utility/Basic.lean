import Rollout.Posix.Calendar.Zone
import Rollout.Posix.Options
import Rollout.Posix.Printing
import Rollout.Posix.Process
import Rollout.Posix.Quoting

/-!
# Utilities

What the programs beside the shell have in common. Most of them run to their
end at once: they read their arguments and the tree, and leave what processes
share, what is to be written and an exit code. Others read as it comes, and
wait in between. A complaint starts with the name that the utility was started
by.
-/

namespace Rollout.Posix.Utility

open Rollout.Text (Bytes encode)

/-- A utility that runs to its end at once. -/
abbrev Run := Process → Kernel → Kernel × Output

/-- A utility as a process. -/
abbrev Conduct (Birth : Type) := Process → Work Birth Exit

/-- A part of what a utility does; one that goes wrong ends it. -/
abbrev Deed (Birth : Type) := ExceptT Exit (Work Birth)

/-- The text of a system error without its number. -/
def reason : IoError → String
  | .system code => IoError.systemText code
  | error => error.text

/-- A line that the process says of itself. -/
def Process.line (process : Process) (text : Bytes) : Bytes :=
  process.name ++ encode ": " ++ text ++ [10]

/-- A complaint: what was tried, the name it was tried with, and the reason. -/
def complaint (process : Process) (tried : String) (shown : Bytes) (reason : String) : Bytes :=
  Process.line process (encode tried ++ shown ++ encode reason)

/-- A complaint of a system error. -/
def failure (process : Process) (tried : String) (shown : Bytes) (error : IoError) : Bytes :=
  complaint process tried shown (": " ++ reason error)

def tryHelp (process : Process) : Bytes :=
  encode "Try '" ++ process.name ++ encode " --help' for more information.\n"

/-- A complaint on how a utility is used, which ends it. -/
def misuse (process : Process) (text : Bytes) (code : Nat) : Output :=
  ⟨[(2, Process.line process text ++ tryHelp process)], code⟩

def misused (process : Process) (kernel : Kernel) (text : Bytes) (code : Nat) : Kernel × Output :=
  (kernel, misuse process text code)

/-- What a utility says that needs an operand and has none. -/
def missingOperand (process : Process) : Output :=
  misuse process (encode "missing operand") 1

/-- The options that every utility knows. -/
def commonSwitches : List Switch := [
  ⟨"help", .nothing, ["help"]⟩, ⟨"version", .nothing, ["version"]⟩]

/-- The command line of a utility and what its options come to, added up one
after another. The first option that is wrong or asks for help decides what is
said at once. -/
def readLine {Wish : Type} (inFront : Bool) (code : Nat) (switches : List Switch)
    (add : Wish → Given → Except Output Wish) (start : Wish) (process : Process) :
    Except Output (CommandLine × Wish) := do
  let line := CommandLine.ofArgs inFront (switches ++ commonSwitches) process.args
  let wish ← line.given.foldlM (fun wish given =>
    if given.key = "help" || given.key = "version" then .error {} else add wish given) start
  match line.fault with
  | some text => throw (misuse process text code)
  | none => return (line, wish)

/-- Runs a utility whose options may stand anywhere and come to a wish. -/
def withWish {Wish : Type} (code : Nat) (switches : List Switch)
    (add : Process → Kernel → Wish → Given → Except Output Wish) (start : Wish)
    (run : CommandLine → Wish → Run) : Run :=
  fun process kernel =>
    match readLine false code switches (add process kernel) start process with
    | .error output => (kernel, output)
    | .ok (line, wish) => run line wish process kernel

/-- Runs a utility whose options may stand anywhere. -/
def withLine (code : Nat) (switches : List Switch) (run : CommandLine → Run) : Run :=
  withWish code switches (fun _ _ wish _ => .ok wish) () fun line () => run line

/-- Runs over operands one after another, a warning in front. -/
def overOperandsAfter (warning : Bytes) (kernel : Kernel) (operands : List Bytes)
    (step : Kernel → Output → Bytes → Kernel × Output) : Kernel × Output :=
  operands.foldl (fun (kernel, output) operand => step kernel output operand)
    (kernel, ⟨if warning.isEmpty then [] else [(2, warning)], 0⟩)

/-- Runs over operands one after another. -/
def overOperands : Kernel → List Bytes → (Kernel → Output → Bytes → Kernel × Output) →
    Kernel × Output :=
  overOperandsAfter []

/-- The zone whose clocks a process goes by. -/
def zoneOf (process : Process) : Calendar.Zone :=
  ((process.env.lookup (encode "TZ")).map fun text => .ofText (Text.lossy text)).getD .universal

/-- A choice among words, each with the value it stands for; a word may be cut
short as long as one value is meant. -/
def choice? {α : Type} [BEq α] (words : List (String × α)) (given : Bytes) : Option α :=
  match words.find? fun word => encode word.1 = given with
  | some found => some found.2
  | none =>
    match words.filter fun word => given.isPrefixOf (encode word.1) with
    | [] => none
    | first :: others => if others.all (·.2 == first.2) then some first.2 else none

/-- The complaint about a word that is none of a choice; words of one value
stand together. -/
def badChoice {α : Type} [BEq α] (option : String) (words : List (String × α)) (given : Bytes) :
    Bytes :=
  let groups := words.splitBy fun a b => a.2 == b.2
  let line (group : List (String × α)) : String :=
    "  - " ++ ", ".intercalate (group.map fun word => "'" ++ word.1 ++ "'")
  let ambiguous := words.any fun word => given.isPrefixOf (encode word.1)
  encode (if ambiguous then "ambiguous argument " else "invalid argument ") ++
    Quoting.text given ++
    encode (s!" for '{option}'\nValid arguments are:\n" ++ "\n".intercalate (groups.map line))

/-- The operands, or the input where there is none. -/
def inputs (line : CommandLine) : List Bytes :=
  if line.operands.isEmpty then [[0x2D]] else line.operands

section

variable {Birth : Type}

/-- Does something that never goes wrong. -/
def doing {α : Type} (work : Work Birth α) : Deed Birth α :=
  ExceptT.lift work

/-- How a utility ends that cannot write. -/
structure WriteFault where
  code : Nat := 1
  /-- It has forgotten the reason by the time it ends. -/
  isVague : Bool := false

/-- What a utility says that cannot write. -/
def WriteFault.text (fault : WriteFault) (process : Process) (error : IoError) : Bytes :=
  if fault.isVague && error != .badDescriptor then Process.line process (encode "write error")
  else failure process "write error" [] error

/-- Writes octets. A write that fails ends the utility: by the signal that goes
with it, and else with a complaint. -/
def put (process : Process) (descriptor : Nat) (octets : Bytes) (fault : WriteFault := {}) :
    Deed Birth Unit := do
  match ← doing (process.write descriptor octets) with
  | .ok () => return
  | .error error =>
    if let some signal := writeSignal? error then
      let isDeaf ← doing (Work.look fun kernel =>
        (kernel.life? process.number).any (·.ignored.contains signal))
      if !isDeaf then throw (.signal signal)
    -- What cannot be said is left unsaid.
    if descriptor != 2 then
      let _ ← doing (process.write 2 (fault.text process error))
      throw (.code fault.code)

/-- Writes what is to be written; the code stays. -/
def flush (process : Process) (output : Output) (fault : WriteFault := {}) :
    Deed Birth Output := do
  output.writes.forM fun (descriptor, octets) => put process descriptor octets fault
  return { output with writes := [] }

/-- Ends with an output. -/
def finish (process : Process) (output : Output) (fault : WriteFault := {}) :
    Deed Birth Exit := do
  return .code (← flush process output fault).code

/-- All that a utility does. -/
def conduct (deed : Process → Deed Birth Exit) : Conduct Birth := fun process => do
  match ← (deed process).run with
  | .ok exit => return exit
  | .error exit => return exit

/-- A utility that runs to its end at once, as a process. -/
def atOnce (run : Run) (fault : WriteFault := {}) : Conduct Birth :=
  conduct fun process => do
    let output ← doing (Work.update fun kernel =>
      let (kernel, output) := run process kernel
      (output, kernel))
    finish process output fault

/-- A utility that does its work bit by bit, as its options wish. -/
def asWished {Wish : Type} (switches : List Switch)
    (add : Process → Wish → Given → Except Output Wish) (start : Wish)
    (deed : CommandLine → Wish → Process → Deed Birth Exit) (process : Process) :
    Deed Birth Exit :=
  match readLine false 1 switches (add process) start process with
  | .error output => finish process output
  | .ok (line, wish) => deed line wish process

/-- A utility that does its work bit by bit, on its options and operands. -/
def bitByBit (inFront : Bool) (switches : List Switch)
    (deed : CommandLine → Process → Deed Birth Exit) (process : Process) : Deed Birth Exit :=
  match readLine inFront 1 switches (fun wish _ => .ok wish) () process with
  | .error output => finish process output
  | .ok (line, ()) => deed line process

/-- Opens an operand for reading; a dash stands for the input. -/
def openOperand (process : Process) (operand : Bytes) : Deed Birth (Except IoError Handle) :=
  if operand = [0x2D] then
    return match process.handle? 0 with
      | some handle => .ok handle
      | none => .error .badDescriptor
  else
    doing (Work.update fun kernel =>
      match kernel.openPath process.footing operand .read with
      | .ok (handle, kernel) => (.ok handle, kernel)
      | .error error => (.error error, kernel))

end

end Rollout.Posix.Utility
