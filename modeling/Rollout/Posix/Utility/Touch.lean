import Rollout.Posix.Calendar.Wording
import Rollout.Posix.Utility.Directory

/-!
# Times of files

Sets the times of files, and makes those that are missing.
-/

namespace Rollout.Posix.Utility

open Rollout.Text (Bytes encode)

namespace Touch

def switches : List Switch := [
  ⟨"a", .nothing, []⟩, ⟨"c", .nothing, ["no-create"]⟩, ⟨"d", .argument, ["date"]⟩,
  ⟨"f", .nothing, []⟩, ⟨"h", .nothing, ["no-dereference"]⟩, ⟨"m", .nothing, []⟩,
  ⟨"r", .argument, ["reference"]⟩, ⟨"t", .argument, []⟩, ⟨"time", .argument, ["time"]⟩]

/-- Times by name, and whether it is that of the last change. -/
def kinds : List (String × Bool) := [
  ("atime", false), ("access", false), ("use", false), ("mtime", true), ("modify", true)]

/-- What is asked for. -/
structure Wish where
  /-- The time of the last use is named. -/
  use : Bool := false
  /-- The time of the last change is named. -/
  change : Bool := false
  /-- A time in digits, in nanoseconds. -/
  time : Option Int := none

def badDate (process : Process) (text : Bytes) : Output :=
  ⟨[(2, complaint process "invalid date format " (Quoting.text text) "")], 1⟩

/-- The wish with one more option. -/
def Wish.add (process : Process) (kernel : Kernel) (wish : Wish) (given : Given) :
    Except Output Wish :=
  let word := given.argument.getD []
  match given.key with
  | "a" => .ok { wish with use := true }
  | "m" => .ok { wish with change := true }
  | "t" =>
    match Calendar.ofDigits? (zoneOf process) kernel.now (Text.lossy word).toList with
    | some time => .ok { wish with time := some time }
    | none => .error (badDate process word)
  | "time" =>
    match choice? kinds word with
    | some true => .ok { wish with change := true }
    | some false => .ok { wish with use := true }
    | none => .error (misuse process (badChoice "--time" kinds word) 1)
  | _ => .ok wish

/-- The times of the last use and change to set: those of another file, one that
is described, one in digits, or none, which stands for the present. -/
def timesFor (line : CommandLine) (wish : Wish) (process : Process) (kernel : Kernel) :
    Except Output (Option (Int × Int)) := do
  if wish.time.isSome && (line.has "r" || line.has "d") then
    throw (misuse process (encode "cannot specify times from more than one source") 1)
  let described (now : Int) : Except Output (Option Int) :=
    match line.argument? "d" with
    | none => .ok none
    | some text =>
      match Calendar.ofText? (zoneOf process) now (Text.lossy text).toList with
      | some time => .ok (some time)
      | none => .error (badDate process text)
  match line.argument? "r" with
  | none => return ((← described kernel.now).or wish.time).map fun time => (time, time)
  | some path =>
    let found : Except IoError Inode := do
      let place ← kernel.tree.locate process.place path !(line.has "h")
      match kernel.tree.inode? place with
      | some inode => .ok inode
      | none => throw .notFound
    match found with
    | .ok inode =>
      let used ← described inode.times.used
      let modified ← described inode.times.modified
      return some (used.getD inode.times.used, modified.getD inode.times.modified)
    | .error error =>
      throw ⟨[(2, failure process "failed to get attributes of " (Quoting.shell path) error)], 1⟩

/-- The first and last second that the disk can note, each as a whole only. -/
def earliest : Int := -2147483648
def latest : Int := 15032385535

/-- A time as the disk notes it. -/
def noted (time : Int) : Int :=
  let seconds := Int.fdiv time Calendar.second
  if seconds ≤ earliest then earliest * Calendar.second
  else if latest ≤ seconds then latest * Calendar.second
  else time

/-- The times after those that are meant were set. -/
def Wish.amended (wish : Wish) (now : Int) (set : Option (Int × Int)) (times : Times) : Times :=
  let (used, modified) := set.getD (now, now)
  { times with
    used := if wish.use || !wish.change then noted used else times.used
    modified := if wish.change || !wish.use then noted modified else times.modified
    altered := now }

/-- Makes a file where there is none. -/
def ensure (process : Process) (kernel : Kernel) (path : Bytes) : Except IoError Kernel :=
  (kernel.openPath process.footing path .append).map Prod.snd

/-- Changes the times of what stands at a place. -/
def amend (kernel : Kernel) (change : Times → Times) (place : Place) : Kernel :=
  kernel.amend place fun inode => { inode with times := change inode.times }

/-- Changes the times of what a path leads to. -/
def amendAt (process : Process) (kernel : Kernel) (through : Bool) (change : Times → Times)
    (path : Bytes) : Except IoError Kernel := do
  let place ← kernel.tree.locate process.place path through
  match kernel.tree.entry? place with
  | some _ => return amend kernel change place
  | none => throw .notFound

/-- Changes the times of what the output goes to. -/
def amendOutput (process : Process) (kernel : Kernel) (change : Times → Times) :
    Except IoError Kernel :=
  match (process.handle? 1).bind (kernel.files[·]?) with
  | none => .error .badDescriptor
  | some file =>
    match file.target with
    | .file place => .ok (amend kernel change place)
    | .directory place => .ok (amend kernel change place)
    | _ => .ok kernel

end Touch

def touch : Run := withWish 1 Touch.switches Touch.Wish.add {} fun line wish process kernel =>
  match Touch.timesFor line wish process kernel with
  | .error output => (kernel, output)
  | .ok set =>
    if line.operands.isEmpty then misused process kernel (encode "missing file operand") 1
    else
      overOperands kernel line.operands fun kernel output operand =>
        let isOutput := operand = [0x2D]
        let opened : Except IoError Kernel :=
          if line.has "c" || line.has "h" || isOutput then .ok kernel
          else Touch.ensure process kernel operand
        let (kernel, openError) : Kernel × Option IoError := match opened with
          | .ok kernel => (kernel, none)
          | .error error => (kernel, some error)
        let change := wish.amended kernel.now set
        let changed :=
          if isOutput then Touch.amendOutput process kernel change
          else Touch.amendAt process kernel (!line.has "h") change operand
        let refuse (tried : String) (error : IoError) : Kernel × Output :=
          (kernel, output.complain (failure process tried (Quoting.shell operand) error) 1)
        match changed with
        | .ok kernel => (kernel, output)
        | .error error =>
          match openError.filter (· != .isDirectory) with
          | some openError => refuse "cannot touch " openError
          | none =>
            if line.has "c" && error = (if isOutput then .badDescriptor else .notFound) then
              (kernel, output)
            else refuse "setting times of " error

end Rollout.Posix.Utility
