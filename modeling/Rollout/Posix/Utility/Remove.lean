import Rollout.Posix.Utility.Directory

/-!
# Removing entries

Removes files, and with recursion directories with all that is in them. Where
asked for, each step waits for an answer on the input.
-/

namespace Rollout.Posix.Utility

open Rollout.Text (Bytes encode)

namespace Remove

/-- When an answer is waited for. -/
inductive Asking where
  | never
  /-- Once in front of a removal of many or with recursion. -/
  | once
  | always
  deriving DecidableEq

/-- How entries are removed. -/
structure Manner where
  /-- Nothing is asked for unless said so. -/
  asking : Option Asking := none
  /-- What is not there is no fault. -/
  pardons : Bool := false
  recursive : Bool := false
  /-- Empty directories are removed, too. -/
  empties : Bool := false
  tells : Bool := false
  keepsRoot : Bool := true

def askings : List (String × Asking) := [
  ("never", .never), ("no", .never), ("none", .never), ("once", .once), ("always", .always),
  ("yes", .always)]

def switches : List Switch := [
  ⟨"d", .nothing, ["dir"]⟩, ⟨"f", .nothing, ["force"]⟩, ⟨"i", .nothing, []⟩,
  ⟨"I", .nothing, []⟩, ⟨"interactive", .perhaps, ["interactive"]⟩,
  ⟨"one", .nothing, ["one-file-system"]⟩, ⟨"no-root", .nothing, ["no-preserve-root"]⟩,
  ⟨"root", .perhaps, ["preserve-root"]⟩, ⟨"presume", .nothing, ["-presume-input-tty"]⟩,
  ⟨"r", .nothing, ["recursive"]⟩, ⟨"R", .nothing, []⟩, ⟨"v", .nothing, ["verbose"]⟩]

def Manner.ask (manner : Manner) (asking : Asking) : Manner :=
  { manner with
    asking := some asking, pardons := if asking = .never then manner.pardons else false }

/-- The manner with one more option, or what is wrong with it. -/
def Manner.add (process : Process) (manner : Manner) (given : Given) : Except Output Manner :=
  match given.key with
  | "d" => .ok { manner with empties := true }
  | "f" => .ok { manner with asking := some .never, pardons := true }
  | "i" => .ok (manner.ask .always)
  | "I" => .ok (manner.ask .once)
  | "interactive" =>
    match given.argument with
    | none => .ok (manner.ask .always)
    | some word =>
      match choice? askings word with
      | some asking => .ok (manner.ask asking)
      | none => .error (misuse process (badChoice "--interactive" askings word) 1)
  | "root" =>
    let word := given.argument.getD (encode "all")
    if word = encode "all" then .ok { manner with keepsRoot := true }
    else
      .error ⟨[(2, complaint process "unrecognized --preserve-root argument: "
        (Quoting.text word) "")], 1⟩
  | "r" => .ok { manner with recursive := true }
  | "R" => .ok { manner with recursive := true }
  | "v" => .ok { manner with tells := true }
  | "no-root" => .ok { manner with keepsRoot := false }
  | _ => .ok manner

def kindText : Entry → String
  | .directory => "directory"
  | .file [] => "regular empty file"
  | .link _ => "symbolic link"
  | .device _ => "character special file"
  | _ => "regular file"

/-- Takes a single entry away. Of a directory that cannot be read, nobody knows
what is in it. -/
def takeAway (process : Process) (kernel : Kernel) (path : Bytes) (isDirectory : Bool) :
    Except IoError Kernel := do
  let place ← kernel.tree.locate process.place path false
  if isDirectory then
    match Directory.removeEmpty process kernel path with
    | .error .notEmpty =>
      throw (if kernel.tree.lets place .read then .notEmpty else .accessDenied)
    | result => result
  else if (kernel.tree.entry? place).isNone then throw .notFound
  else if !kernel.tree.isOpen place.dropLast then throw .accessDenied
  else if kernel.tree.entry? place = some .directory then throw .isDirectory
  else return kernel.remove place

/-- Errors that say that there is nothing. -/
def isMissing (error : IoError) : Bool :=
  error = .notFound || error = .notDirectory || error = .invalidArgument

section

variable {Birth : Type} (manner : Manner) (process : Process)

/-- Reads a line of the input as it comes. -/
def answer (handle : Handle) : Nat → Nat → Deed Birth Bytes
  | 0, _ => return []
  | turns + 1, least => do
    doing (Work.supply process.number handle least false Work.patience)
    let octets ← doing (Work.look fun kernel => ((kernel.peek handle none).toOption).getD [])
    let line := octets.takeWhile (· != 10)
    if line.length < octets.length || octets.length < least then
      doing (Work.change (·.advance handle (min octets.length (line.length + 1))))
      return line
    else answer handle turns (octets.length + 1)

/-- Asks, and reads a line of the input; one that starts with this letter
agrees. -/
def agrees (question : Bytes) : Deed Birth Bool := do
  put process 2 question
  match process.handle? 0 with
  | none => return false
  | some handle =>
    let line ← answer process handle Work.patience 1
    return line.head? = some 0x79 || line.head? = some 0x59

/-- Complains of an entry that is not removed. -/
def refuse (output : Output) (path : Bytes) (error : IoError) : Output :=
  output.complain (failure process "cannot remove " (Quoting.shell path) error) 1

/-- Takes an entry away and tells so, or complains. The answer tells whether it
is gone. -/
def takeOff (output : Output) (path : Bytes) (isDirectory : Bool) : Deed Birth (Output × Bool) := do
  let fault? ← doing (Work.update fun kernel =>
    match takeAway process kernel path isDirectory with
    | .ok kernel => (none, kernel)
    | .error error => (some error, kernel))
  match fault? with
  | none =>
    let text := encode (if isDirectory then "removed directory " else "removed ") ++
      Quoting.shell path ++ [10]
    return (if manner.tells then output.say text else output, true)
  | some error =>
    if manner.pardons && isMissing error then return (output, true)
    else
      return (refuse process output path error, false)

/-- Asks whether an entry is to be removed, where answers are waited for. -/
def confirmed (output : Output) (verb : String) (path : Bytes) : Deed Birth (Output × Bool) := do
  if manner.asking = some .always then
    let output ← flush process output
    return (output,
      ← agrees process (process.name ++ encode (": " ++ verb) ++ Quoting.shell path ++ encode "? "))
  else return (output, true)

/-- What is done about a directory that cannot be read. -/
def removeUnread (output : Output) (path : Bytes) : Deed Birth (Output × Bool) := do
  if manner.asking = some .always && !manner.empties then
    return (refuse process output path .accessDenied, false)
  else
    let verb := if manner.recursive then "remove directory "
      else "attempt removal of inaccessible directory "
    let (output, yes) ← confirmed manner process output verb path
    if yes then takeOff manner process output path true else return (output, false)

/-- Removes an entry, a directory with all that is in it. The answer tells
whether the directory above may still go. -/
def removeTree : Nat → Output → Bytes → Place → Entry → Deed Birth (Output × Bool)
  | 0, output, _, _, _ => return (output, false)
  | fuel + 1, output, path, place, entry => do
    let tree ← doing (Work.look Kernel.tree)
    if manner.asking = some .always && !tree.lets place.dropLast .pass then
      return (refuse process output path .accessDenied, true)
    else if entry = .directory && !tree.lets place .read then
      removeUnread manner process output path
    else
      let isFull := !(tree.children place).isEmpty
      let (output, yes) ←
        if entry = .directory && isFull then
          confirmed manner process output "descend into directory " path
        else confirmed manner process output ("remove " ++ kindText entry ++ " ") path
      if !yes then return (output, false)
      else if entry != .directory then takeOff manner process output path false
      else
        let children ← doing (Work.look fun kernel =>
          (kernel.tree.children place).mergeSort fun a b => !(decide (b.1 < a.1)))
        if children.isEmpty then takeOff manner process output path true
        else
          let start := if path.getLast? = some Path.slash then path else path ++ [Path.slash]
          let (output, emptied) ← children.foldlM
            (fun (output, (emptied : Bool)) (name, child) => do
              let (output, gone) ←
                removeTree fuel output (start ++ name) (place ++ [name]) child.entry
              return (output, emptied && gone)) (output, true)
          if !emptied then return (output, false)
          else
            let (output, yes) ← confirmed manner process output "remove directory " path
            if yes then takeOff manner process output path true else return (output, false)

/-- A path with at most one slash at its end. -/
def shortened (path : Bytes) : Bytes :=
  let body := (path.reverse.dropWhile (· = Path.slash)).reverse
  if path.length < 3 || body.length = path.length then path else body ++ [Path.slash]

/-- What a path leads to, links not followed. -/
def entryAt (process : Process) (kernel : Kernel) (path : Bytes) :
    Except IoError (Place × Entry) := do
  let place ← kernel.tree.locate process.place path false
  match kernel.tree.entry? place with
  | some entry => .ok (place, entry)
  | none => .error IoError.notFound

/-- Removes an operand. -/
def removeOperand (output : Output) (operand : Bytes) : Deed Birth Output := do
  let path := shortened operand
  let shown := Quoting.shell path
  let kernel ← doing (Work.look id)
  match entryAt process kernel path with
  | .error error =>
    return if manner.pardons && isMissing error then output else refuse process output path error
  | .ok (place, entry) =>
    let seemsFull := kernel.tree.lets place .read && !(kernel.tree.children place).isEmpty
    if entry = .directory && !manner.recursive && !(manner.empties && !seemsFull) then
      return refuse process output path (if manner.empties then .notEmpty else .isDirectory)
    else if entry = .directory && FileTree.isDots (FileTree.lastName path) then
      return output.complain (complaint process
        "refusing to remove '.' or '..' directory: skipping " shown "") 1
    else if place.isEmpty && manner.keepsRoot then
      let same := if path = [Path.slash] then "" else " (same as '/')"
      return output.complain
        (complaint process "it is dangerous to operate recursively on " shown same ++
          Process.line process (encode "use --no-preserve-root to override this failsafe")) 1
    else
      let (output, _) ←
        removeTree manner process (kernel.tree.entries.length + 1) output path place entry
      return output

end

end Remove

def rm {Birth : Type} : Conduct Birth :=
  conduct (asWished Remove.switches Remove.Manner.add {} fun line manner process => do
    let count := line.operands.length
    if line.operands.isEmpty then
      finish process (if manner.pardons then {} else missingOperand process)
    else
      let yes ←
        if manner.asking = some .once && (manner.recursive || 3 < count) then
          let many := s!": remove {count} argument" ++ (if count = 1 then "" else "s") ++
            if manner.recursive then " recursively? " else "? "
          Remove.agrees process (process.name ++ encode many)
        else pure true
      if !yes then return .code 0
      else finish process (← line.operands.foldlM (Remove.removeOperand manner process) {}))

end Rollout.Posix.Utility
