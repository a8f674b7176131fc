import Rollout.Posix.Mode.Change
import Rollout.Posix.Utility.Basic

/-!
# Making and removing directories

Makes directories, with those above them where asked, and removes empty ones.
-/

namespace Rollout.Posix.Utility

open Rollout.Text (Bytes encode)

namespace Directory

/-- With which mode directories are made. -/
structure Making where
  /-- What the last one is asked for with. -/
  mode : Mode := .newDirectory
  /-- The bits that it gets in any case. -/
  spoken : Nat := 0
  /-- Rights that new directories do not get. -/
  mask : Mode

/-- How directories are made for a process with changes of their mode. -/
def Making.of (process : Process) (changes : Option (List Mode.Change)) : Making :=
  match changes with
  | none => { mask := process.mask }
  | some changes =>
    let (mode, spoken) := Mode.newDirectory.changed process.mask changes
    { mode, spoken, mask := process.mask.without mode }

/-- How those above the last one are made: so that one more can be put in. -/
def Making.above (process : Process) : Making where
  mask := process.mask.without ⟨0o300⟩

/-- What the system is asked for. A directory that gets marks is not open to
others before it has them. -/
def Making.asked (making : Making) : Mode :=
  let isMarked := making.spoken &&& (Mode.setUser ||| Mode.setGroup) != 0 ||
    making.mode.has Mode.sticky
  if isMarked then making.mode.without ⟨0o022⟩ else making.mode

/-- The mode of a directory, set right after it was made with this one. -/
def Making.settled (making : Making) (mode : Mode) : Mode :=
  let isWrong := (mode.bits ^^^ making.mode.bits) &&& making.spoken != 0
  if isWrong then ⟨making.mode.bits ||| (mode.without ⟨making.spoken⟩).bits⟩ else mode

/-- Makes the directory of a path. -/
def make (process : Process) (making : Making) (kernel : Kernel) (path : Bytes) :
    Except IoError Kernel := do
  let place ← kernel.tree.locate process.place (FileTree.trimmed path) false
  if (kernel.tree.entry? place).isSome then throw .alreadyExists
  else if !kernel.tree.isOpen place.dropLast then throw .accessDenied
  else
    let kernel := kernel.make place .directory (making.asked.without making.mask)
    return kernel.amend place fun inode => { inode with mode := making.settled inode.mode }

/-- The paths of the directories above the last name of a path. -/
def above (path : Bytes) : List Bytes :=
  (List.range path.length).filterMap fun n =>
    let isEnd := n != 0 && path[n]? = some Path.slash && path[n - 1]? != some Path.slash
    if isEnd && (path.drop n).any (· != Path.slash) then some (path.take n) else none

/-- What is said of a directory that was made. -/
def made (process : Process) (path : Bytes) : Bytes :=
  complaint process "created directory " (Quoting.shell path) ""

/-- Makes those of the directories that are missing, and tells so. -/
def makeAbove (process : Process) (tells : Bool) (kernel : Kernel) (output : Output) :
    List Bytes → Kernel × Output × Option (Bytes × IoError)
  | [] => (kernel, output, none)
  | path :: rest =>
    let (kernel, output, fault) : Kernel × Output × Option IoError :=
      if FileTree.isDots (FileTree.lastName path) then (kernel, output, none)
      else
        match make process (.above process) kernel path with
        | .ok kernel => (kernel, if tells then output.say (made process path) else output, none)
        | .error error => (kernel, output, some error)
    match kernel.tree.entered process.place path with
    | .ok _ => makeAbove process tells kernel output rest
    | .error error =>
      -- What kept it from being made tells more than that it is missing.
      (kernel, output, some (path, if error = .notFound then fault.getD error else error))

/-- Removes the empty directory of a path. -/
def removeEmpty (process : Process) (kernel : Kernel) (path : Bytes) : Except IoError Kernel := do
  let place ← kernel.tree.locate process.place (FileTree.trimmed path) false
  match kernel.tree.entry? place with
  | none => throw .notFound
  | some entry =>
    if place.isEmpty then throw (.system 16)
    else if FileTree.lastName path = [Path.dot] then throw .invalidArgument
    else if FileTree.lastName path = FileTree.dotDot then throw .notEmpty
    else if !kernel.tree.isOpen place.dropLast then throw .accessDenied
    else if entry != .directory then throw .notDirectory
    else if !(kernel.tree.children place).isEmpty then throw .notEmpty
    else return kernel.remove place

/-- Whether a path ends with a slash behind a link to a directory. -/
def isLinkWithSlash (process : Process) (kernel : Kernel) (path : Bytes) : Bool :=
  let plain := match kernel.tree.locate process.place (FileTree.trimmed path) false with
    | .ok place => kernel.tree.entry? place
    | .error _ => none
  let isLink := match plain with
    | some (.link _) => true
    | _ => false
  path.getLast? = some Path.slash && isLink &&
    match kernel.tree.find process.place path with
    | .ok (_, entry) => entry = .directory
    | .error error => error != .notDirectory

/-- Removes directories in order up to the first that stays. -/
def removeAbove (process : Process) (tells : Bool) (pardons : IoError → Bool) (kernel : Kernel)
    (output : Output) : List Bytes → Kernel × Output
  | [] => (kernel, output)
  | path :: rest =>
    let output := if tells then
        output.say (complaint process "removing directory, " (Quoting.shell path) "")
      else output
    match removeEmpty process kernel path with
    | .ok kernel => removeAbove process tells pardons kernel output rest
    | .error error =>
      if pardons error then (kernel, output)
      else
        let tried := if error = .notDirectory then "failed to remove "
          else "failed to remove directory "
        (kernel, output.complain (failure process tried (Quoting.shell path) error) 1)

end Directory

def mkdir : Run := withLine 1 [⟨"p", .nothing, ["parents"]⟩, ⟨"m", .argument, ["mode"]⟩,
    ⟨"v", .nothing, ["verbose"]⟩, ⟨"Z", .nothing, []⟩, ⟨"context", .perhaps, ["context"]⟩]
  fun line process kernel =>
    let mode := line.argument? "m"
    let changes := mode.bind Mode.Change.ofText?
    let tells := line.has "v"
    if line.operands.isEmpty then (kernel, missingOperand process)
    else if mode.isSome && changes.isNone then
      (kernel, ⟨[(2, complaint process "invalid mode " (Quoting.text (mode.getD [])) "")], 1⟩)
    else
      let warning := if (line.argument? "context").isSome then
          complaint process
            "warning: ignoring --context; it requires an SELinux/SMACK-enabled kernel" [] ""
        else []
      overOperandsAfter warning kernel line.operands fun kernel output operand =>
        let refuse (output : Output) (path : Bytes) (error : IoError) : Output :=
          output.complain
            (failure process "cannot create directory " (Quoting.text path) error) 1
        let (kernel, output, fault) :=
          if line.has "p" then
            Directory.makeAbove process tells kernel output (Directory.above operand)
          else (kernel, output, none)
        match fault with
        | some (path, error) => (kernel, refuse output path error)
        | none =>
          match Directory.make process (.of process changes) kernel operand with
          | .ok kernel =>
            (kernel, if tells then output.say (Directory.made process operand) else output)
          | .error error =>
            let isThere := match kernel.tree.directory process.place operand with
              | .ok _ => true
              | .error _ => false
            if line.has "p" && error != .notFound && isThere then (kernel, output)
            else (kernel, refuse output operand error)

def rmdir : Run := withLine 1 [⟨"p", .nothing, ["parents"]⟩, ⟨"v", .nothing, ["verbose"]⟩,
    ⟨"lenient", .nothing, ["ignore-fail-on-non-empty"]⟩, ⟨"path", .nothing, ["path"]⟩]
  fun line process kernel =>
    let tells := line.has "v"
    let pardons (error : IoError) : Bool := line.has "lenient" && error = .notEmpty
    if line.operands.isEmpty then (kernel, missingOperand process)
    else
      overOperands kernel line.operands fun kernel output operand =>
        let output := if tells then
            output.say (complaint process "removing directory, " (Quoting.shell operand) "")
          else output
        match Directory.removeEmpty process kernel operand with
        | .ok kernel =>
          if line.has "p" || line.has "path" then
            Directory.removeAbove process tells pardons kernel output
              (Directory.above (FileTree.trimmed operand)).reverse
          else (kernel, output)
        | .error error =>
          if pardons error then (kernel, output)
          else
            let why := if error = .notDirectory &&
                Directory.isLinkWithSlash process kernel operand then
                "Symbolic link not followed"
              else reason error
            (kernel, output.complain
              (complaint process "failed to remove " (Quoting.shell operand) (": " ++ why)) 1)

end Rollout.Posix.Utility
