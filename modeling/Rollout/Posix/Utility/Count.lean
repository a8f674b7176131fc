import Rollout.Posix.Utility.Basic

/-!
# Counts

Counts the lines, words and octets of files, and finds their longest line.
-/

namespace Rollout.Posix.Utility

open Rollout.Text (Bytes encode)

namespace Count

def switches : List Switch := [
  ⟨"c", .nothing, ["bytes"]⟩, ⟨"m", .nothing, ["chars"]⟩, ⟨"l", .nothing, ["lines"]⟩,
  ⟨"w", .nothing, ["words"]⟩, ⟨"debug", .nothing, ["debug"]⟩,
  ⟨"files0-from", .argument, ["files0-from"]⟩, ⟨"L", .nothing, ["max-line-length"]⟩,
  ⟨"total", .argument, ["total"]⟩]

structure Counts where
  lines : Nat := 0
  words : Nat := 0
  octets : Nat := 0
  longest : Nat := 0

namespace Counts

/-- The counts of several files together. -/
def add (a b : Counts) : Counts :=
  ⟨a.lines + b.lines, a.words + b.words, a.octets + b.octets, max a.longest b.longest⟩

end Counts

/-- What is known while octets are counted: whether a word goes on, and how
wide the line is so far. -/
structure State where
  counts : Counts := {}
  inWord : Bool := false
  width : Nat := 0

/-- Counts one octet. A word has something that prints in it. -/
def State.step (state : State) (b : UInt8) : State :=
  let counts := { state.counts with octets := state.counts.octets + 1 }
  let counts := if isBlankOctet b && state.inWord then { counts with words := counts.words + 1 }
    else counts
  let inWord := !isBlankOctet b && (state.inWord || isPrintable b)
  if b = 10 || b = 12 || b = 13 then
    { counts := { counts with
        lines := if b = 10 then counts.lines + 1 else counts.lines
        longest := max counts.longest state.width }
      inWord, width := 0 }
  else
    let width := if b = 9 then state.width + 8 - state.width % 8
      else if isPrintable b then state.width + 1 else state.width
    { counts, inWord, width }

def ofOctets (octets : Bytes) : Counts :=
  let state := octets.foldl State.step {}
  { state.counts with
    words := if state.inWord then state.counts.words + 1 else state.counts.words
    longest := max state.counts.longest state.width }

/-- When a line with the sums is shown. -/
inductive Total where
  | auto | always | only | never
  deriving DecidableEq

def totals : List (String × Total) :=
  [("auto", .auto), ("always", .always), ("only", .only), ("never", .never)]

/-- The counts that are asked for, in the order in which they are shown. -/
def shown (line : CommandLine) (counts : Counts) : List Nat :=
  let any := ["l", "w", "m", "c", "L"].any line.has
  let pick (key : String) (usual : Bool) (n : Nat) : List Nat :=
    if line.has key || (usual && !any) then [n] else []
  pick "l" true counts.lines ++ pick "w" true counts.words ++ pick "m" false counts.octets ++
    pick "c" true counts.octets ++ pick "L" false counts.longest

/-- The size of a plain file; nothing where it is another kind of file. -/
def plainSize? (process : Process) (kernel : Kernel) (operand : Bytes) :
    Except IoError (Option Nat) :=
  if operand = [0x2D] then
    match (process.handle? 0).bind (kernel.files[·]?) with
    | none => .error .badDescriptor
    | some file => .ok (match file.target with
      | .file _ => some (kernel.stored file.target).length
      | .nameless _ => some (kernel.stored file.target).length
      | _ => none)
  else
    (kernel.tree.find process.place operand).map fun (_, entry) => match entry with
      | .file octets => some octets.length
      | .descriptor number =>
        match (process.handle? number).bind (kernel.files[·]?) with
        | some file => match file.target with
          | .file _ => some (kernel.stored file.target).length
          | _ => none
        | none => none
      | _ => none

/-- How wide the columns are: as wide as the sum of the sizes, and wider if
some size is not known ahead. A single number needs no column. -/
def columnWidth (process : Process) (kernel : Kernel) (line : CommandLine)
    (operands : List Bytes) : Nat :=
  if operands.isEmpty || operands.length = 1 && (shown line {}).length = 1 then 1
  else
    let sizes := operands.filterMap fun operand =>
      match plainSize? process kernel operand with
      | .ok size => some size
      | .error _ => none
    let sum := sizes.foldl (fun sum size => sum + size.getD 0) 0
    max (toString sum).length (if sizes.contains none then 7 else 1)

/-- What is counted: the operands, and how wide the columns are. -/
structure Task where
  operands : List Bytes
  width : Nat
  /-- The file that the names are from. -/
  listed : Option Bytes := none

/-- The names that a text has, each with a zero behind it. -/
def namesIn (octets : Bytes) : List Bytes :=
  let parts := octets.splitOn 0
  if parts.getLast? = some [] then parts.dropLast else parts

section

variable {Birth : Type}

/-- The octets of an operand, and what is said about it; of what could be
opened but not read, none. -/
def octetsOf (process : Process) (operand : Bytes) : Deed Birth (Option Bytes × Bytes) := do
  let shownName := if operand = [0x2D] then encode "'standard input'"
    else Quoting.front operand
  let fault (error : IoError) : Bytes := failure process "" shownName error
  match ← openOperand process operand with
  | .error error => return (if operand = [0x2D] then some [] else none, fault error)
  | .ok handle =>
    match ← doing (Work.readAll handle) with
    | .ok octets => return (some octets, [])
    | .error error => return (some [], fault error)

/-- The task that a command line sets, or what is said of one that sets none. -/
def taskOf (line : CommandLine) (process : Process) : Deed Birth (Except Bytes Task) := do
  match line.argument? "files0-from", line.operands with
  | none, _ =>
    let operands := inputs line
    let width ← doing (Work.look fun kernel => columnWidth process kernel line operands)
    return .ok ⟨operands, width, none⟩
  | some _, operand :: _ =>
    return .error (complaint process "extra operand " (Quoting.shell operand) "" ++
      encode "file operands cannot be combined with --files0-from\n" ++ tryHelp process)
  | some path, [] =>
    let isPlain ← doing (Work.look fun kernel => match plainSize? process kernel path with
      | .ok (some _) => true
      | _ => false)
    let unreadable (error : IoError) : Bytes :=
      if isPlain then
        complaint process "cannot read file names from " (Quoting.shell path) ""
      else complaint process "" (Quoting.front path) (": read error: " ++ reason error)
    match ← openOperand process path with
    | .error error =>
      if path = [0x2D] then return .error (unreadable error)
      else
        return .error (complaint process "cannot open " (Quoting.shell path)
          (" for reading: " ++ reason error))
    | .ok handle =>
      match ← doing (Work.readAll handle) with
      | .error error => return .error (unreadable error)
      | .ok octets =>
        let operands := namesIn octets
        let width ← doing (Work.look fun kernel => columnWidth process kernel line operands)
        return .ok ⟨operands, if isPlain then width else 1, some path⟩

end

/-- What is wrong with an operand before it is opened. -/
def objection? (process : Process) (task : Task) (number : Nat) (operand : Bytes) : Option Bytes :=
  let place := match task.listed with
    | none => []
    | some path => Quoting.front path ++ encode s!":{number}: "
  if operand.isEmpty then
    some (complaint process "" (place ++ encode "invalid zero-length file name") "")
  else if operand = [0x2D] && task.listed = some [0x2D] then
    some (complaint process "when reading file names from stdin, no file name of "
      (Quoting.shell operand) " allowed")
  else none

/-- Counts what is in operands, and adds rows to what is said; the sum is
carried on. -/
def countAll {Birth : Type} (process : Process) (row : Counts → Bytes → Bytes) (task : Task) :
    List (Bytes × Nat) → Output → Counts → Deed Birth (Output × Counts)
  | [], output, sum => return (output, sum)
  | (operand, place) :: rest, output, sum => do
    match objection? process task (place + 1) operand with
    | some text => countAll process row task rest (output.complain text 1) sum
    | none =>
      let (octets?, complaint) ← octetsOf process operand
      let output := if complaint.isEmpty then output else output.complain complaint 1
      match octets? with
      | none => countAll process row task rest output sum
      | some octets =>
        let counts := ofOctets octets
        countAll process row task rest (output.say (row counts operand)) (sum.add counts)

/-- Every line is put out when it is there, and at the end it is not known any
more why that failed. -/
def fault : WriteFault where
  isVague := true

end Count

/-- When the sums are shown, after one more option. -/
def Count.heed (process : Process) (total : Count.Total) (given : Given) :
    Except Output Count.Total :=
  if given.key = "total" then
    let word := given.argument.getD []
    match choice? Count.totals word with
    | some total => .ok total
    | none => .error (misuse process (badChoice "--total" Count.totals word) 1)
  else .ok total

def wc {Birth : Type} : Conduct Birth :=
  conduct (asWished Count.switches Count.heed .auto fun line total process => do
    match ← Count.taskOf line process with
    | .error text => finish process ⟨[(2, text)], 1⟩
    | .ok task =>
      let isNamed := !line.operands.isEmpty || task.listed.isSome
      let width := if total = .only then 1 else task.width
      let column (n : Nat) : String :=
        let digits := toString n
        String.ofList (List.replicate (width - digits.length) ' ') ++ digits
      let row (counts : Count.Counts) (name : Bytes) : Bytes :=
        encode (" ".intercalate ((Count.shown line counts).map column)) ++
          (if name.isEmpty then [] else 0x20 :: name) ++ [10]
      let rowOf (counts : Count.Counts) (operand : Bytes) : Bytes :=
        if total = .only then [] else row counts (if isNamed then operand else [])
      let (output, sum) ← Count.countAll process rowOf task task.operands.zipIdx {} {}
      let wanted : Bool := match total with
        | .auto => task.operands.length > 1
        | .never => false
        | _ => true
      let name := if total = .only then [] else encode "total"
      let output := if wanted then output.say (row sum name) else output
      if task.operands.contains [0x2D] && (process.handle? 0).isNone then
        finish process (output.complain (failure process "" [0x2D] .badDescriptor) 1) Count.fault
      else finish process output Count.fault)

end Rollout.Posix.Utility
