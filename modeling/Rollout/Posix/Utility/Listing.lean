import Rollout.Posix.Utility.Listing.Page

/-!
# Listing directories

Lists operands and what is in directories: files first, then each directory,
and with recursion those below it.
-/

namespace Rollout.Posix.Utility

open Rollout.Text (Bytes encode)

namespace Listing

/-- Adds a complaint of an entry; an operand weighs more. -/
def complain (report : Output) (operand : Bool) (text : Bytes) : Output :=
  report.complain text (if operand then 2 else max report.code 1)

/-- A directory that is still to be listed. -/
structure Pending where
  name : Bytes
  place : Place
  /-- The directories on the way to it, where it is reached by recursion. -/
  above : List Place := []

section

variable (style : Style) (process : Process) (kernel : Kernel)

/-- An entry with what is known of it. -/
def itemOf (name : Bytes) (place : Place) (inode : Inode) : Item where
  name := name
  place := place
  entry := inode.entry
  mode := inode.mode
  target := match inode.entry with
    | .link _ => match kernel.tree.walk true FileTree.linkLimit [] place with
      | .ok there => kernel.tree.inode? there
      | .error _ => none
    | _ => none
  below := ((kernel.tree.children place).filter fun child => child.2.entry = .directory).length
  time := style.timeKind.of inode.times

/-- Looks at what a path leads to. -/
def look (through : Bool) (name path : Bytes) : Except IoError Item := do
  let place ← kernel.tree.locate process.place path through
  match kernel.tree.inode? place with
  | some inode => return itemOf style kernel name place inode
  | none => throw .notFound

/-- Looks at an operand; links are followed as the style asks for it. -/
def lookAtOperand (operand : Bytes) : Except IoError Item :=
  let plain := look style process kernel false operand operand
  match style.follows with
  | .never => plain
  | .directories =>
    match look style process kernel true operand operand with
    | .ok item => if item.isDirectory then .ok item else plain
    | .error error => if error = .notFound || error = .tooManyLinks then plain else .error error
  | _ => look style process kernel true operand operand

/-- A name in a directory as a path. -/
def within (directory name : Bytes) : Bytes :=
  if directory = [Path.dot] then name
  else if directory.getLast? = some Path.slash then directory ++ name
  else directory ++ [Path.slash] ++ name

/-- The path of a directory in a directory, as its title shows it. -/
def joined (directory name : Bytes) : Bytes :=
  (directory.reverse.dropWhile (· = Path.slash)).reverse ++ Path.slash :: name

/-- Whether an entry of a directory has to be looked at to be listed. -/
def needsLook (entry : Entry) : Bool :=
  style.layout = .details || style.sorted = .time || style.sorted = .size || style.blocks ||
    style.context || match entry with
      | .link _ => style.follows = .always && style.minds
      | .file _ => style.indicator = .classify
      | .program _ => style.indicator = .classify
      | _ => false

/-- The entries of a directory that are listed. -/
def entriesOf (pending : Pending) (report : Output) : Output × List Item :=
  let place := pending.place
  let own : List (Bytes × Place × Inode) := (FileTree.ownNames place).filterMap fun name =>
    let place := if name = FileTree.dotDot then place.dropLast else place
    (kernel.tree.inode? place).map (name, place, ·)
  let children := (kernel.tree.children place).map fun (name, inode) =>
    (name, place ++ [name], inode)
  let found := (own ++ children.mergeSort fun a b => !(decide (b.1 < a.1))).filter fun entry =>
    style.lists entry.1
  found.foldl (fun (report, items) (name, there, inode) =>
    let plain := itemOf style kernel name there inode
    let follows := style.follows = .always
    let looked : Except IoError Item :=
      if needsLook style inode.entry then
        look style process kernel follows name (within pending.name name)
      else .ok plain
    match looked with
    | .ok item => (report, items ++ [item])
    | .error error =>
      (complain report false
        (failure process "cannot access " (Quoting.shell (within pending.name name)) error),
        items ++ [{ plain with known := false }])) (report, [])

/-- Lists one directory, and gives those to be listed behind it. One that cannot
be opened is passed over. -/
def listDirectory (widths : Nat × Nat) (titled isFirst : Bool) (pending : Pending)
    (report : Output) : Output × Option (List Pending) :=
  match kernel.openPath process.footing pending.name .read with
  | .error error =>
    (complain report pending.above.isEmpty
      (failure process "cannot open directory " (Quoting.shell pending.name) error), none)
  | .ok _ =>
    let title := if titled || style.recursive then
        (if isFirst then [] else [10]) ++ style.name true pending.name ++ encode ":\n"
      else []
    let (report, items) := entriesOf style process kernel pending (report.say title)
    let items := style.arrange style.nameWidth items
    let total := if style.layout = .details || style.blocks then
        let room := (items.filter Item.known).foldl (fun sum item => sum + item.room) 0
        encode ("total " ++ style.blockSizes.text room) ++ [style.lineEnd]
      else []
    let isSelf (item : Item) : Bool := item.name = [Path.dot] || item.name = FileTree.dotDot
    let others := if style.recursive then
        (items.filter fun item => item.isDirectory && !isSelf item).map fun item =>
          { name := joined pending.name item.name
            place := item.place, above := pending.place :: pending.above }
      else []
    let names := items.map Item.name
    (report.say (total ++ page style (zoneOf process) kernel.now widths names items items),
      some others)

/-- Lists directories one after another. -/
def listAll (widths : Nat × Nat) : Nat → Bool → Bool → List Pending → Output → Output
  | 0, _, _, _, report => report
  | _ + 1, _, _, [], report => report
  | fuel + 1, titled, isFirst, pending :: rest, report =>
    if pending.above.contains pending.place then
      listAll widths fuel titled isFirst rest
        (complain report true
          (complaint process "" (Quoting.front pending.name)
            ": not listing already-listed directory"))
    else
      match listDirectory style process kernel widths titled isFirst pending report with
      | (report, some others) => listAll widths fuel true false (others ++ rest) report
      | (report, none) => listAll widths fuel titled isFirst rest report

/-- More directories than any listing has. -/
def directoryLimit : Nat := 1000000

/-- A width that an environment entry sets, or what is said of it. -/
def widthFromEntry (entry tried : String) (usual : Nat) : Nat × Bytes :=
  match process.env.lookup (encode entry) with
  | none => (usual, [])
  | some [] => (usual, [])
  | some text =>
    match width? text with
    | some width => (width, [])
    | none =>
      (usual, complaint process (s!"ignoring invalid {tried} in environment variable {entry}: ")
        (Quoting.text text) "")

/-- The width of lines and of tabs, and what is said of bad ones. -/
def widthsOf : (Nat × Nat) × Bytes :=
  let laid := style.layout = .columns || style.layout = .across || style.layout = .commas
  let (line, first) := match style.width with
    | some width => (width, [])
    | none => if laid then widthFromEntry process "COLUMNS" "width" usualWidths.1
      else (usualWidths.1, [])
  let (tabs, second) := match style.tabs with
    | some width => (width, [])
    | none => if laid then widthFromEntry process "TABSIZE" "tab size" usualWidths.2
      else (usualWidths.2, [])
  ((line, tabs), first ++ second)

/-- Lists operands, or the directory that the process is in. -/
def list (operands : List Bytes) : Output :=
  let (widths, complaints) := widthsOf style process
  let names := if operands.isEmpty then [[Path.dot]] else operands
  let (report, items) := names.foldl (fun ((report : Output), (items : List Item)) operand =>
    match lookAtOperand style process kernel operand with
    | .ok item => (report, items ++ [item])
    | .error error =>
      (complain report true (failure process "cannot access " (Quoting.shell operand) error),
        items)) (⟨[(2, complaints)], 0⟩, [])
  let items := style.arrange style.nameWidth items
  let (directories, files) :=
    if style.itself then ([], items) else items.partition Item.isDirectory
  let pending := directories.map fun item => { name := item.name, place := item.place }
  let gap : Bytes := if files.isEmpty || pending.isEmpty then [] else [10]
  let titled := !(files.isEmpty && names.length ≤ 1 && pending.length = 1)
  listAll style process kernel widths directoryLimit titled true pending
    (report.say (page style (zoneOf process) kernel.now widths names items files ++ gap))

end

/-- What is shared, as a process finds it: without the names of descriptors that
stand for nothing. -/
def seen (process : Process) (kernel : Kernel) : Kernel :=
  let isSeen (inode : Inode) : Bool := match inode.entry with
    | .descriptor number => (process.handle? number).isSome
    | _ => true
  { kernel with tree := ⟨kernel.tree.entries.filter fun found => isSeen found.2⟩ }

end Listing

def ls : Run :=
  withWish 2 Listing.switches Listing.Style.heed {} fun line style process kernel =>
    match style.timed process with
    | .error fault => (kernel, fault.output process)
    | .ok style => (kernel, Listing.list style process (Listing.seen process kernel) line.operands)

end Rollout.Posix.Utility
