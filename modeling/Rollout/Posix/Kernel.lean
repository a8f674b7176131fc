import Rollout.Posix.Exit
import Rollout.Posix.FileTree
import Rollout.Posix.Limits

/-!
# What processes share

The tree, the files that are open, the streams between processes, the time,
and what is known of each process. Several descriptors may stand for one open
file, so its position is kept with it. A stream holds what was written to it
until it is read; it has ended when no process is left that could write to it.
-/

namespace Rollout.Posix

open Rollout.Text (Bytes)

/-- What an open file reads and writes. -/
inductive Target where
  | stream (index : Nat)
  | file (place : Place)
  /-- A file that no name leads to any more. -/
  | nameless (index : Nat)
  | directory (place : Place)
  | device (device : Device)
  deriving DecidableEq

structure OpenFile where
  target : Target
  /-- Where the next octet is read or written. -/
  position : Nat := 0
  reads : Bool := false
  writes : Bool := false
  /-- Every write goes to the end. -/
  appends : Bool := false

structure Stream where
  /-- The octets at the front, ready to be read. -/
  front : Bytes := []
  /-- What was written behind them, the last part first. -/
  written : List Bytes := []
  /-- How many octets are in it. -/
  size : Nat := 0
  /-- How many octets it takes before a writer has to wait. -/
  room : Option Nat := none

namespace Stream

/-- All octets that are in a stream. -/
def octets (stream : Stream) : Bytes :=
  if stream.written.isEmpty then stream.front
  else stream.front ++ stream.written.reverse.flatten

/-- The room of a stream between two commands. -/
def pipeRoom : Nat := 65536

/-- The most octets that are written at once or not at all, and the room that
a writer of more waits for. -/
def pageSize : Nat := 4096

/-- How many octets can be written now of a number that is to be written. -/
def capacity (stream : Stream) (count : Nat) : Nat :=
  match stream.room with
  | none => count
  | some room =>
    let free := room - stream.size
    if count ≤ free then count else if count ≤ pageSize then 0 else free

end Stream

/-- The number of an open file. -/
abbrev Handle := Nat

/-- The descriptors of a process with the open files they stand for. -/
abbrev Channels := List (Nat × Handle)

namespace Channels

def put (channels : Channels) (descriptor : Nat) (handle : Handle) : Channels :=
  (descriptor, handle) :: channels.filter (·.1 != descriptor)

def close (channels : Channels) (descriptor : Nat) : Channels :=
  channels.filter (·.1 != descriptor)

/-- The lowest descriptor that only the process itself uses. -/
def ownLimit : Nat := 10

/-- The channels that a program gets. -/
def given (channels : Channels) : Channels :=
  channels.filter (·.1 < ownLimit)

/-- The lowest descriptor from one on that is not in use. -/
def lowestFrom (channels : Channels) (start : Nat) : Nat :=
  let isFree (descriptor : Nat) : Bool := (channels.lookup descriptor).isNone
  ((List.range channels.length).find? fun n => isFree (start + n)).getD channels.length + start

/-- Moves what a descriptor stands for, if anything, to one for the process
itself, which has to lie below a limit. -/
def setAside (channels : Channels) (limit descriptor : Nat) :
    Except IoError (Option (Channels × Nat)) :=
  match channels.lookup descriptor with
  | none => .ok none
  | some handle =>
    let own := channels.lowestFrom ownLimit
    if limit ≤ ownLimit then .error .invalidArgument
    else if limit ≤ own then .error .tooManyFiles
    else .ok (some ((channels.put own handle).close descriptor, own))

/-- Whether so many more descriptors can be had below a limit. -/
def haveRoom (channels : Channels) (limit count : Nat) : Bool :=
  (channels.filter (·.1 < limit)).length + count ≤ limit

end Channels

/-- Where a process stands when it uses a path, and what it is held to. -/
structure Footing where
  place : Place
  channels : Channels
  /-- Rights that new entries do not get. -/
  mask : Mode := .usualMask
  limits : Limits := .usual

/-- Whether the process may have so many more descriptors. -/
def Footing.haveRoom (footing : Footing) (count : Nat) : Bool :=
  footing.channels.haveRoom (footing.limits.value .descriptors) count

/-- What a process waits for. -/
inductive Wait where
  /-- Nothing but its turn. -/
  | turn
  | time (clock : Nat)
  /-- So many octets in a stream, or the end of it. -/
  | input (stream least : Nat)
  /-- Room for so many octets in a stream, or that nobody reads it. -/
  | room (stream least : Nat)
  /-- A child that has ended. -/
  | child
  deriving DecidableEq

/-- What is known of a process. -/
structure Life where
  number : Nat
  /-- The process that is told of its end; zero is nobody. -/
  parent : Nat
  channels : Channels := []
  ignored : List Nat := []
  /-- Signals that the process does something about. -/
  caught : List Nat := []
  /-- Those of them that came and that nothing was done about yet. -/
  pending : List Nat := []
  isStopped : Bool := false
  /-- A signal came that ends it when it has its next turn. -/
  fatal : Option Nat := none
  wait : Wait := .turn
  /-- How it ended. -/
  exit : Option Exit := none

/-- What processes share. -/
structure Kernel where
  tree : FileTree
  files : Array OpenFile := #[]
  streams : Array Stream := #[]
  /-- The octets of files without a name. -/
  nameless : Array Bytes := #[]
  /-- The time of the process at work, in microseconds. -/
  clock : Nat := 0
  /-- The time from which on it is another's turn. -/
  deadline : Option Nat := none
  lives : List Life := []
  /-- The number that the next process gets. -/
  next : Nat := 1000

namespace Kernel

/-- Opens a file. -/
def openFile (kernel : Kernel) (file : OpenFile) : Handle × Kernel :=
  (kernel.files.size, { kernel with files := kernel.files.push file })

/-- Opens a stream at the end where it is read. -/
def openStream (kernel : Kernel) (stream : Stream) : Handle × Kernel :=
  { kernel with streams := kernel.streams.push stream }.openFile
    { target := .stream kernel.streams.size, reads := true }

/-- Opens a stream at both ends: where it is read, and where it is written. -/
def openPipe (kernel : Kernel) (room : Option Nat) : Handle × Handle × Kernel :=
  let target := Target.stream kernel.streams.size
  let (output, kernel) := kernel.openStream { room }
  let (input, kernel) := kernel.openFile { target, writes := true }
  (output, input, kernel)

/-- The stream that an open file reads and writes, where it is one. -/
def streamOf? (kernel : Kernel) (handle : Handle) : Option Nat :=
  match (kernel.files[handle]?).map OpenFile.target with
  | some (.stream index) => some index
  | _ => none

def stream (kernel : Kernel) (index : Nat) : Stream :=
  kernel.streams.getD index {}

/-- The octets of what is no stream. -/
def stored (kernel : Kernel) : Target → Bytes
  | .file place =>
    match kernel.tree.entry? place with
    | some (.file octets) => octets
    | _ => []
  | .nameless index => kernel.nameless.getD index []
  | _ => []

/-- Whether reading can go on at another position. -/
def seeks (kernel : Kernel) (handle : Handle) : Bool :=
  match (kernel.files[handle]?).map OpenFile.target with
  | some (.file _) => true
  | some (.nameless _) => true
  | _ => false

/-- The time it takes until a process that waits goes on. -/
def wakeDelay : Nat := 40

/-- Lets it soon be the turn of the processes that wait for something that has
happened. -/
def rouse (kernel : Kernel) (isMeant : Wait → Bool) : Kernel :=
  if kernel.lives.any (isMeant ·.wait) then
    let soon := kernel.clock + wakeDelay
    { kernel with deadline := some (kernel.deadline.elim soon (min soon)) }
  else kernel

/-- The time between two moments that the calendar tells apart. -/
def tick : Nat := 4000

/-- The time by the system's calendar, in nanoseconds. -/
def now (kernel : Kernel) : Int :=
  startTime + (kernel.clock / tick * tick * 1000 : Nat)

/-- Changes what is known of the entry of a place. -/
def amend (kernel : Kernel) (place : Place) (change : Inode → Inode) : Kernel :=
  { kernel with tree := kernel.tree.amend place change }

/-- The times of what stands at a place. -/
def timesOf (kernel : Kernel) (place : Place) : Times :=
  ((kernel.tree.inode? place).map Inode.times).getD (.fresh startTime)

/-- Notes that what is at a place was read. -/
def noteReading (kernel : Kernel) (place : Place) : Kernel :=
  let times := (kernel.timesOf place).afterReading kernel.now
  if times = kernel.timesOf place then kernel
  else kernel.amend place fun inode => { inode with times }

/-- Notes that what is in an entry was changed. -/
def noteWriting (kernel : Kernel) (place : Place) : Kernel :=
  kernel.amend place fun inode => { inode with times := inode.times.afterWriting kernel.now }

/-- Moves an open file behind the octets that were read. -/
def advance (kernel : Kernel) (handle : Handle) (count : Nat) : Kernel :=
  match kernel.files[handle]? with
  | none => kernel
  | some file =>
    match file.target with
    | .stream index =>
      let kernel := kernel.rouse fun wait => match wait with
        | .room other _ => other = index
        | _ => false
      { kernel with streams := kernel.streams.modify index fun stream =>
          { stream with
            front := stream.octets.drop count, written := [], size := stream.size - count } }
    | target =>
      let kernel := match target with
        | .file place => kernel.noteReading place
        | _ => kernel
      { kernel with files := kernel.files.modify handle fun file =>
          { file with position := file.position + count } }

/-- How much a source without an end gives to a reader that wants all. -/
def plenty : Nat := 131072

/-- What can be read now, up to a count where one is given. -/
def peek (kernel : Kernel) (handle : Handle) (count : Option Nat) : Except IoError Bytes :=
  match kernel.files[handle]? with
  | none => .error .badDescriptor
  | some file =>
    if !file.reads then .error .badDescriptor
    else
      match file.target with
      | .directory _ => .error .isDirectory
      | .device .void => .ok []
      | .device _ => .ok (List.replicate (count.getD plenty) 0)
      | .stream index =>
        let octets := (kernel.stream index).octets
        .ok (count.elim octets octets.take)
      | target =>
        let octets := (kernel.stored target).drop file.position
        .ok (count.elim octets octets.take)

/-- Reads all there is now, or up to a count. -/
def read (kernel : Kernel) (handle : Handle) (count : Option Nat) :
    Except IoError (Bytes × Kernel) := do
  let octets ← kernel.peek handle count
  return (octets, kernel.advance handle octets.length)

/-- Octets with others put in at a position. A gap is filled with zeros. -/
def overlaid (octets : Bytes) (position : Nat) (others : Bytes) : Bytes :=
  if position = octets.length then octets ++ others
  else
    octets.take position ++ List.replicate (position - octets.length) 0 ++ others ++
      octets.drop (position + others.length)

/-- Gives the file at a place other octets. -/
def refill (kernel : Kernel) (place : Place) (octets : Bytes) : Kernel :=
  kernel.amend place fun inode =>
    { inode with entry := .file octets, times := inode.times.afterWriting kernel.now }

/-- Whether a process has a stream open in some way. -/
def holds (kernel : Kernel) (stream : Nat) (how : OpenFile → Bool) (life : Life) : Bool :=
  life.exit.isNone && life.channels.any fun entry =>
    match kernel.files[entry.2]? with
    | some file => how file && file.target = .stream stream
    | none => false

/-- Whether somebody may read a stream. -/
def isRead (kernel : Kernel) (stream : Nat) : Bool :=
  kernel.lives.any (kernel.holds stream OpenFile.reads)

/-- Whether somebody may write to a stream. -/
def isWritten (kernel : Kernel) (stream : Nat) : Bool :=
  kernel.lives.any (kernel.holds stream OpenFile.writes)

/-- Puts octets into a stream, as far as there is room. -/
def pour (kernel : Kernel) (index : Nat) (octets : Bytes) : Kernel × Except IoError Bytes :=
  let stream := kernel.stream index
  let count := stream.capacity octets.length
  if !kernel.isRead index then (kernel, .error .brokenPipe)
  else if count = 0 then (kernel, .ok octets)
  else
    let part := if count = octets.length then octets else octets.take count
    let streams := kernel.streams.modify index fun stream =>
      { stream with written := part :: stream.written, size := stream.size + count }
    let kernel := { kernel with streams }.rouse fun wait => match wait with
      | .input other _ => other = index
      | _ => false
    (kernel, .ok (if count = octets.length then [] else octets.drop count))

/-- Writes octets to an open file: what could not be written yet, or what
stands against it. Files do not grow beyond a limit. -/
def write (kernel : Kernel) (handle : Handle) (limit : Nat) (octets : Bytes) :
    Kernel × Except IoError Bytes :=
  match kernel.files[handle]? with
  | none => (kernel, .error .badDescriptor)
  | some file =>
    if !file.writes then (kernel, .error .badDescriptor)
    else if octets.isEmpty then (kernel, .ok [])
    else
      let put (keep : Kernel → Bytes → Kernel) : Kernel × Except IoError Bytes :=
        let found := kernel.stored file.target
        let start := if file.appends then found.length else file.position
        if limit ≤ start then (kernel, .error .fileTooLarge)
        else
          let part := if start + octets.length ≤ limit then octets else octets.take (limit - start)
          let kernel := keep kernel (overlaid found start part)
          let files := kernel.files.modify handle fun file =>
            { file with position := start + part.length }
          ({ kernel with files }, .ok (octets.drop part.length))
      match file.target with
      | .device .full => (kernel, .error .noSpace)
      | .device _ => (kernel, .ok [])
      | .directory _ => (kernel, .error .badDescriptor)
      | .stream index => kernel.pour index octets
      | .file place => put fun kernel octets => kernel.refill place octets
      | .nameless index => put fun kernel octets =>
          { kernel with nameless := kernel.nameless.setIfInBounds index octets }

/-- What a reader has to wait for before it can read from an open file. -/
def lack? (kernel : Kernel) (handle : Handle) (least : Nat) : Option Wait :=
  match kernel.streamOf? handle with
  | none => none
  | some index =>
    if least ≤ (kernel.stream index).size || !kernel.isWritten index then none
    else some (.input index least)

/-- Takes the entry of a place and all below it away. Files that are open
there keep their octets. -/
def remove (kernel : Kernel) (place : Place) : Kernel :=
  let held := (kernel.files.toList.filterMap fun file => match file.target with
    | .file there => if place.isPrefixOf there then some there else none
    | _ => none).eraseDups
  let kernel := held.foldl (fun kernel there =>
    { kernel with
      nameless := kernel.nameless.push (kernel.stored (.file there))
      files := kernel.files.map fun file =>
        if file.target = .file there then { file with target := .nameless kernel.nameless.size }
        else file }) kernel
  { kernel with tree := kernel.tree.remove place }.noteWriting place.dropLast

/-- Puts something new at a place. A directory gets no marks of its user and its
group that are asked for, but that of its group from the one above. -/
def make (kernel : Kernel) (place : Place) (entry : Entry) (mode : Mode) : Kernel :=
  let above := ((kernel.tree.inode? place.dropLast).map (·.mode.bits)).getD 0
  let own := Mode.except mode.bits (Mode.setUser ||| Mode.setGroup)
  let mode := if entry = .directory then ⟨own ||| above &&& Mode.setGroup⟩ else mode
  { kernel with tree := kernel.tree.put place { entry, mode, times := .fresh kernel.now } }
    |>.noteWriting place.dropLast

end Kernel

/-- How a path is opened. -/
inductive OpenMode where
  | read
  /-- The file is made where it is missing, and emptied. -/
  | write
  | append
  | both
  /-- The file has to be a new one, unless it is no plain file. -/
  | fresh
  deriving DecidableEq

def OpenMode.reads : OpenMode → Bool
  | read | both => true
  | _ => false

def OpenMode.writes : OpenMode → Bool
  | read => false
  | _ => true

/-- Opens what a path leads to. -/
def Kernel.openPath (kernel : Kernel) (footing : Footing) (path : Bytes) (mode : OpenMode) :
    Except IoError (Handle × Kernel) := do
  if !footing.haveRoom 1 then throw .tooManyFiles
  if mode != .read && FileTree.asksForDirectory path then
    discard (kernel.tree.locate footing.place (FileTree.trimmed path) false)
    throw .isDirectory
  let place ← kernel.tree.locate footing.place path true
  let denied (place : Place) : Bool :=
    mode.reads && !kernel.tree.lets place .read || mode.writes && !kernel.tree.lets place .write
  let as (kernel : Kernel) (target : Target) : Handle × Kernel :=
    kernel.openFile
      { target, reads := mode.reads, writes := mode.writes, appends := mode = .append }
  let plain (place : Place) : Except IoError (Handle × Kernel) :=
    if mode = .fresh then .error .alreadyExists
    else if denied place then .error .accessDenied
    else if mode = .write then .ok (as (kernel.refill place []) (.file place))
    else .ok (as kernel (.file place))
  match kernel.tree.entry? place with
  | none =>
    if mode = .read then throw .notFound
    else if !kernel.tree.isOpen place.dropLast then throw .accessDenied
    else return as (kernel.make place (.file []) (Mode.newFile.without footing.mask)) (.file place)
  | some .directory =>
    if mode.writes then throw .isDirectory
    else if denied place then throw .accessDenied
    else return as kernel (.directory place)
  | some (.device device) => return as kernel (.device device)
  | some (.file _) => plain place
  | some (.program _) =>
    if mode = .fresh then throw .alreadyExists
    else if mode.writes then throw .textBusy
    else return as kernel (.device .void)
  | some (.link _) => throw .notFound
  | some (.descriptor number) =>
    match (footing.channels.lookup number).bind (kernel.files[·]?) with
    | none => throw .notFound
    | some file =>
      -- A plain file is opened anew; anything else is what it already is.
      match file.target with
      | .file place => plain place
      | target => return as kernel target

end Rollout.Posix
