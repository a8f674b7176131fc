import Rollout.Config.Load
import Rollout.Runner.System
import Rollout.Posix.Shell.Evaluator

/-!
# A small system

A system with a file tree, a shell and the usual utilities, which starts
programs with the errors a real one gives. Its world is a schedule: what a
program leaves behind goes on beside the programs that are started later.
-/

namespace Rollout.Posix

open Rollout.Text (Bytes encode)

/-- The place of a path from the root. -/
def placeOf (path : String) : Place :=
  ((encode path).splitOn Path.slash).filter fun name => !name.isEmpty && name != [Path.dot]

/-- The tree of a system with nothing of a user in it. -/
def baseTree : FileTree :=
  let directories := ["dev", "dev/fd", "etc", "home", "opt", "run", "srv", "usr", "usr/bin",
    "usr/lib", "usr/local", "usr/local/bin", "usr/local/sbin", "usr/sbin", "var"]
  let others := [("proc", 0o555), ("root", 0o700), ("sys", 0o555), ("tmp", 0o1777),
    ("var/tmp", 0o1777)]
  let links := [("bin", "usr/bin"), ("lib", "usr/lib"), ("sbin", "usr/sbin")]
  let programs := "sh" :: Utility.names
  let devices : List (String × Device) := [
    ("null", .void), ("zero", .zeros), ("full", .full), ("random", .zeros), ("urandom", .zeros)]
  ⟨directories.map (fun path => (placeOf path, .directory)) ++
    others.map (fun (path, mode) => (placeOf path, { Inode.directory with mode := ⟨mode⟩ })) ++
    links.map (fun (name, target) => (placeOf name, .link (encode target))) ++
    programs.map (fun name => (placeOf ("usr/bin/" ++ name), .program name)) ++
    devices.map (fun (name, device) => (placeOf ("dev/" ++ name), .device device)) ++
    [(placeOf "dev/stdin", .descriptor 0), (placeOf "dev/stdout", .descriptor 1),
      (placeOf "dev/stderr", .descriptor 2)] ++
    (List.range 10).map fun number => (placeOf s!"dev/fd/{number}", .descriptor number)⟩

/-- Environment entries that the system has for every process. -/
def baseEnv : Vars :=
  .ofList [("HOME", "/root"), ("LC_ALL", "C"),
    ("PATH", "/usr/local/sbin:/usr/local/bin:/usr/sbin:/usr/bin:/sbin:/bin")]

/-- The time of the system, which stands still. -/
def clock : String := "1970-01-01T00:00:00+00:00"

/-- A zero octet, which no word, path or entry may hold. -/
def hasZero (octets : Bytes) : Bool :=
  octets.contains 0

/-- Whether a request holds a zero octet anywhere. -/
def unspeakable (request : Request) : Bool :=
  hasZero (encode request.program) || request.args.any (fun arg => hasZero (encode arg)) ||
    hasZero request.dir.octets ||
    request.env.toList.any fun (key, value) => hasZero (encode key) || hasZero (encode value)

/-- What starts for a request, and where. Entries that set the search path
change where the program is looked for, and let a plain file be read by the
shell. -/
def prepare (base : Place) (tree : FileTree) (request : Request) :
    Except IoError (Start × Process) := do
  if unspeakable request then throw .zeroOctet
  let place ← tree.entered base request.dir.octets
  let env := (request.environment baseEnv).toList.map fun (key, value) =>
    (encode key, encode value)
  let name := encode request.program
  let words := name :: request.args.map encode
  -- Only entries of the request itself change how the program is found.
  let searched := request.env.get? "PATH"
  let directories := (searched.map encode).getD defaultPath
  let start ← startOf tree place env (fun _ => searched.isSome) directories name words
  return (start, { words, place, env, channels := [] })

/-- What a system is like at a moment. -/
abbrev World := Schedule Shell.Birth

namespace World

/-- A world in which nothing runs. -/
def ofTree (tree : FileTree) : World where
  kernel := { tree, lives := [{ number := Kernel.rootNumber, parent := 0 }] }

def tree (world : World) : FileTree :=
  world.kernel.tree

end World

/-- A program that was started on request: its process, and where its two
outputs are read. -/
structure Running where
  number : Nat
  output : Handle
  errors : Handle

namespace Running

/-- Starts the program of a request: no input, and two streams for its
outputs, which whoever asked for it reads. -/
def begin (start : Start) (process : Process) (world : World) : Running × World :=
  let (input, kernel) := world.kernel.openFile { target := .device .void, reads := true }
  let (output, out, kernel) := kernel.openPipe none
  let (errors, err, kernel) := kernel.openPipe none
  let channels := [(0, input), (1, out), (2, err)]
  let (number, kernel) := kernel.bear Kernel.rootNumber channels
  let kernel := kernel.alter Kernel.rootNumber fun root => { root with
    channels := (2 * number, output) :: (2 * number + 1, errors) :: root.channels }
  let task : Task Shell.Birth := {
    number, ready := some kernel.clock
    resume := Shell.begin (.program start { process with channels, number }) }
  (⟨number, output, errors⟩, { kernel, tasks := world.tasks ++ [task] })

/-- How the program ended, once it has and nobody can write to its outputs any
more. -/
def exit? (running : Running) (world : World) : Option Exit :=
  let isOpen (handle : Handle) : Bool :=
    (world.kernel.streamOf? handle).any world.kernel.isWritten
  if isOpen running.output || isOpen running.errors then none
  else (world.kernel.life? running.number).bind Life.exit

/-- Takes what a program wrote, and forgets it. -/
def conclude (running : Running) (exit : Exit) (world : World) : World × Ending :=
  let octets (handle : Handle) : Bytes :=
    ((world.kernel.streamOf? handle).map world.kernel.stream).elim [] Stream.octets
  let kernel := (world.kernel.bury running.number).alter Kernel.rootNumber fun root => { root with
    channels := root.channels.filter fun entry =>
      entry.2 != running.output && entry.2 != running.errors }
  ({ world with kernel }, .ended exit.status (octets running.output) (octets running.errors))

end Running

/-- More turns than the processes of a world have. -/
def turnLimit : Nat := 1000000000000

/-- The system whose programs are used from a place in the tree. -/
def system (base : Place) : System World := fun world request =>
  match prepare base world.tree request with
  | .error error => (world, .notStarted error)
  | .ok (start, process) =>
    let (running, world) := Running.begin start process world
    let world := world.run Shell.begin (fun world => (running.exit? world).isSome) turnLimit
    running.conclude ((running.exit? world).getD (.signal killSignal)) world

/-- What is found at the path of a settings file. A path that leads nowhere
for whatever reason counts as missing. -/
def fileState (tree : FileTree) (base : Place) (path : Path) : FileState :=
  match tree.find base path.octets with
  | .error _ => .missing
  | .ok (_, .directory) => .unreadable .isDirectory
  | .ok (place, .file octets) =>
    if tree.lets place .read then .readable octets else .unreadable .accessDenied
  | .ok (_, .device .void) => .readable []
  | .ok _ => .unreadable .invalidText

/-- The base tree with an empty directory at a place. -/
def FileTree.fresh (base : Place) : FileTree :=
  (baseTree.putParents base).put base .directory

/-- Puts something and the directories it needs below a place. -/
def FileTree.plant (tree : FileTree) (base : Place) (path : String) (inode : Inode) : FileTree :=
  let place := base ++ placeOf path
  (tree.putParents place).put place inode

end Rollout.Posix
