import Rollout.Posix.Shell.Builtin.Finding
import Rollout.Posix.Shell.Builtin.Surroundings
import Rollout.Posix.Shell.Running

/-!
# Starting programs

Programs that a shell starts, and the shell as a program itself.
-/

namespace Rollout.Posix.Shell

open Rollout.Text (Bytes encode)

/-- The variables that a shell starts with. An entry is a name, an equals sign
and a value; of several entries of one name the last one counts. -/
def startVariables (env : List (Bytes × Bytes)) (folder : Bytes) (parent : Nat) :
    List (Bytes × Variable) :=
  let plain (entries : List (String × String)) : List (Bytes × Variable) :=
    entries.map fun (name, value) => (encode name, { value := some (encode value) })
  let defaults := plain [
    ("PATH", "/usr/local/sbin:/usr/local/bin:/usr/sbin:/usr/bin:/sbin:/bin"), ("PS1", "# "),
    ("PS2", "> "), ("PS4", "+ ")]
  let given := env.filterMap fun (key, value) =>
    let entry := key ++ 0x3D :: value
    let name := entry.takeWhile (· != 0x3D)
    if isName name then
      some (name, ({ value := some (entry.drop (name.length + 1)), isExported := true } : Variable))
    else none
  let put (found : List (Bytes × Variable)) (entry : Bytes × Variable) : List (Bytes × Variable) :=
    let before := (found.lookup entry.1).getD {}
    (entry.1, { entry.2 with isExported := before.isExported || entry.2.isExported }) ::
      found.filter (·.1 != entry.1)
  let own := plain [("IFS", " \t\n"), ("OPTIND", "1"), ("PPID", toString parent)] ++
    [(encode "PWD", { value := some folder, isExported := true })]
  (defaults ++ given ++ own).foldl put []

/-- The path of the place where a shell starts, as its environment has it if
that is right. -/
def startFolder (tree : FileTree) (process : Process) : Bytes :=
  let leads (folder : Bytes) : Bool :=
    folder.head? = some Path.slash && match tree.directory process.place folder with
      | .ok place => place = process.place
      | .error _ => false
  let given := (process.env.filter fun entry => entry.1 = encode "PWD").getLast?
  match (given.map Prod.snd).filter leads with
  | some folder => folder
  | none => if tree.isThere process.place then pathOf process.place else []

/-- What a shell is asked to do by its words. -/
inductive Task where
  | text (script : Bytes)
  | file (path : Bytes)
  | input

/-- Reads the words of a shell: what it is asked to do, and what belongs to
that. -/
def task (args : List Bytes) : Act (Task × List Bytes) := do
  let (others, rest) ← Builtin.shellOptions ['c', 'l'] args
  -- Who talks with a user controls jobs, unless something else is said.
  let isSaid := (args.takeWhile fun word => word.head? = some 0x2D || word.head? = some 0x2B).any
    (·.contains 0x6D)
  if (← Act.scope).isSet 'i' && !isSaid then Builtin.setOption 'm' true
  Builtin.settleOptions
  let rest := match rest with
    | [0x2D] :: rest => rest
    | [0x2D, 0x2D] :: rest => rest
    | rest => rest
  if others.contains 'c' then
    match rest with
    | script :: rest => return (.text script, rest)
    | [] => Act.fail (encode "-c requires an argument")
  else
    match rest with
    | path :: others =>
      if (← Act.scope).isSet 's' then return (.input, rest) else return (.file path, others)
    | [] =>
      Act.change fun scope => { scope with options := 's' :: scope.options }
      return (.input, [])

section

variable (run : Evaluator)

/-- What a shell does from its start to its end. -/
def session (args : List Bytes) : Act Unit := do
  let scope ← Act.scope
  if scope.folder.isEmpty then
    let _ ← Act.pathOf scope.place
  let (task, rest) ← task args
  let start (name : Option Bytes) (params : List Bytes) : Act Unit :=
    Act.change fun scope => { scope with name := name.getD scope.name, params }
  let fromInput : Act Unit := do
    if let some handle := (← Act.scope).channels.lookup 0 then
      let _ ← runFile run {} true handle
  match task with
  | .text script =>
    start rest.head? (rest.drop 1)
    let isLast := !(← Act.scope).isSet 's'
    let (flow, _) ← runText run { last := isLast } false script
    if flow = .next && (← Act.scope).isSet 's' then fromInput
  | .file path =>
    let (_, handle) ← openScript path
    start (some path) rest
    let _ ← runFile run {} true handle
  | .input =>
    start none rest
    fromInput

/-- Runs a shell as a process. -/
def runShell (process : Process) : Work Birth Exit := do
  let kernel ← Work.look id
  let life := kernel.life? process.number
  let folder := startFolder kernel.tree process
  let scope : Scope := {
    name := process.name
    vars := startVariables process.env folder (life.elim 0 Life.parent)
    place := process.place
    folder
    channels := process.channels
    mask := process.mask
    limits := process.limits
    number := process.number
    own := process.number
    deaf := life.elim [] Life.ignored }
  let (result, after) ← (session run process.args).perform scope
  conclude run result after

/-- The time it takes until a program is there and runs, in microseconds. -/
def startTime : Nat := 300

/-- Runs a program as a process. -/
def runProgram (start : Start) (process : Process) : Work Birth Exit := do
  -- Only what is ignored stays so in a program.
  Work.change fun kernel =>
    kernel.heed process.number ((kernel.life? process.number).elim [] Life.ignored) []
  Work.sleep startTime
  let process := { process with words := start.words }
  if !process.footing.haveRoom 1 then
    let text := s!"error while loading shared libraries: {start.program.library}: " ++
      "cannot open shared object file: Error 24"
    let _ ← process.write 2 (Utility.Process.line process (encode text))
    return .code 127
  else
    match start.program with
    | .shell => runShell run process
    | .utility name => Utility.perform name process

/-- What starts for words at the first of some paths where that is possible. -/
def startAlong (scope : Scope) (tree : FileTree) (words : List Bytes) (error : IoError) :
    List Bytes → Except IoError Start
  | [] => .error error
  | path :: rest =>
    match executePath tree scope.place scope.environment (!isUnreadable ·) path words with
    | .ok start => .ok start
    | .error found =>
      startAlong scope tree words
        (if found = .notFound || found = .notDirectory then error else found) rest

/-- The status of a shell that could not execute a program. -/
def executeStatus : IoError → Nat
  | .notFound | .notDirectory | .nameTooLong | .tooManyLinks => 127
  | _ => 126

/-- The program that starts for words at the first of some paths where that is
possible, and what it is given. -/
def prepared (paths words : List Bytes) : Act (Except IoError (Start × Process)) := do
  let scope ← Act.scope
  let channels := scope.channels.given
  return (startAlong scope (← Act.kernel).tree words .notFound paths).map fun start =>
    (start, { words, place := scope.place, env := scope.environment, channels, mask := scope.mask,
              limits := scope.limits })

/-- Lets a program take the place of the shell. -/
def become {α : Type} (start : Start) (process : Process) : Act α := do
  let own := (← Act.scope).own
  Act.rewire fun _ => process.channels
  match ← Act.doing (runProgram run start { process with number := own }) with
  | .code code => do
    Act.change fun scope => { scope with status := code % 256, traps := [] }
    throw .done
  | .signal signal => throw (.killed signal)

/-- Runs a program that is no command of the shell. -/
def launch (manner : Manner) (paths words : List Bytes) : Act Unit := do
  match ← prepared paths words with
  | .error error =>
    Act.warn (words.headD [] ++ encode (": " ++ executeText error))
    Act.setStatus (executeStatus error)
    -- A shell that has nothing more to do is replaced by the program.
    if manner.last && (← Act.scope).traps.all (·.2.isEmpty) then throw .done
  | .ok (start, process) =>
    let scope ← Act.scope
    if manner.last && scope.traps.all (·.2.isEmpty) then become run start process
    else
      let number ← Act.bear { scope with channels := process.channels } fun number =>
        .program start { process with number }
      Act.setStatus (← Act.await [number]).shown

end

end Rollout.Posix.Shell
