import Rollout.Posix.Executable
import Rollout.Posix.Shell.Builtin.Basic
import Rollout.Posix.Shell.Builtin.Naming

/-!
# Finding commands

What a name stands for in a shell: a word of its language, an alias, a
function, a command of the shell, or a program along the search path.
-/

namespace Rollout.Posix.Shell

open Rollout.Text (Bytes encode)

/-- Where a shell looks for programs. -/
def Scope.searchPath (scope : Scope) : List Bytes :=
  match scope.named? "PATH" with
  | some path => path.splitOn 0x3A
  | none => []

/-- The search path that is used for a command that asks for no other one. -/
def standardPath : List Bytes :=
  defaultPath.splitOn 0x3A

/-- A name below a directory of the search path. -/
def below (directory name : Bytes) : Bytes :=
  if directory.isEmpty then name else directory ++ Path.slash :: name

/-- The first file along directories that may be executed, behind those that
are passed over; or what stands against each. -/
def alongPath (tree : FileTree) (base : Place) (name : Bytes) (error : IoError) :
    List Bytes → Except IoError (List Bytes)
  | [] => .error error
  | directory :: rest =>
    let path := below directory name
    match tree.find base path with
    | .ok (place, entry) =>
      if entry != .directory && tree.lets place .pass then
        .ok ((directory :: rest).map (below · name))
      else alongPath tree base name .accessDenied rest
    | .error found =>
      alongPath tree base name (if found = .notFound || found = .notDirectory then error else found)
        rest

/-- What is said of a program that cannot be executed. -/
def executeText (error : IoError) : String :=
  if error = .notFound || error = .notDirectory then "not found" else Utility.reason error

/-- What a name stands for as a command. -/
inductive Command where
  | function (body : Node)
  | builtin
  /-- A program, with the paths it is tried at. -/
  | program (paths : List Bytes)
  | missing (error : IoError)

/-- Finds what a name stands for as a command. A program that is found along
the search path is remembered. -/
def find (withFunctions : Bool) (directories : List Bytes) (name : Bytes) : Act Command := do
  let scope ← Act.scope
  match if withFunctions then scope.functions.lookup name else none with
  | some body => return .function body
  | none =>
    if name.contains Path.slash then return .program [name]
    else if isBuiltin name then return .builtin
    else
      match alongPath (← Act.kernel).tree scope.place name .notFound directories with
      | .error error => return .missing error
      | .ok paths =>
        if (scope.remembered.lookup name).isNone then
          Act.change fun scope => { scope with
            remembered := scope.remembered ++ [(name, paths.headD name)] }
        return .program paths

namespace Builtin

/-- Describes a name, in a sentence or by what it is used as; the status. -/
def describe (wordy : Bool) (standard : Bool) (name : Bytes) : Act Nat := do
  let scope ← Act.scope
  let tell (brief long : Bytes) : Act Nat := do
    Act.print ((if wordy then name ++ long else brief) ++ [10])
    return 0
  if (Keyword.ofOctets? name).isSome then tell name (encode " is a shell keyword")
  else
    match scope.aliases.lookup name with
    | some value =>
      tell (encode "alias " ++ name ++ 0x3D :: apostrophed value)
        (encode " is an alias for " ++ value)
    | none =>
      let isTracked := !standard && (scope.remembered.lookup name).isSome
      match ← find true (if standard then standardPath else scope.searchPath) name with
      | .function _ => tell name (encode " is a shell function")
      | .builtin =>
        tell name (encode (" is a " ++ (if isSpecialName name then "special " else "") ++
          "shell builtin"))
      | .program paths =>
        let path := paths.headD name
        let isThere := match (← Act.kernel).tree.find scope.place path with
          | .ok _ => true
          | .error _ => false
        if isThere then
          tell path (encode (" is" ++ (if isTracked then " a tracked alias for" else "") ++ " ") ++
            path)
        else missing
      | .missing _ => missing
where
  missing : Act Nat := do
    if wordy then Act.print (name ++ encode ": not found\n")
    return 127

def type : Builtin := fun args =>
  args.foldlM (fun status name => return max status (← describe true false name)) 0

/-- What is said of a command by its name alone. -/
def command : Builtin := fun args => do
  let (given, names) ← options "pvV" args
  match names, given.find? fun option => option.1 != 'p' with
  | name :: _, some _ =>
    let last := (given.filter fun option => option.1 != 'p').getLast?.map Prod.fst
    describe (last = some 'V') (has given 'p') name
  | _, _ => return 0

def hash : Builtin := fun args => do
  let (given, names) ← options "r" args
  if !given.isEmpty then
    Act.change fun scope => { scope with remembered := [] }
    return 0
  else if names.isEmpty then
    let known := (← Act.scope).remembered
    ((List.range 31).flatMap fun n => known.filter fun entry => row 31 entry.1 = n).forM
      fun (_, path) => Act.print (path ++ [10])
    return 0
  else
    names.foldlM (fun status name => do
      Act.change fun scope => { scope with
        remembered := scope.remembered.filter (·.1 != name) }
      match ← find true (← Act.scope).searchPath name with
      | .missing error =>
        Act.warn (name ++ encode (": " ++ executeText error))
        return 1
      | _ => return status) 0

end Builtin

end Rollout.Posix.Shell
