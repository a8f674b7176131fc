import Rollout.Posix.Utility

/-!
# Finding executables

The program that a name stands for: a path is taken as it is, any other name
is looked for along a list of directories. A script names the program that
reads it in its first line.
-/

namespace Rollout.Posix

open Rollout.Text (Bytes encode)

inductive Program where
  | shell
  | utility (name : String)
  deriving DecidableEq

/-- The library that a program looks for first. -/
def Program.library : Program → String
  | utility "ls" => "libselinux.so.1"
  | utility "mkdir" => "libselinux.so.1"
  | _ => "libc.so.6"

/-- A program with the words it starts with. -/
structure Start where
  program : Program
  words : List Bytes

/-- How many scripts may be read by one another. -/
def scriptLimit : Nat := 6

def separatesWords (b : UInt8) : Bool :=
  b = 0x20 || b = 0x09

/-- The interpreter in the first line of a script, with its one argument. -/
def interpreter? (octets : Bytes) : Option (Bytes × List Bytes) :=
  match octets with
  | 0x23 :: 0x21 :: rest =>
    -- The system looks at so much of the first line and no further.
    let line := (rest.take 254).takeWhile fun b => b != 0x0A && b != 0
    let line := ((line.dropWhile separatesWords).reverse.dropWhile separatesWords).reverse
    let name := line.takeWhile fun b => !separatesWords b
    let arg := (line.drop name.length).dropWhile separatesWords
    some (name, if arg.isEmpty then [] else [arg])
  | _ => none

/-- Whether a shell does not take a file for a script: a control character that
no text holds is on its first line, as far as the shell looks at it. -/
def isUnreadable (octets : Bytes) : Bool :=
  let line := (octets.take 128).takeWhile (· != 0x0A)
  line.any fun b => b < 0x09 || (0x0F < b && b < 0x20 && b != 0x1B) || b = 0x7F

/-- What starts when the file at a path is executed. A file without such a
line is read by the shell if it is plain. -/
def executable (tree : FileTree) (base : Place) (plain : Bytes → Bool) :
    Nat → Bytes → List Bytes → Except IoError Start
  | 0, _, _ => .error .tooManyLinks
  | scripts + 1, path, words =>
    match tree.find base path with
    | .error error => .error error
    | .ok (_, .program "sh") => .ok ⟨.shell, words⟩
    | .ok (_, .program name) => .ok ⟨.utility name, words⟩
    | .ok (place, .file octets) =>
      let unnamed : Except IoError Start :=
        if plain octets then .ok ⟨.shell, encode "/bin/sh" :: path :: words.drop 1⟩
        else .error .notExecutable
      if !tree.lets place .pass then .error .accessDenied
      else
        match interpreter? octets with
        | none => unnamed
        | some ([], _) => unnamed
        | some (name, args) =>
          executable tree base (fun _ => false) scripts name
            (name :: args ++ path :: words.drop 1)
    | .ok _ => .error .accessDenied

/-- The most octets a single word or entry may have, its end counted. -/
def wordLimit : Nat := 131072

/-- The most octets of all words and entries together. -/
def wordsLimit : Nat := 2097152

/-- Refuses words and entries that are too long to be handed over. -/
def checkSize (words : List Bytes) (env : List (Bytes × Bytes)) : Except IoError Unit :=
  -- Each word ends with a zero octet, an entry also has an equals sign.
  let sizes := words.map (fun word => word.length + 1) ++
    env.map fun (name, value) => name.length + value.length + 2
  if sizes.any (wordLimit < ·) || wordsLimit < sizes.foldl (· + · + 8) 0 then
    .error .argumentsTooLong
  else .ok ()

/-- What starts when a path is executed with these words and entries. -/
def executePath (tree : FileTree) (base : Place) (env : List (Bytes × Bytes))
    (plain : Bytes → Bool) (path : Bytes) (words : List Bytes) : Except IoError Start := do
  let start ← executable tree base plain scriptLimit path words
  checkSize start.words env
  return start

/-- Looks for a name along directories. One that is there and may not be
executed is remembered while the search goes on. -/
def search (tree : FileTree) (base : Place) (env : List (Bytes × Bytes))
    (plain : Bytes → Bool) (name : Bytes) (words : List Bytes) (denied : Bool) :
    List Bytes → Except IoError Start
  | [] => .error (if denied then .accessDenied else .notFound)
  | directory :: rest =>
    let path := if directory.isEmpty then name else directory ++ Path.slash :: name
    match executePath tree base env plain path words with
    | .ok start => .ok start
    -- A file that may not be executed does not end the search, other errors do.
    | .error .accessDenied => search tree base env plain name words true rest
    | .error .notFound => search tree base env plain name words denied rest
    | .error .notDirectory => search tree base env plain name words denied rest
    | .error error => .error error

def defaultPath : Bytes :=
  encode "/usr/local/sbin:/usr/local/bin:/usr/sbin:/usr/bin:/sbin:/bin"

/-- What starts for a name, given the directories to look along. -/
def startOf (tree : FileTree) (base : Place) (env : List (Bytes × Bytes))
    (plain : Bytes → Bool) (directories name : Bytes) (words : List Bytes) : Except IoError Start :=
  if name.isEmpty then .error .notFound
  else if name.contains Path.slash then executePath tree base env plain name words
  else if FileTree.nameLimit < name.length then .error .nameTooLong
  else search tree base env plain name words false (directories.splitOn 0x3A)

end Rollout.Posix
