import Rollout.Posix.Shell.Script
import Rollout.Posix.Shell.Session

/-!
# Commands of the shell itself

Their names, and how they read their options.
-/

namespace Rollout.Posix.Shell

open Rollout.Text (Bytes encode)

/-- A command of the shell that needs no other command: from its arguments to
its status. -/
abbrev Builtin := List Bytes → Act Nat

/-- The names of the commands of the shell that are not special. -/
def commonNames : List Bytes :=
  ["[", "alias", "bg", "cd", "chdir", "command", "echo", "false", "fg", "getopts", "hash", "jobs",
    "kill", "printf", "pwd", "read", "test", "true", "type", "ulimit", "umask", "unalias",
    "wait"].map encode

def isBuiltin (name : Bytes) : Bool :=
  isSpecialName name || commonNames.contains name

/-- Commands whose arguments may assign. -/
def assigningNames : List Bytes :=
  ["alias", "export", "local", "readonly"].map encode

def assigns (name : Bytes) : Bool :=
  assigningNames.contains name

namespace Builtin

/-- An option that was given, with its argument. -/
abbrev Given := Char × Bytes

/-- Reads the letters of one word. The last one may still lack its argument. -/
def letters (known : String) : Bytes → Act (List Given × Option Char)
  | [] => return ([], none)
  | letter :: rest => do
    let c := Char.ofUInt8 letter
    match known.toList.dropWhile (· != c) with
    | [] => Act.fail (encode "Illegal option -" ++ [letter])
    | _ :: ':' :: _ => return if rest.isEmpty then ([], some c) else ([(c, rest)], none)
    | _ =>
      let (others, open?) ← letters known rest
      return ((c, []) :: others, open?)

/-- Reads options, each one a letter that is known, a colon behind those that
take an argument; they come with the operands. -/
def options (known : String) : List Bytes → Act (List Given × List Bytes)
  | [] => return ([], [])
  | word :: rest =>
    match word with
    | [0x2D, 0x2D] => return ([], rest)
    | 0x2D :: first :: others => do
      match ← letters known (first :: others), rest with
      | (given, none), rest =>
        let (more, rest) ← options known rest
        return (given ++ more, rest)
      | (given, some c), argument :: rest =>
        let (more, rest) ← options known rest
        return (given ++ (c, argument) :: more, rest)
      | (_, some c), [] =>
        Act.fail (encode ("No arg for -" ++ String.singleton c ++ " option"))
    | _ => return ([], word :: rest)

def has (given : List Given) (letter : Char) : Bool :=
  given.any (·.1 = letter)

end Builtin

end Rollout.Posix.Shell
