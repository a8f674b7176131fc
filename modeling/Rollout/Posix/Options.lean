import Rollout.Text.Utf8

/-!
# Options of a command line

Options may stand anywhere among the operands, up to a double dash. A letter
stands behind a single dash, with others or with its argument; a name stands
behind two, and may be cut short as long as only one option is meant.
-/

namespace Rollout.Posix

open Rollout.Text (Bytes encode)

/-- Whether an option has an argument. -/
inductive Takes where
  | nothing
  | argument
  /-- An argument only where it is attached. -/
  | perhaps
  deriving DecidableEq

/-- An option that a utility knows: a letter, or a name where it has none, the
argument, and the long names. -/
structure Switch where
  key : String
  takes : Takes := .nothing
  names : List String := []

/-- An option that was given. -/
structure Given where
  key : String
  argument : Option Bytes := none

/-- A command line with its options told apart from its operands. -/
structure CommandLine where
  given : List Given := []
  operands : List Bytes := []
  /-- What is wrong with the option behind those that were given. -/
  fault : Option Bytes := none

namespace CommandLine

def has (line : CommandLine) (key : String) : Bool :=
  line.given.any (·.key == key)

/-- The argument of the last option with this key. -/
def argument? (line : CommandLine) (key : String) : Option Bytes :=
  (line.given.reverse.find? (·.key == key)).bind Given.argument

/-- The line with one more option. -/
def add (line : CommandLine) (switch : Switch) (argument : Option Bytes) : CommandLine :=
  { line with given := line.given ++ [⟨switch.key, argument⟩] }

/-- An option that may take an argument, what is attached to it, and what
follows: the first of `rest` is taken if the option needs it. -/
def give (line : CommandLine) (switch : Switch) (attached : Option Bytes) (rest : List Bytes)
    (missing : Bytes) : CommandLine × List Bytes :=
  match switch.takes, attached, rest with
  | .argument, none, [] => ({ line with fault := some missing }, [])
  | .argument, none, next :: rest => (line.add switch (some next), rest)
  | _, attached, rest => (line.add switch attached, rest)

/-- The options whose long names start with a text, with these names. A name
that is spelled out stands for itself alone. -/
def candidates (switches : List Switch) (name : String) : List (String × Switch) :=
  let all := switches.flatMap fun switch => switch.names.map (·, switch)
  match all.find? (·.1 == name) with
  | some found => [found]
  | none => all.filter fun found => name.toList.isPrefixOf found.1.toList

/-- Reads a long option, its dashes taken away. -/
def long (switches : List Switch) (line : CommandLine) (text : Bytes) (rest : List Bytes) :
    CommandLine × List Bytes :=
  let name := text.takeWhile (· != 0x3D)
  let attached := if name.length < text.length then some (text.drop (name.length + 1)) else none
  let refuse (fault : Bytes) : CommandLine × List Bytes := ({ line with fault := some fault }, rest)
  match candidates switches (Text.lossy name) with
  | [] => refuse (encode "unrecognized option '--" ++ text ++ [0x27])
  | (full, switch) :: others =>
    if others.any (·.2.key != switch.key) then
      let names := ((full, switch) :: others).map fun found => " '--" ++ found.1 ++ "'"
      refuse (encode "option '--" ++ text ++
        encode ("' is ambiguous; possibilities:" ++ String.join names))
    else if switch.takes = .nothing && attached.isSome then
      refuse (encode ("option '--" ++ full ++ "' doesn't allow an argument"))
    else
      line.give switch attached rest (encode ("option '--" ++ full ++ "' requires an argument"))

/-- Reads the letters behind a single dash. -/
def letters (switches : List Switch) (line : CommandLine) (rest : List Bytes) :
    Bytes → CommandLine × List Bytes
  | [] => (line, rest)
  | letter :: others =>
    let key := Text.lossy [letter]
    match switches.find? fun switch => letter < 0x80 && switch.key == key with
    | none => ({ line with fault := some (encode "invalid option -- '" ++ [letter, 0x27]) }, rest)
    | some switch =>
      if switch.takes = .nothing then letters switches (line.add switch none) rest others
      else
        line.give switch (if others.isEmpty then none else some others) rest
          (encode "option requires an argument -- '" ++ [letter, 0x27])

/-- Reads arguments, as many as there are. With `inFront`, all options stand in
front of the operands. -/
def readFrom (inFront : Bool) (switches : List Switch) :
    Nat → CommandLine → List Bytes → CommandLine
  | 0, line, _ => line
  | fuel + 1, line, args =>
    match line.fault, args with
    | some _, _ => line
    | none, [] => { line with operands := line.operands.reverse }
    | none, [0x2D, 0x2D] :: rest => { line with operands := line.operands.reverse ++ rest }
    | none, (0x2D :: 0x2D :: text) :: rest =>
      let (line, rest) := long switches line text rest
      readFrom inFront switches fuel line rest
    | none, (0x2D :: letter :: others) :: rest =>
      let (line, rest) := letters switches line rest (letter :: others)
      readFrom inFront switches fuel line rest
    | none, arg :: rest =>
      if inFront then { line with operands := arg :: rest }
      else readFrom inFront switches fuel { line with operands := arg :: line.operands } rest

/-- Reads the arguments of a utility, up to an option that is wrong. -/
def ofArgs (inFront : Bool) (switches : List Switch) (args : List Bytes) : CommandLine :=
  readFrom inFront switches (args.length + 1) {} args

end CommandLine

end Rollout.Posix
