import Rollout.Path
import Rollout.Vars

/-!
# Commands

One invocation of a program: what to run, with which arguments, where, and
with which environment entries of its own. A command may also ask for a
target of its standard output or standard error; whoever captures both has
to refuse such a command.
-/

namespace Rollout

/-- Where a command asks a stream to go instead of being captured. -/
inductive Target where
  | inherit
  | discard
  deriving DecidableEq, Repr

structure Command where
  program : String
  args : List String := []
  /-- The directory of this command alone. -/
  dir : Option Path := none
  env : Vars := .empty
  stdout : Option Target := none
  stderr : Option Target := none
  deriving DecidableEq

namespace Command

def new (program : String) : Command := { program }

/-- The command that a list of words spells: its first word is the program. -/
def ofWords? : List String → Option Command
  | [] => none
  | program :: args => some { program, args }

/-- The words of a command: its program, then its arguments. -/
def words (command : Command) : List String :=
  command.program :: command.args

def withArgs (command : Command) (args : List String) : Command :=
  { command with args := command.args ++ args }

def withArg (command : Command) (arg : String) : Command :=
  command.withArgs [arg]

def inDir (command : Command) (dir : Path) : Command :=
  { command with dir := some dir }

def withEnv (command : Command) (key value : String) : Command :=
  { command with env := command.env.insert key value }

def withStdout (command : Command) (target : Target) : Command :=
  { command with stdout := some target }

def withStderr (command : Command) (target : Target) : Command :=
  { command with stderr := some target }

/-- A command that asks for a target of its own. -/
def redirects (command : Command) : Bool :=
  command.stdout.isSome || command.stderr.isSome

/-- The text of a command: its words with single spaces between them. -/
def text (command : Command) : String :=
  command.args.foldl (fun text arg => text ++ " " ++ arg) command.program

/-- Whether two directories are the same as far as their spelling tells. -/
def sameDir : Option Path → Option Path → Bool
  | none, none => true
  | some a, some b => a.same b
  | _, _ => false

/-- Equality of commands; directories are compared by their components. -/
def same (a b : Command) : Bool :=
  a.program == b.program && a.args == b.args && sameDir a.dir b.dir && a.env == b.env &&
    a.stdout == b.stdout && a.stderr == b.stderr

end Command

/-- One step of building a command. -/
inductive Command.Edit where
  | arg (arg : String)
  | args (args : List String)
  | dir (dir : Path)
  | env (key value : String)
  | stdout (target : Target)
  | stderr (target : Target)
  deriving DecidableEq

namespace Command

def apply (command : Command) : Edit → Command
  | .arg arg => command.withArg arg
  | .args args => command.withArgs args
  | .dir dir => command.inDir dir
  | .env key value => command.withEnv key value
  | .stdout target => command.withStdout target
  | .stderr target => command.withStderr target

/-- The command after edits made one after another. -/
def build (start : Command) (edits : List Edit) : Command :=
  edits.foldl apply start

end Command

end Rollout
