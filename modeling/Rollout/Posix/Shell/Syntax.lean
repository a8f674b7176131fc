import Rollout.Posix.Kernel

/-!
# Shell scripts

The form of a shell script once it is read: commands with words and
redirections, and the ways to join them.
-/

namespace Rollout.Posix.Shell

open Rollout.Text (Bytes)

/-- How a parameter is put into a word. With `colon`, an empty parameter
counts as one that is not set. -/
inductive Use where
  | plain
  | size
  | orElse (colon : Bool)
  | assign (colon : Bool)
  | require (colon : Bool)
  | instead (colon : Bool)
  | cutFront (longest : Bool)
  | cutBack (longest : Bool)
  /-- No form of use at all, which matters only where it is reached. -/
  | bad
  deriving DecidableEq, Repr

mutual

/-- A part of a word. -/
inductive Part where
  | text (octets : Bytes)
  /-- What a backslash or apostrophes quote. -/
  | quoted (octets : Bytes)
  /-- What stands between double quotes. -/
  | double (parts : List Part)
  | parameter (name : Bytes) (use : Use) (word : List Part)
  | command (body : Node)
  | arithmetic (expression : List Part)

/-- A change of what a descriptor stands for. -/
inductive Redirect where
  | path (descriptor : Nat) (mode : OpenMode) (target : List Part)
  | duplicate (descriptor : Nat) (source : List Part)
  /-- A document of the script, by its number. -/
  | document (descriptor number : Nat)

inductive Node where
  | nothing
  | simple (line : Nat) (assignments : List (Bytes × List Part)) (words : List (List Part))
    (redirects : List Redirect)
  | pipe (stages : List Node)
  | negated (body : Node)
  | both (first second : Node)
  | either (first second : Node)
  | sequence (first second : Node)
  | background (line : Nat) (body : Node) (redirects : List Redirect)
  | subshell (line : Nat) (body : Node) (redirects : List Redirect)
  | redirected (line : Nat) (body : Node) (redirects : List Redirect)
  | branch (condition body other : Node)
  | loop (isUntil : Bool) (condition body : Node)
  | each (line : Nat) (name : Bytes) (words : List (List Part)) (body : Node)
  | select (line : Nat) (subject : List Part) (arms : List (List (List Part) × Node))
  | define (line : Nat) (name : Bytes) (body : Node)

end

abbrev Word := List Part

instance : Inhabited Node := ⟨.nothing⟩

/-- A fault in the form of a script, with the line it is found on. -/
structure Fault where
  line : Nat
  text : String
  /-- The end of the text was met before, so that more of it might mend this. -/
  isSpent : Bool := false

end Rollout.Posix.Shell
