import Rollout.Posix.Printing
import Rollout.Posix.Shell.Builtin.Basic

/-!
# Printing commands of the shell

They have fewer escapes than the programs of their names, and compute with
smaller numbers.
-/

namespace Rollout.Posix.Shell.Builtin

open Rollout.Text (Bytes encode)

/-- The escapes of the shell's own printing, in this scope. -/
def dialect (scope : Scope) : Dialect where
  format := .double
  extended := false
  say
    | .noNumber arg => scope.message (arg ++ encode ": expected numeric value")
    | .trailing arg => scope.message (arg ++ encode ": not completely converted")
    | .outOfRange arg => scope.message (arg ++ encode ": Numerical result out of range")
    | .behindCharacter _ => []

/-- The words of an echo up to an escape that ends it. -/
def echoed (scope : Scope) : List Bytes → Bytes × Bool
  | [] => ([], false)
  | word :: rest =>
    match unescape (dialect scope) word with
    | (octets, some _) => (octets, true)
    | (octets, none) =>
      if rest.isEmpty then (octets, false)
      else
        let (others, stopped) := echoed scope rest
        (octets ++ 0x20 :: others, stopped)

def echo : Builtin := fun args => do
  let scope ← Act.scope
  let (newline, words) := match args with
    | [0x2D, 0x6E] :: words => (false, words)
    | words => (true, words)
  let (octets, stopped) := echoed scope words
  Act.print (if newline && !stopped then octets ++ [10] else octets)
  return 0

def printf : Builtin := fun args => do
  let (_, args) ← options "" args
  match args with
  | [] => Act.fail (encode "usage: printf format [arg ...]")
  | format :: args =>
    let (printing, obstacle) := Posix.print (dialect (← Act.scope)) id format args
    Act.print (printing.written 1)
    Act.say (printing.written 2)
    match obstacle with
    | some .noLetter => Act.fail (encode "missing format character")
    | some (.badDirective text) => Act.fail (text ++ encode ": invalid directive")
    | some .tooLong => Act.fail (encode "xvsnprintf failed")
    | _ => return if printing.failed then 1 else 0

end Rollout.Posix.Shell.Builtin
