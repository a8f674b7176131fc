import Rollout.Posix.Mode
import Rollout.Text.Utf8

/-!
# Changes of modes

A mode that is asked for in words: an octal number, or clauses that say for
whom rights are added, taken away or set. What a change does not mention stays
as it is.
-/

namespace Rollout.Posix.Mode

open Rollout.Text (Bytes encode)

/-- What a change does with the bits it is about. -/
inductive Sign where
  | add
  | remove
  | set
  deriving DecidableEq

def Sign.ofOctet? (b : UInt8) : Option Sign :=
  if b = 0x2B then some .add else if b = 0x2D then some .remove
  else if b = 0x3D then some .set else none

/-- Where the rights of a change come from. -/
inductive Origin where
  | given
  /-- Those of one of the three parts are given to all of them. -/
  | copied
  /-- To execute is added where somebody may already, or for a directory. -/
  | ifAnyPasses
  deriving DecidableEq

structure Change where
  sign : Sign
  origin : Origin
  /-- The bits of those it is for; none if nobody is named. -/
  affected : Nat
  value : Nat
  /-- The bits that it speaks of. -/
  mentioned : Nat

namespace Change

def isOctal (b : UInt8) : Bool :=
  0x30 ≤ b && b ≤ 0x37

/-- The bits of an octal number, with how many digits it has and what follows. -/
def octal? (text : Bytes) : Option (Nat × Nat × Bytes) :=
  let digits := text.takeWhile isOctal
  let bits := digits.foldl (fun n b => 8 * n + (b.toNat - 48)) 0
  if digits.isEmpty || all < bits then none
  else some (bits, digits.length, text.drop digits.length)

/-- The bits that a letter for whom stands for. -/
def who? (b : UInt8) : Option Nat :=
  [(0x75, setUser ||| 0o700), (0x67, setGroup ||| 0o070), (0x6F, sticky ||| 0o007),
    (0x61, all)].lookup b

/-- The rights of one of the three parts. -/
def part? (b : UInt8) : Option Nat :=
  [(0x75, 0o700), (0x67, 0o070), (0x6F, 0o007)].lookup b

/-- The bits that a letter for what stands for. -/
def what? (b : UInt8) : Option Nat :=
  [(0x72, 0o444), (0x77, 0o222), (0x78, 0o111), (0x58, 0), (0x73, setUser ||| setGroup),
    (0x74, sticky)].lookup b

/-- The value of a change behind its sign: the octal number of a whole mode, a
letter for the rights of somebody, or letters for rights. -/
def ofValue? (sign : Sign) (affected : Nat) (text : Bytes) : Option (Change × Bytes) :=
  if text.head?.any isOctal then
    match octal? text with
    | some (bits, _, rest) =>
      if affected = 0 && rest.isEmpty then
        some (⟨sign, .given, all, bits, all⟩, rest)
      else none
    | none => none
  else
    let mentioned (value : Nat) : Nat := if affected = 0 then value else affected &&& value
    match text.head?.bind part? with
    | some value => some (⟨sign, .copied, affected, value, mentioned value⟩, text.drop 1)
    | none =>
      let letters := text.takeWhile fun b => (what? b).isSome
      let value := letters.foldl (fun bits b => bits ||| (what? b).getD 0) 0
      let origin : Origin := if letters.contains 0x58 then .ifAnyPasses else .given
      some (⟨sign, origin, affected, value, mentioned value⟩, text.drop letters.length)

/-- The changes of a clause behind those it is for: each a sign with a value. -/
def ofActions? (affected : Nat) : Nat → Bytes → Option (List Change)
  | 0, _ => none
  | _ + 1, [] => none
  | fuel + 1, b :: rest => do
    let (change, rest) ← ofValue? (← Sign.ofOctet? b) affected rest
    if rest.isEmpty then some [change]
    else return change :: (← ofActions? affected fuel rest)

/-- The changes of a clause. -/
def ofClause? (text : Bytes) : Option (List Change) :=
  let who := text.takeWhile fun b => (who? b).isSome
  let affected := who.foldl (fun bits b => bits ||| (who? b).getD 0) 0
  ofActions? affected (text.length + 1) (text.drop who.length)

/-- The changes that a text asks for. A number of less than five digits leaves
the first two marks of a directory alone unless it sets them. -/
def ofText? (text : Bytes) : Option (List Change) :=
  if text.head?.any isOctal then
    match octal? text with
    | some (bits, digits, []) =>
      let mentioned :=
        if digits < 5 then bits &&& (setUser ||| setGroup) ||| sticky ||| rights else all
      some [⟨.set, .given, all, bits, mentioned⟩]
    | _ => none
  else ((text.splitOn 0x2C).mapM ofClause?).map List.flatten

/-- The rights of any part, given to all three. -/
def spread (bits : Nat) : Nat :=
  let anyOf (n : Nat) : Nat := if bits &&& n = 0 then 0 else n
  anyOf 0o444 ||| anyOf 0o222 ||| anyOf 0o111

/-- The bits of a directory after a change, and all bits that were spoken of so
far. Where nobody is named, a mask holds rights back. -/
def apply (mask : Mode) (bits spoken : Nat) (change : Change) : Nat × Nat :=
  -- The first two marks of a directory change only where they are spoken of.
  let kept := except (setUser ||| setGroup) change.mentioned
  let wanted := match change.origin with
    | .given => change.value
    | .copied => spread (change.value &&& bits)
    | .ifAnyPasses => change.value ||| 0o111
  let value := except (if change.affected = 0 then except wanted mask.bits
    else wanted &&& change.affected) kept
  match change.sign with
  | .add => (bits ||| value, spoken ||| value)
  | .remove => (except bits value, spoken ||| value)
  | .set =>
    let preserved := (if change.affected = 0 then 0 else except all change.affected) ||| kept
    (bits &&& preserved ||| value, spoken ||| except all preserved)

end Change

/-- A directory's mode after changes, and the bits that they spoke of. -/
def changed (mode mask : Mode) (changes : List Change) : Mode × Nat :=
  let (bits, spoken) := changes.foldl
    (fun (bits, spoken) change => change.apply mask bits spoken) (mode.bits, 0)
  (⟨bits⟩, spoken)

end Rollout.Posix.Mode
