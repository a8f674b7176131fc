import Rollout.Posix.Shell.Token

/-!
# The text of a script

A script is read octet by octet. The text of an alias is put in front of what
follows it, and the alias stays in use until that text is read and two more
octets have been asked for.
-/

namespace Rollout.Posix.Shell

open Rollout.Text (Bytes)

/-- The text around that of an alias. -/
structure Frame where
  rest : Bytes
  /-- Aliases that are in use within. -/
  aliases : List Bytes
  /-- The text of the alias ends with a blank, so that the next word may be an
  alias, too. -/
  blank : Bool

/-- A document that is announced. -/
structure Pending where
  number : Nat
  mark : Bytes
  isQuoted : Bool
  stripped : Bool

structure Source where
  text : Bytes
  frames : List Frame := []
  /-- Aliases whose text was read, which are in use until the next octet is asked
  for. -/
  released : List Bytes := []
  line : Nat := 1
  aliases : List (Bytes × Bytes) := []
  wantsAlias : Bool := false
  /-- A token that was looked at. -/
  held : Option Token := none
  pending : List Pending := []
  documents : Array Word := #[]
  /-- The mark that ends the document being read, and whether tabs in front of
  lines are passed over. -/
  mark : Option (Bytes × Bool) := none
  /-- The document being read has ended. -/
  closed : Bool := false
  /-- The next octet does not join lines. -/
  exact : Bool := false
  /-- The end of the text was met. -/
  isSpent : Bool := false

namespace Source

/-- Takes the next octet of a text, or of the first text around it that has
one. -/
def take : Bytes → List Frame → Source → Option UInt8 × Source
  | b :: text, frames, source => (some b, { source with text, frames })
  | [], [], source => (none, { source with text := [], frames := [], isSpent := true })
  | [], frame :: frames, source =>
    take frame.rest frames { source with
      released := frame.aliases ++ source.released
      wantsAlias := source.wantsAlias || frame.blank }

/-- Takes the next octet. -/
def next (source : Source) : Option UInt8 × Source :=
  if source.closed then (none, source)
  else take source.text source.frames { source with released := [] }

/-- Puts an octet back. -/
def back (source : Source) : Option UInt8 → Source
  | some b => { source with text := b :: source.text }
  | none => source

/-- More lines than are joined in a row. -/
def joinLimit : Nat := 1000000

/-- Takes the next octet, lines that a backslash joins seen as one. -/
def joined (fuel : Nat) (source : Source) : Option UInt8 × Source :=
  if source.exact then { source with exact := false }.next
  else
    match fuel, source.next with
    | fuel + 1, (some 0x5C, after) =>
      match after.next with
      | (some 10, after) => joined fuel { after with line := after.line + 1 }
      | (found, after) => (some 0x5C, after.back found)
    | _, found => found

/-- Whether an alias is in use. -/
def uses (source : Source) (name : Bytes) : Bool :=
  source.released.contains name || source.frames.any (·.aliases.contains name)

/-- Puts the text of an alias in front. -/
def unfold (source : Source) (name value : Bytes) : Source :=
  { source with
    text := value
    frames := {
      rest := source.text
      aliases := name :: source.released
      blank := value.getLast?.any fun b => b = 0x20 || b = 9 } :: source.frames
    released := [] }

end Source

/-- Reading a part of a script. -/
abbrev Read := StateT Source (Except Fault)

namespace Read

/-- A fault on the line that is being read. -/
def fail {α : Type} (text : String) : Read α := fun source =>
  .error ⟨source.line, text, source.isSpent⟩

def octet : Read (Option UInt8) := fun source => .ok source.next

/-- The next octet, where lines may be joined. -/
def joined : Read (Option UInt8) := fun source => .ok (source.joined Source.joinLimit)

def back (found : Option UInt8) : Read Unit := fun source => .ok ((), source.back found)

/-- Counts a line end. -/
def countLine : Read Unit := fun source => .ok ((), { source with line := source.line + 1 })

end Read

end Rollout.Posix.Shell
