import Rollout.Text.Utf8

/-!
# Text for terminals

Texts given from outside are shown without what a terminal would act on:
control characters other than white space, and escape sequences, of which
nothing shows up to their last character.
-/

namespace Rollout.Text

/-- What a terminal waits for. -/
inductive Control where
  | ground
  | escape
  | escapeIntermediate
  | csiEntry
  | csiParam
  | csiIntermediate
  | csiIgnore
  | dcsEntry
  | dcsParam
  | dcsIntermediate
  | dcsIgnore
  | dcsPass
  | osc
  | text
  deriving DecidableEq, Repr

/-- Control characters that are white space and show in any state that acts
on control characters. -/
def isShownControl (n : Nat) : Bool :=
  n = 0x09 || n = 0x0A || n = 0x0C || n = 0x0D

namespace Control

/-- States of a string that the octet of its end closes wherever it stands, in
the middle of a character too. -/
def closesAtEnd : Control → Bool
  | dcsIgnore | dcsPass | text => true
  | _ => false

/-- States that act on control characters while they wait. -/
def executes : Control → Bool
  | ground | escape | escapeIntermediate | csiEntry | csiParam | csiIntermediate | csiIgnore => true
  | _ => false

/-- The state after a printing character of the first 128. -/
def next (state : Control) (n : Nat) : Control :=
  let low := 0x20 ≤ n && n ≤ 0x2F
  let number := (0x30 ≤ n && n ≤ 0x39) || n = 0x3B
  let marks := 0x3C ≤ n && n ≤ 0x3F
  let last := 0x40 ≤ n && n ≤ 0x7E
  match state with
  | ground => ground
  | escape =>
    if low then escapeIntermediate
    else if n = 0x5B then csiEntry
    else if n = 0x5D then osc
    else if n = 0x50 then dcsEntry
    else if n = 0x58 || n = 0x5E || n = 0x5F then text
    else if n = 0x7F then escape
    else ground
  | escapeIntermediate =>
    if low || n = 0x7F then escapeIntermediate else ground
  | csiEntry =>
    if low then csiIntermediate
    else if number || n = 0x3A || marks then csiParam
    else if last then ground else csiEntry
  | csiParam =>
    if low then csiIntermediate
    else if marks then csiIgnore
    else if last then ground else csiParam
  | csiIntermediate =>
    if 0x30 ≤ n && n ≤ 0x3F then csiIgnore
    else if last then ground else csiIntermediate
  | csiIgnore => if last then ground else csiIgnore
  | dcsEntry =>
    if low then dcsIntermediate
    else if number || n = 0x3A || marks then dcsParam
    else if last then dcsPass else dcsEntry
  | dcsParam =>
    if low then dcsIntermediate
    else if marks then dcsIgnore
    else if last then dcsPass else dcsParam
  | dcsIntermediate =>
    if 0x30 ≤ n && n ≤ 0x3F then dcsIgnore
    else if last then dcsPass else dcsIntermediate
  | dcsIgnore => dcsIgnore
  | dcsPass => dcsPass
  | osc => osc
  | text => text

end Control

/-- The octet that ends a string. -/
def stringEnd : UInt8 := 0x9C

/-- What shows of characters that come while a terminal is in a state. -/
def shownFrom (state : Control) : List Char → List Char
  | [] => []
  | c :: rest =>
    let n := c.toNat
    if n = 0x1B then shownFrom .escape rest
    else if n = 0x18 || n = 0x1A then shownFrom .ground rest
    else if n = 0x07 && state = .osc then shownFrom .ground rest
    else if n < 0x20 then
      -- White space shows even in the middle of a sequence, and ends it.
      if state.executes && isShownControl n then c :: shownFrom .ground rest
      else shownFrom state rest
    else if 0x80 ≤ n then
      -- A sequence goes on behind a character that cannot be part of it.
      if state = .ground then c :: shownFrom .ground rest
      else if state.closesAtEnd && (encode (String.singleton c)).contains stringEnd then
        shownFrom .ground rest
      else shownFrom state rest
    else if state = .ground && n != 0x7F then c :: shownFrom .ground rest
    else shownFrom (state.next n) rest

/-- What a terminal shows of a text. -/
def shown (text : String) : String :=
  String.ofList (shownFrom .ground text.toList)

/-- The text up to the end of its first line. -/
def firstLine (text : String) : String :=
  let cs := text.toList
  let line := cs.takeWhile (· != '\n')
  if line.length < cs.length && line.getLast? = some '\r' then String.ofList line.dropLast
  else String.ofList line

end Rollout.Text
