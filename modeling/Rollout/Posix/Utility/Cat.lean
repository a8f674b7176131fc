import Rollout.Posix.Utility.Basic

/-!
# Files one behind another

Joins files, and shows their lines with numbers and their octets with marks.
-/

namespace Rollout.Posix.Utility

open Rollout.Text (Bytes encode)

namespace Cat

def switches : List Switch := [
  ⟨"b", .nothing, ["number-nonblank"]⟩, ⟨"n", .nothing, ["number"]⟩,
  ⟨"s", .nothing, ["squeeze-blank"]⟩, ⟨"v", .nothing, ["show-nonprinting"]⟩,
  ⟨"E", .nothing, ["show-ends"]⟩, ⟨"T", .nothing, ["show-tabs"]⟩,
  ⟨"A", .nothing, ["show-all"]⟩, ⟨"e", .nothing, []⟩, ⟨"t", .nothing, []⟩, ⟨"u", .nothing, []⟩]

/-- How the octets are shown. -/
structure Style where
  /-- Lines have numbers. -/
  numbers : Bool
  /-- Only lines with something in them have numbers. -/
  filled : Bool
  /-- Of several empty lines one is shown. -/
  squeezes : Bool
  ends : Bool
  tabs : Bool
  marks : Bool

def Style.ofLine (line : CommandLine) : Style :=
  let any (keys : List String) : Bool := keys.any line.has
  { numbers := any ["n", "b"]
    filled := line.has "b"
    squeezes := line.has "s"
    ends := any ["E", "A", "e"]
    tabs := any ["T", "A", "t"]
    marks := any ["v", "A", "e", "t"] }

/-- What goes on from one file to the next. -/
structure State where
  /-- Line ends since the last other octet; nothing in the middle of a line. -/
  ends : Option Nat := some 0
  number : Nat := 1
  /-- What is to be written, the last octet first. -/
  out : Bytes := []
  /-- A carriage return waits for what follows it. -/
  returned : Bool := false

/-- An octet with marks in place of what does not print. -/
def marked (b : UInt8) : Bytes :=
  let low (b : UInt8) : Bytes :=
    if b = 0x7F then encode "^?" else if b < 0x20 then [0x5E, b + 0x40] else [b]
  if b < 0x80 then low b else encode "M-" ++ low (b - 0x80)

namespace State

def emit (state : State) (octets : Bytes) : State :=
  { state with out := octets.reverse ++ state.out }

/-- Writes the number of the line that starts. -/
def count (state : State) : State :=
  let digits := toString state.number
  let text := String.ofList (List.replicate (6 - digits.length) ' ') ++ digits ++ "\t"
  { state.emit (encode text) with number := state.number + 1 }

/-- Takes in a line end. -/
def newline (style : Style) (state : State) : State :=
  let ends := match state.ends with
    | none => 0
    | some n => min (n + 1) 2
  let state := { state with ends := some ends }
  if 2 ≤ ends && style.squeezes then state
  else
    let state := if 0 < ends && style.numbers && !style.filled then state.count else state
    let state := if state.returned then
        { state.emit (if style.ends then encode "^M" else [13]) with returned := false }
      else state
    (if style.ends then state.emit [0x24] else state).emit [10]

/-- Takes in an octet of a line. -/
def other (style : Style) (state : State) (b : UInt8) : State :=
  let state := if state.returned then { state.emit [13] with returned := false } else state
  let state := if state.ends.isSome && style.numbers then state.count else state
  let state := { state with ends := none }
  if b = 9 then state.emit (if style.tabs then encode "^I" else [b])
  else if style.marks then state.emit (marked b)
  else if b = 13 && style.ends then { state with returned := true }
  else state.emit [b]

def step (style : Style) (state : State) (b : UInt8) : State :=
  if b = 10 then state.newline style else state.other style b

end State

/-- Whether the output is the file that is read, and there is something in it
to read. -/
def isOutput (process : Process) (kernel : Kernel) (handle : Handle) : Bool :=
  match kernel.files[handle]?, (process.handle? 1).bind (kernel.files[·]?) with
  | some input, some output =>
    kernel.seeks handle && input.target = output.target &&
      input.position < (kernel.stored input.target).length
  | _, _ => false

/-- How much is read at once. -/
def blockSize : Nat := 131072

section

variable {Birth : Type}

/-- Shows an open file to its end; what is wrong with it, if anything. -/
def copy (style : Style) (process : Process) (handle : Handle) :
    Nat → State → Deed Birth (State × Option IoError)
  | 0, state => return (state, none)
  | turns + 1, state => do
    match ← doing (Work.read handle blockSize) with
    | .error error => return (state, some error)
    | .ok [] => return (state, none)
    | .ok octets =>
      let state := octets.foldl (State.step style) { state with out := [] }
      put process 1 state.out.reverse
      copy style process handle turns state

/-- Shows operands one after another; the answer tells whether all could be
read. -/
def copyAll (style : Style) (process : Process) :
    List Bytes → State → Bool → Deed Birth (State × Bool)
  | [], state, isGood => return (state, isGood)
  | operand :: rest, state, isGood => do
    let refuse (text : Bytes) (state : State) : Deed Birth (State × Bool) := do
      put process 2 text
      copyAll style process rest state false
    let fault (error : IoError) : Bytes := failure process "" (Quoting.front operand) error
    match ← openOperand process operand with
    | .error error => refuse (fault error) state
    | .ok handle =>
      if ← doing (Work.look fun kernel => isOutput process kernel handle) then
        refuse (complaint process "" (Quoting.front operand) ": input file is output file") state
      else
        match ← copy style process handle Work.patience state with
        | (state, none) => copyAll style process rest state isGood
        | (state, some error) => refuse (fault error) state

end

end Cat

def cat {Birth : Type} : Conduct Birth :=
  conduct (bitByBit false Cat.switches fun line process => do
    if (process.handle? 1).isNone then
      finish process ⟨[(2, failure process "standard output" [] .badDescriptor)], 1⟩
    else
      let (state, isGood) ←
        Cat.copyAll (Cat.Style.ofLine line) process (inputs line) {} true
      if state.returned then put process 1 [13]
      if (inputs line).contains [0x2D] && (process.handle? 0).isNone then
        finish process ⟨[(2, failure process "closing standard input" [] .badDescriptor)], 1⟩
      else return .code (if isGood then 0 else 1))

end Rollout.Posix.Utility
