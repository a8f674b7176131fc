import Rollout.Posix.Utility.Basic

/-!
# The front of files

Shows so many lines or octets of the front of files, or all but so many.
-/

namespace Rollout.Posix.Utility

open Rollout.Text (Bytes encode)

namespace Head

def digitSwitches : List Switch :=
  (List.range 10).map fun digit => ⟨toString digit, .nothing, []⟩

def switches : List Switch := [
  ⟨"c", .argument, ["bytes"]⟩, ⟨"n", .argument, ["lines"]⟩,
  ⟨"presume", .nothing, ["-presume-input-pipe"]⟩, ⟨"q", .nothing, ["quiet", "silent"]⟩,
  ⟨"v", .nothing, ["verbose"]⟩, ⟨"z", .nothing, ["zero-terminated"]⟩] ++ digitSwitches

/-- How much of each file is shown. -/
structure Portion where
  /-- Lines are counted, and not octets. -/
  lines : Bool := true
  count : Nat := 10
  /-- All is shown but what is counted from the end. -/
  fromEnd : Bool := false

/-- The factor that a unit of counts stands for. -/
def unitOf? : List Char → Option Nat
  | [] => some 1
  | ['b'] => some 512
  | letter :: rest =>
    let power := ["kK", "mM", "G", "T", "P", "E", "Z", "Y", "R", "Q"].findIdx?
      fun (letters : String) => letters.toList.contains letter
    match power, rest with
    | some power, [] => some (Nat.pow 1024 (power + 1))
    | some power, ['B'] => some (Nat.pow 1000 (power + 1))
    | some power, ['i', 'B'] => some (Nat.pow 1024 (power + 1))
    | _, _ => none

/-- The largest count. -/
def countLimit : Nat := 18446744073709551615

/-- The number that a count spells: digits and a unit, of which one may be
missing. -/
def count? (text : Bytes) : Except (Option IoError) Nat :=
  let body := text.dropWhile isBlankOctet
  let body := if body.head? = some 0x2B then body.drop 1 else body
  let digits := body.takeWhile isDigitOctet
  let unit := ((if digits.isEmpty then text else body.drop digits.length)).map Char.ofUInt8
  match unitOf? unit with
  | none => .error none
  | some factor =>
    if text.isEmpty || (digits.isEmpty && unit.isEmpty) then .error none
    else
      let n := (if digits.isEmpty then 1 else spelled 10 digits) * factor
      if countLimit < n then .error (some (.system 75)) else .ok n

/-- What is wrong with a command line. -/
inductive Fault where
  | badCount (text : Bytes)
  | badOption (letters : Bytes)

/-- The portion that a count asks for. -/
def portionOf (lines : Bool) (text : Bytes) : Except Fault Portion :=
  let fromEnd := text.head? = some 0x2D
  let digits := if fromEnd then text.drop 1 else text
  match count? digits with
  | .ok count => .ok { lines, count, fromEnd }
  | .error why =>
    .error (.badCount (encode ("invalid number of " ++ if lines then "lines: " else "bytes: ") ++
      Quoting.text digits ++ encode (why.elim "" fun error => ": " ++ reason error)))

/-- What is asked for. -/
structure Wish where
  portion : Portion := {}
  /-- Whether titles are shown, where this is said. -/
  titles : Option Bool := none
  /-- The octet at the end of a line. -/
  lineEnd : UInt8 := 10

/-- A first argument of the short form, digits with letters behind: the
argument that means the same count, and the wish. -/
def shortForm (digits : Bytes) : Bytes → Wish × Bytes → Except Fault (Wish × Bytes)
  | [], found => .ok found
  | letter :: rest, (wish, count) =>
    let octets : Portion := { wish.portion with lines := false }
    match Char.ofUInt8 letter with
    | 'c' => shortForm digits rest ({ wish with portion := octets }, digits)
    | 'b' | 'k' | 'm' =>
      shortForm digits rest ({ wish with portion := octets }, digits ++ [letter])
    | 'l' =>
      shortForm digits rest ({ wish with portion := { wish.portion with lines := true } }, count)
    | 'q' => shortForm digits rest ({ wish with titles := some false }, count)
    | 'v' => shortForm digits rest ({ wish with titles := some true }, count)
    | 'z' => shortForm digits rest ({ wish with lineEnd := 0 }, count)
    | _ => .error (.badOption [letter])

/-- What is said of a command line that is wrong. -/
def Fault.output (process : Process) : Fault → Output
  | .badCount text => ⟨[(2, Process.line process text)], 1⟩
  | .badOption letters => misuse process (encode "invalid trailing option -- " ++ letters) 1

/-- The wish with one more option. -/
def Wish.add (process : Process) (wish : Wish) (given : Given) : Except Output Wish :=
  let counted (lines : Bool) : Except Output Wish :=
    match portionOf lines (given.argument.getD []) with
    | .ok portion => .ok { wish with portion }
    | .error fault => .error (fault.output process)
  match given.key with
  | "n" => counted true
  | "c" => counted false
  | "q" => .ok { wish with titles := some false }
  | "v" => .ok { wish with titles := some true }
  | "z" => .ok { wish with lineEnd := 0 }
  | key =>
    if key.toList.all Char.isDigit then .error ((Fault.badOption (encode key)).output process)
    else .ok wish

/-- The wish that a first argument of the short form makes, and the arguments
behind it. -/
def Wish.start : List Bytes → Except Fault (Wish × List Bytes)
  | (0x2D :: text) :: rest =>
    let digits := text.takeWhile isDigitOctet
    if digits.isEmpty then .ok ({}, (0x2D :: text) :: rest)
    else do
      let (wish, count) ← shortForm digits (text.drop digits.length) ({}, digits)
      let portion ← portionOf wish.portion.lines count
      return ({ wish with portion }, rest)
  | args => .ok ({}, args)

/-- The first `count` lines. -/
def firstLines (lineEnd : UInt8) : Nat → Bytes → Bytes → Bytes
  | 0, seen, _ => seen.reverse
  | _ + 1, seen, [] => seen.reverse
  | count + 1, seen, b :: rest =>
    firstLines lineEnd (if b = lineEnd then count else count + 1) (b :: seen) rest
termination_by _ _ octets => octets.length

/-- What a wish keeps of octets. -/
def Wish.keep (wish : Wish) (octets : Bytes) : Bytes :=
  let portion := wish.portion
  if !portion.lines then
    octets.take (if portion.fromEnd then octets.length - portion.count else portion.count)
  else if portion.fromEnd then
    let ends := octets.count wish.lineEnd +
      if octets.getLast?.getD wish.lineEnd = wish.lineEnd then 0 else 1
    firstLines wish.lineEnd (ends - portion.count) [] octets
  else firstLines wish.lineEnd portion.count [] octets

/-- How much is read at once. -/
def blockSize : Nat := 8192

/-- How much is kept back before it is written. -/
def bufferSize : Nat := 4096

/-- What a wish keeps of a part of a file, and the wish for what follows. -/
def Wish.next (wish : Wish) (octets : Bytes) : Bytes × Wish :=
  let kept := wish.keep octets
  let used := if wish.portion.lines then kept.count wish.lineEnd else kept.length
  (kept, { wish with portion := { wish.portion with count := wish.portion.count - used } })

section

variable {Birth : Type} (process : Process)

/-- Adds to what is said, and writes it where it is much. -/
def say (output : Output) (octets : Bytes) : Deed Birth Output :=
  let output := output.say octets
  let size := output.writes.foldl (fun size write => size + write.2.length) 0
  if bufferSize ≤ size then flush process output
  else return output

/-- Shows the front of a stream as it comes; what is wrong with it, if
anything. -/
def follow (handle : Handle) : Nat → Wish → Output → Deed Birth (Output × Option IoError)
  | 0, _, output => return (output, none)
  | turns + 1, wish, output => do
    let portion := wish.portion
    if portion.count = 0 then return (output, none)
    else
      let most := if portion.lines then blockSize else min blockSize portion.count
      match ← doing (Work.read handle most) with
      | .error error => return (output, some error)
      | .ok [] => return (output, none)
      | .ok octets =>
        let (kept, wish) := wish.next octets
        follow handle turns wish (← say process output kept)

/-- Shows the front of an open file. What is read too much is given back where
the file allows it. -/
def front (wish : Wish) (handle : Handle) (output : Output) :
    Deed Birth (Output × Option IoError) := do
  if ← doing (Work.look (·.seeks handle)) then
    let found ← doing (Work.update fun kernel =>
      let found := (kernel.peek handle none).map wish.keep
      (found, kernel.advance handle (found.toOption.elim 0 List.length)))
    match found with
    | .ok kept => return (← say process output kept, none)
    | .error error => return (output, some error)
  else if wish.portion.fromEnd then
    match ← doing (Work.readAll handle) with
    | .ok octets => return (← say process output (wish.keep octets), none)
    | .error error => return (output, some error)
  else follow process handle Work.patience wish output

/-- Shows the fronts of files. -/
def showAll (wish : Wish) (titled : Bool) : List Bytes → Output → Bool → Deed Birth Output
  | [], output, _ => return output
  | operand :: rest, output, isFirst => do
    let isInput := operand = [0x2D]
    let name := if isInput then encode "standard input" else operand
    let title := if titled then
        (if isFirst then [] else [10]) ++ encode "==> " ++ name ++ encode " <==\n"
      else []
    let unreadable (error : IoError) (output : Output) : Output :=
      output.complain (failure process "error reading " (Quoting.shell name) error) 1
    match ← openOperand process operand with
    | .error error =>
      if isInput then showAll wish titled rest (unreadable error (output.say title)) false
      else
        showAll wish titled rest (output.complain (complaint process "cannot open "
          (Quoting.shell operand) (" for reading: " ++ reason error)) 1) isFirst
    | .ok handle =>
      match ← front process wish handle (output.say title) with
      | (output, none) => showAll wish titled rest output false
      | (output, some error) => showAll wish titled rest (unreadable error output) false

end

end Head

/-- Shows the fronts of files, given the wish and the operands. -/
def headFiles {Birth : Type} (wish : Head.Wish) (operands : List Bytes) (process : Process) :
    Deed Birth Exit := do
  let titled := wish.titles.getD (operands.length > 1)
  let output ← Head.showAll process wish titled operands {} true
  if operands.contains [0x2D] && (process.handle? 0).isNone then
    finish process (output.complain (failure process "" [0x2D] .badDescriptor) 1)
  else finish process output

def head {Birth : Type} : Conduct Birth :=
  conduct fun process =>
    match Head.Wish.start process.args with
    | .error fault => finish process (fault.output process)
    | .ok (wish, args) =>
      asWished Head.switches Head.Wish.add wish
        (fun line wish process => headFiles wish (inputs line) process)
        { process with words := process.words.take 1 ++ args }

end Rollout.Posix.Utility
