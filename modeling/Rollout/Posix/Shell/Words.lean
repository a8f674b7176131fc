import Rollout.Posix.Shell.Source

/-!
# Reading words

Words with their quotes, parameters and substitutions, and the tokens between
them. How the commands of a substitution are read is given.
-/

namespace Rollout.Posix.Shell

open Rollout.Text (Bytes encode)

/-- Parts in the making, the last one first, with the text at their end. -/
structure Heap where
  parts : List Part := []
  run : Bytes := []

namespace Heap

def flush (heap : Heap) : List Part :=
  if heap.run.isEmpty then heap.parts else .text heap.run.reverse :: heap.parts

def octet (heap : Heap) (b : UInt8) : Heap :=
  { heap with run := b :: heap.run }

def add (heap : Heap) (part : Part) : Heap :=
  { parts := part :: heap.flush, run := [] }

def word (heap : Heap) : Word :=
  heap.flush.reverse

end Heap

/-- Where parts stand in which apostrophes and blanks mean nothing. -/
inductive Zone where
  /-- Double quotes, that stand within braces or do not. -/
  | quotes (nested : Bool)
  /-- Braces within such a zone, with quotes in them that are open or not. -/
  | braces (inQuotes : Bool)
  | document
  /-- An expression, so many parentheses deep. -/
  | expression (depth : Nat)
  deriving DecidableEq

/-- Parameters that are a single mark. -/
def isMark (b : UInt8) : Bool :=
  (encode "@*#?-$!").contains b

/-- Whether a parameter may start with an octet. -/
def startsParameter (b : UInt8) : Bool :=
  continuesName b || isMark b

/-- What a backslash keeps its meaning in front of, in a zone. -/
def Zone.escapes (zone : Zone) (inDocument : Bool) (b : UInt8) : Bool :=
  let braced := match zone with
    | .quotes nested => nested
    | .braces _ => true
    | _ => false
  b = 0x5C || b = 0x60 || b = 0x24 || (b = 0x22 && !(inDocument && !braced)) ||
    (b = 0x7D && braced)

namespace Read

/-- The octets up to an apostrophe. -/
def apostrophes : Nat → Bytes → Read Bytes
  | 0, _ => fail "Unterminated quoted string"
  | fuel + 1, seen => do
    match ← octet with
    | none => fail "Unterminated quoted string"
    | some b =>
      if b = 0x27 then return seen.reverse
      else
        if b = 10 then countLine
        apostrophes fuel (b :: seen)

/-- How far two texts agree. -/
def common : Bytes → Bytes → Nat
  | a :: as, b :: bs => if a = b then common as bs + 1 else 0
  | _, _ => 0

/-- Passes over the mark of a document, where the line is the mark: the rest
of the text then belongs to the commands. -/
def checkMark : Read Unit := fun source =>
  match source.mark with
  | none => .ok ((), source)
  | some (mark, stripped) =>
    let text := if stripped then source.text.dropWhile (· = 9) else source.text
    let count := common mark text
    let rest := text.drop count
    if count = mark.length && (rest.isEmpty || rest.head? = some 10) then
      .ok ((), { source with
        text := rest.drop 1, line := source.line + 1, closed := true
        isSpent := source.isSpent || rest.isEmpty })
    else
      -- The first octet that is not of the mark is lost if it is beyond 128.
      let isLost := count != 0 && rest.head?.any (0x80 ≤ ·)
      .ok ((), { source with text := if isLost then text.eraseIdx count else text })

/-- Starts a line of a document whose lines may be joined, but not behind tabs
that were passed over. -/
def startLine : Read Unit := do
  if (← get).mark.isSome then back (← joined)
  let before ← get
  checkMark
  modify fun source => { source with
    exact := !source.closed && source.text.length < before.text.length &&
      before.text.head? = some 9 }

/-- The octets of a name. -/
def nameFrom : Nat → Bytes → Option UInt8 → Read (Bytes × Option UInt8)
  | 0, seen, found => return (seen.reverse, found)
  | fuel + 1, seen, found =>
    match found with
    | some b => do
      if continuesName b then nameFrom fuel (b :: seen) (← joined)
      else return (seen.reverse, found)
    | none => return (seen.reverse, found)

/-- The octets of a number. -/
def digitsFrom : Nat → Bytes → Option UInt8 → Read (Bytes × Option UInt8)
  | 0, seen, found => return (seen.reverse, found)
  | fuel + 1, seen, found =>
    match found with
    | some b => do
      if isDigit b then digitsFrom fuel (b :: seen) (← joined)
      else return (seen.reverse, found)
    | none => return (seen.reverse, found)

/-- More octets than are read at once. -/
def lengthLimit : Nat := 1000000000

/-- The front of a parameter: its name, and how it is used. All but a plain use
go on up to a brace. -/
structure Opening where
  name : Bytes
  use : Use
  /-- A brace closes the parameter. -/
  isOpen : Bool

/-- The use that a mark stands for. -/
def useOf? (mark : UInt8) (colon : Bool) : Option Use :=
  if mark = 0x2D then some (.orElse colon)
  else if mark = 0x2B then some (.instead colon)
  else if mark = 0x3F then some (.require colon)
  else if mark = 0x3D then some (.assign colon)
  else none

/-- Reads how a parameter in braces is used, its name read. -/
def usage (name : Bytes) (found : Option UInt8) : Read Opening := do
  let bad : Opening := ⟨name, .bad, true⟩
  match found with
  | some 0x7D => return ⟨name, .plain, false⟩
  | some 0x3A =>
    match ← joined with
    | some 0x7D => return ⟨name, .plain, true⟩
    | some mark => return (useOf? mark true).elim bad fun use => ⟨name, use, true⟩
    | none => return bad
  | some mark =>
    if mark = 0x25 || mark = 0x23 then
      let next ← joined
      let longest := next = some mark
      if !longest then back next
      return ⟨name, if mark = 0x25 then .cutBack longest else .cutFront longest, true⟩
    else return (useOf? mark false).elim bad fun use => ⟨name, use, true⟩
  | none => return bad

/-- Reads a name or number, of which the first octet is taken. -/
def named (found : Option UInt8) : Read (Bytes × Option UInt8) :=
  if found.any isDigit then digitsFrom lengthLimit [] found else nameFrom lengthLimit [] found

/-- Reads the front of a parameter in braces, the brace behind. -/
def braced : Read Opening := do
  let found ← joined
  let ended (name : Bytes) (use : Use) (found : Option UInt8) : Read Opening := do
    back found
    return ⟨name, use, true⟩
  match found with
  | none => ended [] .bad none
  | some b =>
    if continuesName b then
      let (name, found) ← named found
      usage name found
    else if b = 0x7D then ended [] .bad found
    else
      let found ← joined
      if b = 0x23 then
        if found.any continuesName then
          let (name, found) ← named found
          ended name (if found = some 0x7D then .size else .bad) found
        else
          let next ← joined
          if found = some 0x7D || next != some 0x7D then
            back next
            usage [b] found
          else
            match found with
            | some mark =>
              if isMark mark then ended [mark] .size next else ended [mark] .bad next
            | none => ended [] .bad next
      else if isMark b then usage [b] found
      else ended [b] .bad found

/-- Reads the text between backquotes. -/
def backquoted (quoted : Bool) : Nat → Bytes → Read Bytes
  | 0, _ => fail "EOF in backquote substitution"
  | fuel + 1, seen => do
    match ← joined with
    | none => fail "EOF in backquote substitution"
    | some 0x60 => return seen.reverse
    | some 0x5C =>
      match ← octet with
      | none => fail "EOF in backquote substitution"
      | some b =>
        let bare := b = 0x5C || b = 0x60 || b = 0x24 || (quoted && b = 0x22)
        backquoted quoted fuel (if bare then b :: seen else b :: 0x5C :: seen)
    | some b =>
      if b = 10 then countLine
      backquoted quoted fuel (b :: seen)

section

-- The commands of a substitution are read by this, up to a parenthesis if it is true.
variable (script : Bool → Read Node)

/-- Reads commands from here up to a parenthesis. -/
def enclosed : Read Part := do
  let outer ← get
  set { outer with held := none, pending := [], mark := none, wantsAlias := false }
  let body ← script true
  -- Documents that are still announced then are empty.
  modify fun source => { source with
    held := none, pending := outer.pending, mark := outer.mark
    wantsAlias := outer.wantsAlias }
  return .command body

/-- Reads commands from between backquotes, where lines are counted anew. -/
def substituted (quoted : Bool) : Read Part := do
  let text ← backquoted quoted lengthLimit []
  let outer ← get
  set { outer with
    text, frames := [], line := 1, held := none, pending := [], mark := none, wantsAlias := false }
  let body ← script false
  let inner ← get
  set { outer with documents := inner.documents }
  return .command body

mutual

/-- Reads what a dollar introduces. With `bare`, it introduces nothing. -/
def dollar (fuel : Nat) (bare inDocument : Bool) (zone : Option Zone) (heap : Heap) :
    Read Heap :=
  match fuel with
  | 0 => fail "Missing '\x7d'"
  | fuel + 1 => do
    let found ← joined
    let starts := found.any fun b => startsParameter b || b = 0x28 || b = 0x7B
    if bare || !starts then
      back found
      return heap.octet 0x24
    else if found = some 0x28 then
      let next ← joined
      if next = some 0x28 then
        let inner ← zoned fuel inDocument (.expression 0) {}
        return heap.add (.arithmetic inner.word)
      else
        back next
        return heap.add (← enclosed script)
    else if found = some 0x7B then
      let opening ← braced
      if !opening.isOpen then return heap.add (.parameter opening.name .plain [])
      else
        let cuts := match opening.use with
          | .cutFront _ => true
          | .cutBack _ => true
          | _ => false
        let word ← if zone.isNone || cuts then bracedWord fuel inDocument {}
          else zoned fuel inDocument (.braces false) {}
        let part := Part.parameter opening.name opening.use word.word
        -- A plain use that is still open has its text behind it.
        if opening.use = .plain then
          return word.word.foldl Heap.add (heap.add (.parameter opening.name .plain []))
        else return heap.add part
    else
      match found with
      | some b =>
        if startsName b then
          let (name, found) ← nameFrom lengthLimit [] found
          back found
          return heap.add (.parameter name .plain [])
        else return heap.add (.parameter [b] .plain [])
      | none => return heap
termination_by structural fuel

/-- Reads the parts of a zone up to its end. -/
def zoned (fuel : Nat) (inDocument : Bool) (zone : Zone) (heap : Heap) : Read Heap :=
  match fuel with
  | 0 => fail "Unterminated quoted string"
  | fuel + 1 => do
    match ← joined with
    | none =>
      match zone with
      | .document => return heap
      | .expression _ => fail "Missing '))'"
      | _ => if inDocument then fail "Missing '\x7d'" else fail "Unterminated quoted string"
    | some b =>
      if b = 10 then
        countLine
        startLine
        zoned fuel inDocument zone (heap.octet b)
      else if b = 0x5C then
        match ← octet with
        | none => zoned fuel inDocument zone (heap.octet b)
        | some next =>
          if zone.escapes inDocument next then
            zoned fuel inDocument zone (heap.add (.quoted [next]))
          else
            if next = 10 then countLine
            zoned fuel inDocument zone (heap.add (.quoted [b, next]))
      else if b = 0x60 then
        zoned fuel inDocument zone (heap.add (← substituted script true))
      else if b = 0x24 then
        let heap ← dollar fuel false inDocument (some zone) heap
        zoned fuel inDocument zone heap
      else
        match zone with
        | .quotes _ => if b = 0x22 then return heap else zoned fuel inDocument zone (heap.octet b)
        | .braces inQuotes =>
          if b = 0x22 then zoned fuel inDocument (.braces !inQuotes) heap
          else if b = 0x7D && !inQuotes then return heap
          else zoned fuel inDocument zone (heap.octet b)
        | .document => zoned fuel inDocument zone (heap.octet b)
        | .expression depth =>
          if b = 0x28 then zoned fuel inDocument (.expression (depth + 1)) (heap.octet b)
          else if b = 0x29 then
            match depth with
            | depth + 1 => zoned fuel inDocument (.expression depth) (heap.octet b)
            | 0 =>
              let next ← joined
              if next = some 0x29 then return heap
              else
                back next
                zoned fuel inDocument zone (heap.octet b)
          else zoned fuel inDocument zone (heap.octet b)
termination_by structural fuel

/-- Reads the word of a parameter up to its brace, where all quotes count. -/
def bracedWord (fuel : Nat) (inDocument : Bool) (heap : Heap) : Read Heap :=
  match fuel with
  | 0 => fail "Missing '\x7d'"
  | fuel + 1 => do
    match ← joined with
    | none => fail "Missing '\x7d'"
    | some b =>
      if b = 0x7D then return heap
      else if b = 10 then
        countLine
        startLine
        bracedWord fuel inDocument (heap.octet b)
      else if b = 0x5C then
        let quoted := match ← octet with
          | some next => next
          | none => b
        bracedWord fuel inDocument (heap.add (.quoted [quoted]))
      else if b = 0x27 then
        bracedWord fuel inDocument (heap.add (.quoted (← apostrophes lengthLimit [])))
      else if b = 0x22 then
        let inner ← zoned fuel inDocument (.quotes true) {}
        bracedWord fuel inDocument (heap.add (.double inner.word))
      else if b = 0x60 then
        bracedWord fuel inDocument (heap.add (← substituted script false))
      else if b = 0x24 then
        let heap ← dollar fuel false inDocument none heap
        bracedWord fuel inDocument heap
      else bracedWord fuel inDocument (heap.octet b)
termination_by structural fuel

end

/-- Octets that end a word. -/
def endsWord (b : UInt8) : Bool :=
  (encode " \t\n;&|<>()").contains b

/-- Reads a word, its first octet given; whether anything in it is quoted, and
what follows it. With `bare`, it is the mark of a document. -/
def wordFrom (bare : Bool) : Nat → Bool → Heap → Option UInt8 →
    Read (Heap × Bool × Option UInt8)
  | 0, isQuoted, heap, found => return (heap, isQuoted, found)
  | fuel + 1, isQuoted, heap, found => do
    match found with
    | none => return (heap, isQuoted, found)
    | some b =>
      if endsWord b then return (heap, isQuoted, found)
      else if b = 0x5C then
        match ← octet with
        | none => wordFrom bare fuel isQuoted (heap.add (.quoted [b])) (← joined)
        | some next => wordFrom bare fuel true (heap.add (.quoted [next])) (← joined)
      else if b = 0x27 then
        let octets ← apostrophes lengthLimit []
        wordFrom bare fuel true (heap.add (.quoted octets)) (← joined)
      else if b = 0x22 then
        let inner ← if bare then bareQuotes fuel {} else zoned script fuel false (.quotes false) {}
        wordFrom bare fuel true (heap.add (.double inner.word)) (← joined)
      else if b = 0x60 && !bare then
        let heap := heap.add (← substituted script false)
        wordFrom bare fuel isQuoted heap (← joined)
      else if b = 0x24 then
        let heap ← dollar script fuel bare false none heap
        wordFrom bare fuel isQuoted heap (← joined)
      else wordFrom bare fuel isQuoted (heap.octet b) (← joined)
where
  /-- Reads double quotes in which nothing is replaced. -/
  bareQuotes : Nat → Heap → Read Heap
    | 0, _ => fail "Unterminated quoted string"
    | fuel + 1, heap => do
      match ← joined with
      | none => fail "Unterminated quoted string"
      | some b =>
        if b = 0x22 then return heap
        else if b = 0x5C then
          match ← octet with
          | none => fail "Unterminated quoted string"
          | some next =>
            if Zone.escapes (.quotes false) false next then
              bareQuotes fuel (heap.add (.quoted [next]))
            else bareQuotes fuel (heap.add (.quoted [b, next]))
        else
          if b = 10 then countLine
          bareQuotes fuel (heap.octet b)

/-- Passes over a comment. -/
def comment : Nat → Read Unit
  | 0 => return
  | fuel + 1 => do
    match ← octet with
    | none => return
    | some b => if b = 10 then back (some b) else comment fuel

/-- Reads what a redirection does, its first octet given. -/
def arrow (first : UInt8) (descriptor : Option Nat) : Read Token := do
  let found ← joined
  if first = 0x3E then
    let token (arrow : Arrow) : Token := .arrow (descriptor.getD 1) arrow
    match found with
    | some 0x3E => return token (.path .append)
    | some 0x7C => return token (.path .write)
    | some 0x26 => return token .duplicate
    | found =>
      back found
      -- Whether files are kept is known when the command runs.
      return token (.path .fresh)
  else
    let token (arrow : Arrow) : Token := .arrow (descriptor.getD 0) arrow
    match found with
    | some 0x3C =>
      let next ← joined
      if next = some 0x2D then return token (.document true)
      else
        back next
        return token (.document false)
    | some 0x26 => return token .duplicate
    | some 0x3E => return token (.path .both)
    | found =>
      back found
      return token (.path .read)

/-- Takes a second octet that makes another token of the first. -/
def doubled (b : UInt8) (once twice : Token) : Read Token := do
  let next ← joined
  if next = some b then return twice
  else
    back next
    return once

/-- Reads the next token from the text. -/
def freshToken (bare : Bool) : Nat → Read Token
  | 0 => return .finish
  | fuel + 1 => do
    match ← joined with
    | none => return .finish
    | some b =>
      if b = 0x20 || b = 9 then freshToken bare fuel
      else if b = 0x23 then
        comment lengthLimit
        freshToken bare fuel
      else if b = 10 then
        countLine
        return .newline
      else if b = 0x26 then doubled b .ampersand .both
      else if b = 0x7C then doubled b .pipe .either
      else if b = 0x3B then doubled b .semicolon .armEnd
      else if b = 0x28 then return .opening
      else if b = 0x29 then return .closing
      else
        let (heap, isQuoted, found) ← wordFrom script bare lengthLimit false {} (some b)
        let word := heap.word
        let descriptor? : Option (Option Nat) := match plainText? word, isQuoted with
          | some [], false => some none
          | some [digit], false => if isDigit digit then some (some (digit.toNat - 48)) else none
          | _, _ => none
        match descriptor?, found with
        | some descriptor, some 0x3C => arrow 0x3C descriptor
        | some descriptor, some 0x3E => arrow 0x3E descriptor
        | _, _ =>
          back found
          return .word word isQuoted

end

end Read

end Rollout.Posix.Shell
