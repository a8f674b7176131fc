import Rollout.Posix.Shell.Session

/-!
# Conditions

What the words of a test say of texts, numbers and files.
-/

namespace Rollout.Posix.Shell

open Rollout.Text (Bytes encode)

namespace Condition

/-- A word that has a meaning of its own in a test. -/
inductive Sign where
  | unary (letter : Char)
  | binary (name : String)
  | not
  | conjunction
  | disjunction
  | opening
  | closing
  deriving DecidableEq

def unaryLetters : List Char := "rwxefdcbpugkstznhOGLS".toList

def binaryNames : List String := [
  "=", "!=", "<", ">", "-eq", "-ne", "-ge", "-gt", "-le", "-lt", "-nt", "-ot", "-ef"]

def sign? (word : Bytes) : Option Sign :=
  match word with
  | [0x21] => some .not
  | [0x28] => some .opening
  | [0x29] => some .closing
  | [0x2D, 0x61] => some .conjunction
  | [0x2D, 0x6F] => some .disjunction
  | _ =>
    match binaryNames.find? fun name => encode name = word with
    | some name => some (.binary name)
    | none =>
      match word with
      | [0x2D, letter] =>
        if unaryLetters.contains (Char.ofUInt8 letter) then some (.unary (Char.ofUInt8 letter))
        else none
      | _ => none

def Sign.isBinary : Sign → Bool
  | binary _ => true
  | _ => false

/-- How a test reads a word. -/
inductive Lexeme where
  | finish
  | operand
  | sign (sign : Sign)
  deriving DecidableEq

/-- Reads the word at a place; whether it has a meaning of its own depends on
those behind it. -/
def lexeme (words : Array Bytes) (place : Nat) : Lexeme :=
  match words[place]? with
  | none => .finish
  | some word =>
    match sign? word with
    | none => .operand
    | some (.unary letter) =>
      match words[place + 1]?, words[place + 2]? with
      | none, _ => .operand
      | some _, none => .sign (.unary letter)
      | some next, some _ =>
        if (sign? next).any Sign.isBinary then .operand else .sign (.unary letter)
    | some .opening => if (words[place + 1]?).isNone then .operand else .sign .opening
    | some sign => .sign sign

/-- What kind of file a path leads to. -/
inductive FileKind where
  | plain (isEmpty : Bool)
  | directory
  | device
  | pipe
  deriving DecidableEq

/-- What is known of what a path leads to. -/
structure Facts where
  kind : FileKind
  mode : Mode
  place : Place

/-- What is known of an entry itself. -/
def entryFacts? (tree : FileTree) (place : Place) : Option Facts := do
  let inode ← tree.inode? place
  let kind ← match inode.entry with
    | .directory => some .directory
    | .file octets => some (.plain octets.isEmpty)
    | .program _ => some (.plain false)
    | .device _ => some .device
    | .link _ => none
    | .descriptor _ => none
  return ⟨kind, inode.mode, place⟩

/-- What is known of an open file. -/
def targetFacts? (kernel : Kernel) (place : Place) : Target → Option Facts
  | .file there => entryFacts? kernel.tree there
  | .directory there => entryFacts? kernel.tree there
  | .stream _ => some ⟨.pipe, ⟨0o600⟩, place⟩
  | .device _ => some ⟨.device, .newFile, place⟩
  | .nameless index => some ⟨.plain (kernel.stored (.nameless index)).isEmpty, .newFile, place⟩

/-- What is known of what a path leads to. -/
def facts? (scope : Scope) (kernel : Kernel) (path : Bytes) : Option Facts :=
  match kernel.tree.find scope.place path with
  | .error _ => none
  | .ok (place, .descriptor number) => do
    let file ← (scope.channels.lookup number).bind (kernel.files[·]?)
    targetFacts? kernel place file.target
  | .ok (place, _) => entryFacts? kernel.tree place

/-- Whether a path leads to a link itself. -/
def isLink (scope : Scope) (kernel : Kernel) (path : Bytes) : Bool :=
  match kernel.tree.locate scope.place path false with
  | .error _ => false
  | .ok place => match kernel.tree.entry? place with
    | some (.link _) => true
    | some (.descriptor _) => true
    | _ => false

/-- The number that a word spells. -/
def number (word : Bytes) : Except Bytes Int :=
  match wholeNumber? word with
  | some n => .ok n
  | none => .error (encode "Illegal number: " ++ word)

section

variable (scope : Scope) (kernel : Kernel)

/-- A test of one word. -/
def unary (letter : Char) (word : Bytes) : Except Bytes Bool :=
  let found := facts? scope kernel word
  let isKind (holds : FileKind → Bool) : Except Bytes Bool := .ok (found.any (holds ·.kind))
  let lets (right : Right) : Except Bytes Bool := .ok (found.any (·.mode.lets right))
  let isMarked (mark : Nat) : Except Bytes Bool := .ok (found.any (·.mode.has mark))
  match letter with
  | 'n' => .ok (!word.isEmpty)
  | 'z' => .ok word.isEmpty
  | 't' => (number word).map fun _ => false
  | 'h' | 'L' => .ok (isLink scope kernel word)
  | 'e' | 'O' | 'G' => .ok found.isSome
  | 'r' => lets .read
  | 'w' => lets .write
  | 'x' => lets .pass
  | 'u' => isMarked Mode.setUser
  | 'g' => isMarked Mode.setGroup
  | 'k' => isMarked Mode.sticky
  | 'f' => isKind fun kind => match kind with
    | .plain _ => true
    | _ => false
  | 'd' => isKind (· = .directory)
  | 'c' => isKind (· = .device)
  | 'p' => isKind (· = .pipe)
  | 's' => isKind fun kind => match kind with
    | .plain isEmpty => !isEmpty
    | .directory => true
    | _ => false
  | _ => .ok false

/-- A test of two words. -/
def binary (name : String) (a b : Bytes) : Except Bytes Bool := do
  let compare (holds : Int → Int → Bool) : Except Bytes Bool := do
    let m ← number a
    let n ← number b
    return holds m n
  let files (holds : Place → Place → Bool) : Except Bytes Bool :=
    match facts? scope kernel a, facts? scope kernel b with
    | some first, some second => .ok (holds first.place second.place)
    | _, _ => .ok false
  let changed (place : Place) : Int := (kernel.timesOf place).modified
  match name with
  | "=" => return a = b
  | "!=" => return a ≠ b
  | "<" => return a < b
  | ">" => return b < a
  | "-eq" => compare fun m n => m = n
  | "-ne" => compare fun m n => m ≠ n
  | "-ge" => compare fun m n => n ≤ m
  | "-gt" => compare fun m n => n < m
  | "-le" => compare fun m n => m ≤ n
  | "-lt" => compare fun m n => m < n
  | "-nt" => files fun first second => changed second < changed first
  | "-ot" => files fun first second => changed first < changed second
  | _ => files fun first second => first = second

variable (words : Array Bytes)

mutual

/-- Tests joined by "or", the first lexeme given; the truth, and the place of
the last word that was read. -/
def disjunction (fuel place : Nat) (first : Lexeme) : Except Bytes (Bool × Nat) :=
  match fuel with
  | 0 => .ok (false, place)
  | fuel + 1 => do
    let (truth, place) ← conjunction fuel place first
    if lexeme words (place + 1) = .sign .disjunction then
      let (others, place) ← disjunction fuel (place + 2) (lexeme words (place + 2))
      return (truth || others, place)
    else return (truth, place)
termination_by structural fuel

def conjunction (fuel place : Nat) (first : Lexeme) : Except Bytes (Bool × Nat) :=
  match fuel with
  | 0 => .ok (false, place)
  | fuel + 1 => do
    let (truth, place) ← negation fuel place first
    if lexeme words (place + 1) = .sign .conjunction then
      let (others, place) ← conjunction fuel (place + 2) (lexeme words (place + 2))
      return (truth && others, place)
    else return (truth, place)
termination_by structural fuel

def negation (fuel place : Nat) (first : Lexeme) : Except Bytes (Bool × Nat) :=
  match fuel with
  | 0 => .ok (false, place)
  | fuel + 1 => do
    if first = .sign .not then
      let next := lexeme words (place + 1)
      let (truth, place) ← negation fuel (if next = .finish then place else place + 1) next
      return (!truth, place)
    else primary fuel place first
termination_by structural fuel

def primary (fuel place : Nat) (first : Lexeme) : Except Bytes (Bool × Nat) :=
  match fuel with
  | 0 => .ok (false, place)
  | fuel + 1 => do
    let word := words.getD place []
    match first with
    | .finish => return (false, place)
    | .sign .opening =>
      let next := lexeme words (place + 1)
      if next = .sign .closing then return (false, place + 1)
      else
        let (truth, place) ← disjunction fuel (place + 1) next
        if lexeme words (place + 1) = .sign .closing then return (truth, place + 1)
        else throw (encode "closing paren expected")
    | .sign (.unary letter) =>
      match words[place + 1]? with
      | none => throw (word ++ encode ": argument expected")
      | some operand => return (← unary scope kernel letter operand, place + 1)
    | _ =>
      match lexeme words (place + 1) with
      | .sign (.binary name) =>
        match words[place + 2]? with
        | none => throw (encode (name ++ ": argument expected"))
        | some operand => return (← binary scope kernel name word operand, place + 2)
      | _ => return (!word.isEmpty, place)
termination_by structural fuel

end

/-- The truth of a test whose first word is read like this. -/
def evaluate (first : Lexeme) : Except Bytes Bool := do
  let (truth, place) ← disjunction scope kernel words (4 * words.size + 8) 0 first
  match words[place]?, words[place + 1]? with
  | some word, some _ =>
    throw (if word.isEmpty then encode "unexpected operator"
      else word ++ encode ": unexpected operator")
  | _, _ => return truth

end

/-- The truth of the words of a test. Up to four words are read by their
number. -/
def holds (scope : Scope) (kernel : Kernel) : List Bytes → Except Bytes Bool
  | [] => .ok false
  | [a, operator, b] =>
    if (sign? operator).any Sign.isBinary then
      evaluate scope kernel #[a, operator, b] .operand
    else if a = [0x28] && b = [0x29] then general [operator]
    else if a = [0x21] then (holds scope kernel [operator, b]).map (!·)
    else general [a, operator, b]
  | [a, b, c, d] =>
    if a = [0x28] && d = [0x29] then general [b, c]
    else if a = [0x21] then (holds scope kernel [b, c, d]).map (!·)
    else general [a, b, c, d]
  | words => general words
where
  general (words : List Bytes) : Except Bytes Bool :=
    let words := words.toArray
    evaluate scope kernel words (lexeme words 0)

end Condition

end Rollout.Posix.Shell
