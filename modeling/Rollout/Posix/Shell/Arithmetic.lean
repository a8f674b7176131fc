import Rollout.Posix.Shell.Session
import Rollout.Text.Hex

/-!
# Shell arithmetic

Integer expressions of 64 bits with operators and their ranks. An expression
is evaluated as it is read, so that an operand that is not needed may divide
by zero, and a fault counts only where it is reached.
-/

namespace Rollout.Posix.Shell

open Rollout.Text (Bytes encode hexValue?)

namespace Arithmetic

inductive Operator where
  | mul | div | rem | add | sub | left | right | less | atMost | greater | atLeast | equal | differs
  | conjunction | exclusion | disjunction
  deriving DecidableEq, Repr

/-- Operators of a lower rank bind closer. -/
def Operator.rank : Operator → Nat
  | mul | div | rem => 0
  | add | sub => 1
  | left | right => 2
  | less | atMost | greater | atLeast => 3
  | equal | differs => 4
  | conjunction => 5
  | exclusion => 6
  | disjunction => 7

/-- A rank behind that of all operators. -/
def outerRank : Nat := 8

/-- A number of 64 bits, wrapped around. -/
def wrap (n : Int) : Int :=
  Int.bmod n 18446744073709551616

def ofBool (b : Bool) : Int :=
  if b then 1 else 0

/-- The distance of a shift. -/
def distance (n : Int) : Nat :=
  (n.emod 64).toNat

/-- An operator on two numbers, of which the second is not zero where it
divides. -/
def Operator.apply (a b : Int) : Operator → Int
  | mul => wrap (a * b)
  | div => wrap (Int.tdiv a b)
  | rem => Int.tmod a b
  | add => wrap (a + b)
  | sub => wrap (a - b)
  | left => wrap (a * Int.pow 2 (distance b))
  | right => Int.fdiv a (Int.pow 2 (distance b))
  | less => ofBool (a < b)
  | atMost => ofBool (a ≤ b)
  | greater => ofBool (b < a)
  | atLeast => ofBool (b ≤ a)
  | equal => ofBool (a = b)
  | differs => ofBool (a ≠ b)
  | conjunction => (Int64.ofInt a &&& Int64.ofInt b).toInt
  | exclusion => (Int64.ofInt a ^^^ Int64.ofInt b).toInt
  | disjunction => (Int64.ofInt a ||| Int64.ofInt b).toInt

inductive Lexeme where
  | finish
  /-- An octet that means nothing. -/
  | stray
  | number (n : Int)
  | name (name : Bytes)
  /-- An assignment, perhaps with an operation. -/
  | assign (operator : Option Operator)
  | operator (operator : Operator)
  | both
  | either
  | opening
  | closing
  | not
  | complement
  | question
  | colon
  deriving DecidableEq

/-- Marks with what they mean; of two that start alike the longer one stands
first. -/
def marks : List (Bytes × Lexeme) :=
  let binary : List (String × Operator) := [
    ("<<", .left), (">>", .right), ("*", .mul), ("/", .div), ("%", .rem), ("+", .add), ("-", .sub),
    ("&", .conjunction), ("^", .exclusion), ("|", .disjunction)]
  let assigning := (binary.take 2).map fun (text, operator) =>
    (text ++ "=", Lexeme.assign (some operator))
  let assigningOne := (binary.drop 2).map fun (text, operator) =>
    (text ++ "=", Lexeme.assign (some operator))
  let pairs : List (String × Lexeme) := [
    ("<=", .operator .atMost), (">=", .operator .atLeast), ("==", .operator .equal),
    ("!=", .operator .differs), ("&&", .both), ("||", .either)]
  let plain := binary.map fun (text, operator) => (text, Lexeme.operator operator)
  let single : List (String × Lexeme) := [
    ("<", .operator .less), (">", .operator .greater), ("=", .assign none), ("!", .not),
    ("~", .complement), ("?", .question), (":", .colon), ("(", .opening), (")", .closing)]
  (assigning ++ pairs ++ assigningOne ++ plain ++ single).map fun (text, lexeme) =>
    (encode text, lexeme)

/-- The base of the digits at the front of a number, and those digits. A zero
in front makes them octal, and an x behind it hexadecimal. -/
def based (text : Bytes) : Nat × Bytes × Bytes :=
  let isHex (b : UInt8) : Bool := (hexValue? b).isSome
  let cut (holds : UInt8 → Bool) (text : Bytes) : Bytes × Bytes :=
    (text.takeWhile holds, text.dropWhile holds)
  match text with
  | 0x30 :: x :: rest =>
    if (x = 0x78 || x = 0x58) && rest.head?.any isHex then (16, cut isHex rest)
    else (8, cut (fun b => 0x30 ≤ b && b ≤ 0x37) text)
  | text => (10, cut isDigit text)

/-- The number that digits of a base spell. -/
def digitsValue (base : Nat) (digits : Bytes) : Nat :=
  digits.foldl (fun n b => base * n + (hexValue? b).getD 0) 0

def least : Int := -9223372036854775808

def greatest : Int := 9223372036854775807

/-- Cuts an expression into its units. -/
def lexemes : Nat → Bytes → List Lexeme
  | 0, _ => []
  | _ + 1, [] => []
  | fuel + 1, b :: rest =>
    let text := b :: rest
    if b = 0x20 || b = 9 || b = 10 then lexemes fuel rest
    else if isDigit b then
      let (base, digits, after) := based text
      .number (min (digitsValue base digits) greatest) :: lexemes fuel after
    else if startsName b then
      let name := leadingName text
      .name name :: lexemes fuel (text.drop name.length)
    else
      match marks.find? fun mark => mark.1.isPrefixOf text with
      | some (mark, lexeme) => lexeme :: lexemes fuel (text.drop mark.length)
      -- What follows an octet without meaning is not looked at.
      | none => [.stray]

/-- The number that the value of a variable spells; nothing counts as zero. -/
def valueOf (text : Bytes) : Act Int :=
  let isSpace (b : UInt8) : Bool := b = 0x20 || (9 ≤ b && b ≤ 13)
  let trimmed := text.dropWhile isSpace
  let (isNegative, digits) := match trimmed with
    | 0x2D :: rest => (true, rest)
    | 0x2B :: rest => (false, rest)
    | rest => (false, rest)
  let (base, digits, after) := based digits
  let size : Int := digitsValue base digits
  let number := if isNegative then -size else size
  if digits.isEmpty then
    if text.all isSpace then return 0 else Act.badNumber text
  else if !(after.all isSpace) || number < least || greatest < number then Act.badNumber text
  else return number

/-- Reading an expression. -/
abbrev Sum := StateT (List Lexeme) Act

section

-- The whole expression, for messages.
variable (text : Bytes)

def fault {α : Type} (what : String) : Sum α :=
  Act.fail (encode ("arithmetic expression: " ++ what ++ ": \"") ++ text ++ [0x22])

def look : Sum Lexeme := do
  return (← get).headD .finish

def skip : Sum Unit :=
  modify (·.drop 1)

/-- An operator on two numbers. -/
def combine (operator : Operator) (a b : Int) : Sum Int := do
  if (operator = .div || operator = .rem) && b = 0 then fault text "division by zero"
  -- The one quotient that is too large stops the process.
  if (operator = .div || operator = .rem) && a = least && b = -1 then throw (.killed 8)
  return operator.apply a b

def variableValue (name : Bytes) : Sum Int := do
  let scope ← Act.scope
  valueOf ((scope.value? name).getD [])

mutual

/-- Reads an expression. Nothing in it has an effect if it is `idle`. -/
def expression (fuel : Nat) (idle : Bool) : Sum Int :=
  match fuel with
  | 0 => fault text "expecting primary"
  | fuel + 1 => do
    match ← get with
    | .name name :: .assign operator :: rest =>
      set rest
      let result ← expression fuel idle
      if idle then return result
      else
        let result ← match operator with
          | some operator => combine text operator (← variableValue name) result
          | none => pure result
        Act.setVariable name (some (encode (toString result)))
        return result
    | _ => choice fuel idle
termination_by structural fuel

def choice (fuel : Nat) (idle : Bool) : Sum Int :=
  match fuel with
  | 0 => fault text "expecting primary"
  | fuel + 1 => do
    let condition ← alternative fuel idle
    match ← look with
    | .question =>
      skip
      let first ← expression fuel (idle || condition = 0)
      match ← look with
      | .colon =>
        skip
        let second ← choice fuel (idle || condition != 0)
        return if condition != 0 then first else second
      | _ => fault text "expecting ':'"
    | _ => return condition
termination_by structural fuel

def alternative (fuel : Nat) (idle : Bool) : Sum Int :=
  match fuel with
  | 0 => fault text "expecting primary"
  | fuel + 1 => do
    let first ← conjunction fuel idle
    match ← look with
    | .either =>
      skip
      let second ← alternative fuel (idle || first != 0)
      return ofBool (first != 0 || second != 0)
    | _ => return first
termination_by structural fuel

def conjunction (fuel : Nat) (idle : Bool) : Sum Int :=
  match fuel with
  | 0 => fault text "expecting primary"
  | fuel + 1 => do
    let first ← primary fuel idle
    let first ← operation fuel idle outerRank first
    match ← look with
    | .both =>
      skip
      let second ← conjunction fuel (idle || first = 0)
      return ofBool (first != 0 && second != 0)
    | _ => return first
termination_by structural fuel

/-- Goes on with operators that bind closer than a rank. -/
def operation (fuel : Nat) (idle : Bool) (rank : Nat) (first : Int) : Sum Int :=
  match fuel with
  | 0 => fault text "expecting primary"
  | fuel + 1 => do
    match ← look with
    | .operator operator =>
      if rank ≤ operator.rank then return first
      else
        skip
        let second ← primary fuel idle
        let second ← operation fuel idle operator.rank second
        let result ← if idle then pure second else combine text operator first second
        operation fuel idle rank result
    | _ => return first
termination_by structural fuel

def primary (fuel : Nat) (idle : Bool) : Sum Int :=
  match fuel with
  | 0 => fault text "expecting primary"
  | fuel + 1 => do
    match ← look with
    | .opening =>
      skip
      let result ← expression fuel idle
      match ← look with
      | .closing =>
        skip
        return result
      | _ => fault text "expecting ')'"
    | .number n =>
      skip
      return n
    | .name name =>
      skip
      if idle then return 0 else variableValue name
    | .operator .add =>
      skip
      primary fuel idle
    | .operator .sub =>
      skip
      return wrap (-(← primary fuel idle))
    | .not =>
      skip
      return ofBool ((← primary fuel idle) = 0)
    | .complement =>
      skip
      return -(← primary fuel idle) - 1
    | _ => fault text "expecting primary"
termination_by structural fuel

end

end

/-- The value of an expression. -/
def value (text : Bytes) : Act Int := do
  let found := lexemes (text.length + 1) text
  let (result, rest) ← (expression text (8 * found.length + 16) false).run found
  if rest.isEmpty then return result
  else
    let (result, _) ← (fault text "expecting EOF" : Sum Int).run rest
    return result

end Arithmetic

end Rollout.Posix.Shell
