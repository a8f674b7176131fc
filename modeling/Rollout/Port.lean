import Rollout.Config

/-!
# Reading ports

A port is read from text in two ways. An environment entry holds digits
after an optional plus. A flag holds any number of 64 bits, which must then
be in range, so that its faults are told apart.
-/

namespace Rollout.Port

def isDigit (c : Char) : Bool :=
  '0' ≤ c && c ≤ '9'

/-- The number that decimal digits spell. -/
def numeral (digits : List Char) : Nat :=
  digits.foldl (fun n c => n * 10 + (c.toNat - 48)) 0

/-- The port with this number. -/
def ofInt? (n : Int) : Option Port :=
  if 0 ≤ n ∧ n < 65536 then some (UInt16.ofNat n.toNat) else none

/-- The port that one or more digits spell. -/
def ofDigits? (digits : List Char) : Option Port :=
  if digits ≠ [] ∧ digits.all isDigit then ofInt? (numeral digits) else none

/-- Reads a port of an optional plus and digits. -/
def ofText? (text : String) : Option Port :=
  match text.toList with
  | '+' :: digits => ofDigits? digits
  | digits => ofDigits? digits

/-- What keeps a text from being a port. -/
inductive Fault where
  | empty
  | notDigit
  | tooLarge
  | tooSmall
  /-- A number that is no port, as it is written without needless signs and
  zeros. -/
  | outOfRange (number : Int)
  deriving DecidableEq, Repr

namespace Fault

def message : Fault → String
  | empty => "cannot parse integer from empty string"
  | notDigit => "invalid digit found in string"
  | tooLarge => "number too large to fit in target type"
  | tooSmall => "number too small to fit in target type"
  | outOfRange number => toString number ++ " is not in 0..=65535"

end Fault

/-- The largest magnitude of a 64 bit number of this sign. -/
def magnitudeLimit (negative : Bool) : Nat :=
  if negative then 9223372036854775808 else 9223372036854775807

/-- Reads the magnitude of a number of 64 bits from left to right, so that of
two faults the first one counts. -/
def magnitudeFrom (negative : Bool) (n : Nat) : List Char → Except Fault Nat
  | [] => .ok n
  | c :: rest =>
    if isDigit c then
      let m := n * 10 + (c.toNat - 48)
      -- The limit is checked at every digit, so a bad character behind it is not reached.
      if m ≤ magnitudeLimit negative then magnitudeFrom negative m rest
      else .error (if negative then .tooSmall else .tooLarge)
    else .error .notDigit

/-- Reads the digits of a number; at least one has to be there. -/
def signed (negative : Bool) (digits : List Char) : Except Fault Int :=
  if digits.isEmpty then .error .notDigit
  else (magnitudeFrom negative 0 digits).map fun n => if negative then -(n : Int) else n

/-- Reads a number of 64 bits. -/
def integer (text : String) : Except Fault Int :=
  match text.toList with
  | [] => .error .empty
  | '+' :: digits => signed false digits
  | '-' :: digits => signed true digits
  | digits => signed false digits

/-- Reads a port from the value of a flag. -/
def ofFlag (text : String) : Except Fault Port :=
  match integer text with
  | .error fault => .error fault
  | .ok n =>
    match ofInt? n with
    | some port => .ok port
    | none => .error (.outOfRange n)

end Rollout.Port
