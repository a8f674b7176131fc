import Rollout.Toml.Lexeme

/-!
# Numbers of a TOML text

Integers of 64 bits in four bases, and reals. Of a real only its being one
is kept; one that is too large to be represented is refused.
-/

namespace Rollout.Toml

/-- Reads digits of a class with single underscores between them; the digits
come without the underscores. An underscore without a digit after it is
refused. -/
def digitsFrom (isOne : Char → Bool) (seen : List Char) : Reader (List Char)
  | '_' :: c :: rest => if isOne c then digitsFrom isOne (c :: seen) rest else none
  | ['_'] => none
  | c :: rest =>
    if isOne c then digitsFrom isOne (c :: seen) rest else some (seen.reverse, c :: rest)
  | [] => some (seen.reverse, [])

/-- Reads one or more digits of a class. -/
def digits (isOne : Char → Bool) : Reader (List Char)
  | c :: rest => if isOne c then digitsFrom isOne [c] rest else none
  | [] => none

/-- The sign at the front, as whether it is a minus, and what follows it. -/
def sign : List Char → Bool × List Char
  | '-' :: rest => (true, rest)
  | '+' :: rest => (false, rest)
  | cs => (false, cs)

/-- Reads the digits of a decimal integer: a zero stands alone. -/
def decimalDigits : Reader (List Char)
  | '0' :: rest => some (['0'], rest)
  | cs => digits isDigit cs

/-- An integer where it fits in 64 bits. -/
def fits (n : Int) : Option Int :=
  if -9223372036854775808 ≤ n ∧ n < 9223372036854775808 then some n else none

/-- Reads an integer. -/
def integer : Reader Int
  | '0' :: 'x' :: rest => based 16 isHexDigit rest
  | '0' :: 'o' :: rest => based 8 (fun c => '0' ≤ c && c ≤ '7') rest
  | '0' :: 'b' :: rest => based 2 (fun c => c = '0' || c = '1') rest
  | cs => do
    let (negative, cs) := sign cs
    let (ds, rest) ← decimalDigits cs
    let n ← fits (if negative then -(numeral 10 ds : Int) else numeral 10 ds)
    return (n, rest)
where
  based (base : Nat) (isOne : Char → Bool) : Reader Int := fun cs => do
    let (ds, rest) ← digits isOne cs
    let n ← fits (numeral base ds)
    return (n, rest)

/-- The first magnitude that no double represents: numbers from here on round
past the largest one. -/
def tooLarge : Nat := Nat.pow 2 1024 - Nat.pow 2 970

/-- Whether `mantissa · 10 ^ exponent` rounds past the largest double, where
the mantissa has at most `size` digits. -/
def overflows (mantissa size : Nat) (exponent : Int) : Bool :=
  if mantissa = 0 then false
  -- Far from the limit the exponent alone decides, so that no huge power is computed.
  else if 400 < exponent then true
  else if (size : Int) + exponent < 300 then false
  else if 0 ≤ exponent then tooLarge ≤ mantissa * Nat.pow 10 exponent.toNat
  else tooLarge * Nat.pow 10 (-exponent).toNat ≤ mantissa

/-- Reads the exponent of a real. -/
def exponent : Reader Int
  | c :: rest =>
    if c = 'e' || c = 'E' then do
      let (negative, rest) := sign rest
      let (ds, rest) ← digits isDigit rest
      return (if negative then -(numeral 10 ds : Int) else numeral 10 ds, rest)
    else none
  | [] => none

/-- Reads a real with a fraction or an exponent, or nothing where the text
has neither after the digits. `some none` is a real that is refused. -/
def finite (cs : List Char) : Option (Option (List Char)) :=
  let (negative, cs) := sign cs
  match decimalDigits cs with
  | none => none
  | some (whole, '.' :: rest) =>
    some do
      let (fraction, rest) ← digits isDigit rest
      let (e, rest) ← if startsExponent rest then exponent rest else some (0, rest)
      let ds := whole ++ fraction
      -- Only a positive real can be too large; a negative one becomes minus infinity.
      if !negative && overflows (numeral 10 ds) ds.length (e - fraction.length) then none
      else some rest
  | some (whole, rest) =>
    if startsExponent rest then
      some do
        let (e, rest) ← exponent rest
        if !negative && overflows (numeral 10 whole) whole.length e then none else some rest
    else none
where
  startsExponent : List Char → Bool
    | c :: _ => c = 'e' || c = 'E'
    | [] => false

/-- Reads the words for an infinity and for what is no number. -/
def special (cs : List Char) : Option (List Char) :=
  match (sign cs).2 with
  | 'i' :: 'n' :: 'f' :: rest => some rest
  | 'n' :: 'a' :: 'n' :: rest => some rest
  | _ => none

end Rollout.Toml
