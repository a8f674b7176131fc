import Rollout.Text.Hex

/-!
# Binary fractions

Numbers of a mantissa and a power of two, as the system computes with them:
read from decimal or hexadecimal text to the nearest one of a format, and
written out with any number of digits. Both ways round a half to the even
neighbour.
-/

namespace Rollout.Posix

open Rollout.Text (Bytes encode hexValue?)

/-- The numbers of a format: the size of the mantissa, and the powers of two
of its last bit. -/
structure Format where
  bits : Nat
  least : Int
  most : Int

/-- Numbers of 64 bits. -/
def Format.double : Format := ⟨53, -1074, 971⟩

/-- Numbers of 80 bits. -/
def Format.extended : Format := ⟨64, -16445, 16320⟩

/-- A number of some format. -/
inductive Numeral where
  | finite (negative : Bool) (mantissa : Nat) (exponent : Int)
  | infinite (negative : Bool)
  | undefined (negative : Bool)
  deriving DecidableEq, Repr

/-- A quotient rounded to a whole number; a half goes to the even one. -/
def roundQuotient (num den : Nat) : Nat :=
  let whole := num / den
  let twice := 2 * (num % den)
  if den < twice || (twice = den && whole % 2 = 1) then whole + 1 else whole

/-- A fraction with a power added to its numerator or denominator. -/
def scaled (base : Nat) (power : Int) (num den : Nat) : Nat × Nat :=
  if 0 ≤ power then (num * Nat.pow base power.toNat, den)
  else (num, den * Nat.pow base (-power).toNat)

namespace Format

/-- The number nearest to a fraction, and whether it is out of range: too
large, or too small to be exact. -/
def nearest (format : Format) (negative : Bool) (num den : Nat) : Numeral × Bool :=
  if num = 0 then (.finite negative 0 format.least, false)
  else
    let guess : Int := (Nat.log2 num : Int) - Nat.log2 den - (format.bits - 1 : Nat)
    let (top, bottom) := scaled 2 (-guess) num den
    let exponent := if top < bottom * Nat.pow 2 (format.bits - 1) then guess - 1 else guess
    let exponent := max exponent format.least
    let (top, bottom) := scaled 2 (-exponent) num den
    let mantissa := roundQuotient top bottom
    let (mantissa, exponent) := if mantissa = Nat.pow 2 format.bits then
      (mantissa / 2, exponent + 1) else (mantissa, exponent)
    if format.most < exponent then (.infinite negative, true)
    else
      let small := mantissa < Nat.pow 2 (format.bits - 1)
      (.finite negative mantissa exponent, small && top % bottom != 0)

end Format

def isDigitOctet (b : UInt8) : Bool :=
  0x30 ≤ b && b ≤ 0x39

/-- White space around numbers. -/
def isBlankOctet (b : UInt8) : Bool :=
  b = 0x20 || (9 ≤ b && b ≤ 13)

/-- The number that digits of a base spell. -/
def spelled (base : Nat) (digits : Bytes) : Nat :=
  digits.foldl (fun n b => n * base + (hexValue? b).getD 0) 0

/-- The sign at the front, and what follows. -/
def signOf : Bytes → Bool × Bytes
  | 0x2D :: rest => (true, rest)
  | 0x2B :: rest => (false, rest)
  | bytes => (false, bytes)

/-- Whether octets start with a word in either case. -/
def startsWithWord (word : String) (bytes : Bytes) : Bool :=
  (bytes.take word.length).map (fun b => if 0x41 ≤ b && b ≤ 0x5A then b + 0x20 else b) =
    encode word

namespace Numeral

/-- The largest power of ten that is worth looking at. -/
def powerLimit : Nat := 20000

/-- The power behind a mantissa, if one is there, and what follows. -/
def powerOf (mark : UInt8) (bytes : Bytes) : Int × Bytes :=
  match bytes with
  | b :: rest =>
    let (negative, digits) := signOf rest
    let found := digits.takeWhile isDigitOctet
    if (b = mark || b + 0x20 = mark) && !found.isEmpty then
      let size := min (spelled 10 found) (10 * powerLimit)
      (if negative then -(size : Int) else size, digits.drop found.length)
    else (0, bytes)
  | [] => (0, [])

/-- A number in digits of a base; `step` is the power of `radix` that a digit
stands for. -/
def digitsOf (format : Format) (negative : Bool) (base radix step : Nat) (mark : UInt8)
    (bytes : Bytes) : Option (Numeral × Bool × Bytes) :=
  let isOne (b : UInt8) : Bool := (hexValue? b).any (· < base)
  let whole := bytes.takeWhile isOne
  let behind := bytes.drop whole.length
  let (part, rest) := match behind with
    | 0x2E :: after => (after.takeWhile isOne, after.dropWhile isOne)
    | rest => ([], rest)
  if whole.isEmpty && part.isEmpty then none
  else
    let (power, rest) := powerOf mark rest
    let digits := whole ++ part
    let power := power - (step * part.length : Nat)
    let leading := (digits.dropWhile (· = 0x30)).length
    -- Powers far out of every format are not worked out.
    if leading = 0 then some (.finite negative 0 format.least, false, rest)
    else if (powerLimit : Int) < power + leading then some (.infinite negative, true, rest)
    else if power + leading < -(powerLimit : Int) then
      some (.finite negative 0 format.least, true, rest)
    else
      let (num, den) := scaled radix power (spelled base digits) 1
      let (found, outside) := format.nearest negative num den
      some (found, outside, rest)

/-- The number at the front of a text, whether it is out of the range of its
format, and what follows it. -/
def ofText? (format : Format) (bytes : Bytes) : Option (Numeral × Bool × Bytes) :=
  let (negative, body) := signOf (bytes.dropWhile isBlankOctet)
  if startsWithWord "infinity" body then some (.infinite negative, false, body.drop 8)
  else if startsWithWord "inf" body then some (.infinite negative, false, body.drop 3)
  else if startsWithWord "nan" body then
    let rest := body.drop 3
    let inner := (rest.drop 1).takeWhile fun b =>
      isDigitOctet b || (0x41 ≤ b && b ≤ 0x5A) || (0x61 ≤ b && b ≤ 0x7A) || b = 0x5F
    match rest, (rest.drop 1).drop inner.length with
    | 0x28 :: _, 0x29 :: rest => some (.undefined negative, false, rest)
    | rest, _ => some (.undefined negative, false, rest)
  else
    match body with
    | 0x30 :: x :: rest =>
      match if x = 0x78 || x = 0x58 then digitsOf format negative 16 2 4 0x70 rest else none with
      | some found => some found
      | none => digitsOf format negative 10 10 1 0x65 body
    | _ => digitsOf format negative 10 10 1 0x65 body

def isNegative : Numeral → Bool
  | finite negative .. => negative
  | infinite negative => negative
  | undefined negative => negative

/-- The size of a number as a fraction. -/
def fraction (mantissa : Nat) (exponent : Int) : Nat × Nat :=
  scaled 2 exponent mantissa 1

/-- Digits of a whole number, at least so many. -/
def padded (count n : Nat) : String :=
  let digits := toString n
  String.ofList (List.replicate (count - digits.length) '0') ++ digits

/-- A number with so many decimals. -/
def fixed (places : Nat) (point : Bool) (num den : Nat) : String :=
  let digits := padded (places + 1) (roundQuotient (num * Nat.pow 10 places) den)
  let whole := digits.toList.take (digits.length - places)
  let part := digits.toList.drop (digits.length - places)
  String.ofList (whole ++ (if places > 0 || point then ['.'] else []) ++ part)

/-- The power of ten of the first digit of a fraction. -/
def decimalPower (num den : Nat) : Int :=
  let guess : Int := (toString num).length - (toString den).length
  let (top, bottom) := scaled 10 (-guess) num den
  if top < bottom then guess - 1 else guess

/-- The digits of a number, one in front of the point and so many behind, and
the power of ten; rounding up may take it to the next one. -/
def significant (places : Nat) (num den : Nat) : Nat × Int :=
  if num = 0 then (0, 0)
  else
    let power := decimalPower num den
    let (top, bottom) := scaled 10 ((places : Int) - power) num den
    let digits := roundQuotient top bottom
    if digits = Nat.pow 10 (places + 1) then (digits / 10, power + 1) else (digits, power)

/-- A power with its mark and sign, and at least so many digits. -/
def powerText (mark : String) (count : Nat) (power : Int) : String :=
  mark ++ (if power < 0 then "-" else "+") ++ padded count power.natAbs

/-- A number as a digit, so many decimals and a power of ten. -/
def scientific (places : Nat) (point : Bool) (num den : Nat) : String :=
  let (digits, power) := significant places num den
  let text := (padded (places + 1) digits).toList
  String.ofList (text.take 1 ++ (if places > 0 || point then ['.'] else []) ++ text.drop 1) ++
    powerText "e" 2 power

/-- Decimals without the zeros at their end. -/
def trimmed (text : String) : String :=
  if text.toList.contains '.' then
    let cs := text.toList.reverse.dropWhile (· = '0')
    String.ofList (if cs.head? = some '.' then cs.drop 1 else cs).reverse
  else text

/-- A number with so many digits, in the shorter of both forms. -/
def general (count : Nat) (keep : Bool) (num den : Nat) : String :=
  let count := max count 1
  let power := (significant (count - 1) num den).2
  if -4 ≤ power && power < count then
    let text := fixed ((count : Int) - 1 - power).toNat keep num den
    if keep then text else trimmed text
  else
    let text := scientific (count - 1) keep num den
    if keep then text
    else
      let cs := text.toList
      let mantissa := cs.takeWhile (· != 'e')
      trimmed (String.ofList mantissa) ++ String.ofList (cs.drop mantissa.length)

def hexText (count n : Nat) : String :=
  let digits := String.ofList (Nat.toDigits 16 n)
  String.ofList (List.replicate (count - digits.length) '0') ++ digits

/-- A number in hexadecimal with a power of two. The first digit holds `lead`
bits of the mantissa. -/
def hexadecimal (format : Format) (places : Option Nat) (point : Bool) (mantissa : Nat)
    (exponent : Int) : String :=
  let lead := (format.bits - 1) % 4 + 1
  let behind := (format.bits - lead) / 4
  let start := exponent + (format.bits - lead : Nat)
  let power := if mantissa = 0 then 0 else start
  let shown := match places with
    | some count =>
      if count < behind then
        roundQuotient mantissa (Nat.pow 16 (behind - count)) * Nat.pow 16 (behind - count)
      else mantissa
    | none => mantissa
  let first := shown / Nat.pow 16 behind
  -- A carry out of the first digit moves on to the next power.
  let (first, power) := if 16 ≤ first then (first / 16, power + 4) else (first, power)
  let part := (hexText behind (shown % Nat.pow 16 behind)).toList
  let part := match places with
    | some count => part.take count ++ List.replicate (count - part.length) '0'
    | none => (part.reverse.dropWhile (· = '0')).reverse
  hexText 1 first ++ String.ofList ((if !part.isEmpty || point then ['.'] else []) ++ part) ++
    powerText "p" 1 power

end Numeral

end Rollout.Posix
