import Rollout.Posix.Numeral

/-!
# Formatted printing

Conversions and escapes as the shell's own printing commands and the programs
of the same names have them. The two differ in a few escapes, in the numbers
they compute with and in what they say; a dialect holds those decisions.
-/

namespace Rollout.Posix

open Rollout.Text (Bytes encode hexValue?)

/-- The flags, width and precision of a conversion. -/
structure Spec where
  left : Bool := false
  zero : Bool := false
  plus : Bool := false
  space : Bool := false
  alternate : Bool := false
  width : Nat := 0
  precision : Option Nat := none

namespace Spec

/-- A conversion with one more flag, where a character is one. -/
def flag? (spec : Spec) : Char → Option Spec
  | '-' => some { spec with left := true }
  | '0' => some { spec with zero := true }
  | '+' => some { spec with plus := true }
  | ' ' => some { spec with space := true }
  | '#' => some { spec with alternate := true }
  | _ => none

/-- Octets filled up with blanks to the width of a conversion. -/
def pad (spec : Spec) (bytes : Bytes) : Bytes :=
  let fill := List.replicate (spec.width - bytes.length) 0x20
  if spec.left then bytes ++ fill else fill ++ bytes

/-- A text conversion. -/
def text (spec : Spec) (bytes : Bytes) : Bytes :=
  spec.pad (match spec.precision with
    | some count => bytes.take count
    | none => bytes)

/-- A mark and digits, with zeros between them up to the width if `filled`. -/
def marked (spec : Spec) (filled : Bool) (mark digits : String) : Bytes :=
  let zeros := if filled && !spec.left then spec.width - mark.length - digits.length else 0
  spec.pad (encode (mark ++ String.ofList (List.replicate zeros '0') ++ digits))

/-- An integer conversion of a magnitude with a mark in front. -/
def integer (spec : Spec) (mark digits : String) : Bytes :=
  match spec.precision with
  | some count =>
    -- Without any digits to show, zero shows none.
    let digits := if digits = "0" then "" else digits
    spec.marked false mark (String.ofList (List.replicate (count - digits.length) '0') ++ digits)
  | none => spec.marked spec.zero mark digits

def signMark (spec : Spec) (negative : Bool) : String :=
  if negative then "-" else if spec.plus then "+" else if spec.space then " " else ""

def signed (spec : Spec) (n : Int) : Bytes :=
  spec.integer (spec.signMark (n < 0)) (toString n.natAbs)

/-- An unsigned conversion by its letter. -/
def unsigned (spec : Spec) (letter : Char) (n : Nat) : Bytes :=
  if letter = 'o' then
    let digits := String.ofList (Nat.toDigits 8 n)
    -- The mark of an octal number is a zero in front, unless one is there already.
    if spec.alternate && n != 0 && spec.precision.getD 0 ≤ digits.length then
      { spec with precision := spec.precision.map fun _ => 0 }.integer "" ("0" ++ digits)
    else if spec.alternate && n = 0 && spec.precision == some 0 then spec.marked false "" "0"
    else spec.integer "" digits
  else if letter = 'x' || letter = 'X' then
    let digits := String.ofList (Nat.toDigits 16 n)
    let mark := if spec.alternate && n != 0 then "0x" else ""
    if letter = 'X' then spec.integer mark.toUpper digits.toUpper else spec.integer mark digits
  else spec.integer "" (toString n)

/-- A conversion of a binary fraction by its letter. -/
def real (spec : Spec) (format : Format) (letter : Char) (numeral : Numeral) : Bytes :=
  let case (text : String) : String := if letter.isUpper then text.toUpper else text
  let sign := spec.signMark numeral.isNegative
  match numeral with
  | .infinite _ => spec.marked false sign (case "inf")
  | .undefined _ => spec.marked false sign (case "nan")
  | .finite _ mantissa exponent =>
    let (num, den) := Numeral.fraction mantissa exponent
    let places := spec.precision.getD 6
    match letter.toLower with
    | 'f' => spec.marked spec.zero sign (Numeral.fixed places spec.alternate num den)
    | 'e' => spec.marked spec.zero sign (case (Numeral.scientific places spec.alternate num den))
    | 'g' => spec.marked spec.zero sign (case (Numeral.general places spec.alternate num den))
    | _ =>
      let digits := Numeral.hexadecimal format spec.precision spec.alternate mantissa exponent
      spec.marked spec.zero (sign ++ case "0x") (case digits)

end Spec

/-- What is said of an argument, while printing goes on. -/
inductive Complaint where
  | noNumber (arg : Bytes)
  | trailing (arg : Bytes)
  | outOfRange (arg : Bytes)
  /-- Octets behind a character that stands for its number. -/
  | behindCharacter (rest : Bytes)

/-- What ends printing. -/
inductive Obstacle where
  | badDirective (text : Bytes)
  | noLetter
  | noHexDigits
  /-- A character that has no name of this form. -/
  | badCharacter (letter : Char) (digits : Nat) (number : Nat)
  | badWidth (arg : Bytes)
  | badPrecision (arg : Bytes)
  /-- A conversion that would come to more than can be counted. -/
  | tooLong

/-- The decisions in which printing commands differ. -/
structure Dialect where
  /-- The numbers that fractions are computed with. -/
  format : Format
  /-- More escapes and conversions are known, and an escape may end all output
  in a format too. -/
  extended : Bool
  /-- The words of a complaint. -/
  say : Complaint → Bytes

/-- What an escape comes to, with what follows it. -/
inductive Escape where
  | octets (found : Bytes) (rest : Bytes)
  /-- All output ends. -/
  | stop
  | obstacle (obstacle : Obstacle)

def isOctal (b : UInt8) : Bool :=
  0x30 ≤ b && b ≤ 0x37

/-- The octet of a one letter escape. -/
def letterEscape? (letter : Char) (extended : Bool) : Option UInt8 :=
  match letter with
  | '\\' => some 0x5C
  | 'a' => some 7
  | 'b' => some 8
  | 'f' => some 12
  | 'n' => some 10
  | 'r' => some 13
  | 't' => some 9
  | 'v' => some 11
  | 'e' => some 27
  | '\x22' => if extended then some 0x22 else none
  | _ => none

/-- Up to `count` octal digits at the front as one octet, and what follows. -/
def octal (count : Nat) (bytes : Bytes) : UInt8 × Bytes :=
  let digits := (bytes.take count).takeWhile isOctal
  (UInt8.ofNat (spelled 8 digits), bytes.drop digits.length)

/-- A character by its number, as it shows where only the first 128 do. -/
def characterText (number : Nat) : Bytes :=
  if number < 0x80 then [UInt8.ofNat number]
  else if number < 0x10000 then encode ("\\u" ++ (Numeral.hexText 4 number).toUpper)
  else encode ("\\U" ++ (Numeral.hexText 8 number).toUpper)

/-- A character named by so many hexadecimal digits. -/
def namedCharacter (letter : Char) (count : Nat) (rest : Bytes) : Escape :=
  let digits := (rest.take count).takeWhile fun b => (hexValue? b).isSome
  let number := spelled 16 digits
  if digits.length < count then .obstacle .noHexDigits
  else if (number ≤ 0x9F && number != 0x24 && number != 0x40 && number != 0x60) ||
      (0xD800 ≤ number && number ≤ 0xDFFF) then
    .obstacle (.badCharacter letter count number)
  else .octets (characterText number) (rest.drop count)

/-- An escape, the backslash behind. -/
def escaped (dialect : Dialect) (inArgument : Bool) : Bytes → Escape
  | [] => .octets [0x5C] []
  | b :: rest =>
    let letter := Char.ofUInt8 b
    if letter = 'c' && (inArgument || dialect.extended) then .stop
    else if isOctal b then
      let skipped := if inArgument && letter = '0' && (dialect.extended || rest.head?.any isOctal)
        then rest else b :: rest
      let (octet, rest) := octal 3 skipped
      .octets [octet] rest
    else if letter = 'x' && dialect.extended then
      let digits := (rest.take 2).takeWhile fun b => (hexValue? b).isSome
      if digits.isEmpty then .obstacle .noHexDigits
      else .octets [UInt8.ofNat (spelled 16 digits)] (rest.drop digits.length)
    else if letter = 'u' && dialect.extended then namedCharacter 'u' 4 rest
    else if letter = 'U' && dialect.extended then namedCharacter 'U' 8 rest
    else
      match letterEscape? letter dialect.extended with
      | some octet => .octets [octet] rest
      | none => if dialect.extended then .octets [0x5C, b] rest else .octets [0x5C] (b :: rest)

/-- An argument with its escapes replaced, and how that ended. -/
def unescape (dialect : Dialect) (bytes : Bytes) : Bytes × Option Escape :=
  go bytes.length [] bytes
where
  go : Nat → Bytes → Bytes → Bytes × Option Escape
    | _, seen, [] => (seen.reverse, none)
    | 0, seen, rest => (seen.reverse ++ rest, none)
    | fuel + 1, seen, b :: rest =>
      if b = 0x5C then
        match escaped dialect true rest with
        | .octets octets rest => go fuel (octets.reverse ++ seen) rest
        | ended => (seen.reverse, some ended)
      else go fuel (b :: seen) rest

/-- The whole number at the front of an argument, and what follows it. -/
def leadingInteger (bytes : Bytes) : Option (Int × Bytes) :=
  let (negative, bytes) := signOf (bytes.dropWhile isBlankOctet)
  let (base, body) := match bytes with
    | 0x30 :: x :: d :: rest =>
      if (x = 0x78 || x = 0x58) && (hexValue? d).isSome then (16, d :: rest)
      else (8, bytes)
    | 0x30 :: _ => (8, bytes)
    | _ => (10, bytes)
  let digits := body.takeWhile fun b => (hexValue? b).any (· < base)
  if digits.isEmpty then none
  else
    let n : Int := spelled base digits
    some (if negative then -n else n, body.drop digits.length)

/-- The largest number of 64 bits with a sign. -/
def largest : Int := 9223372036854775807

/-- A number held within 64 bits with a sign, and whether it was outside. -/
def clampSigned (n : Int) : Int × Bool :=
  if largest < n then (largest, true)
  else if n < -largest - 1 then (-largest - 1, true)
  else (n, false)

/-- A number held within 64 bits without a sign; a negative one counts down
from the end. -/
def clampUnsigned (n : Int) : Int × Bool :=
  let limit := 2 * largest + 1
  if limit < n || n < -limit then (limit, true) else (n % (limit + 1), false)

/-- What printing has come to: the output and the complaints, each part with
its descriptor and the last one first, the arguments left, and whether all
output ended. -/
structure Printing where
  parts : List (Nat × Bytes) := []
  args : List Bytes
  used : Bool := false
  stopped : Bool := false
  /-- A complaint was one that makes the command fail. -/
  failed : Bool := false
  /-- A conversion was left out that would have come to more than can be
  counted. -/
  broken : Bool := false

namespace Printing

def emit (printing : Printing) (octets : Bytes) : Printing :=
  { printing with parts := (1, octets) :: printing.parts }

def complain (printing : Printing) (octets : Bytes) (failing : Bool) : Printing :=
  { printing with
    parts := (2, octets) :: printing.parts
    failed := printing.failed || failing }

/-- All that was written to a descriptor. -/
def written (printing : Printing) (descriptor : Nat) : Bytes :=
  (printing.parts.reverse.filter (·.1 = descriptor)).flatMap Prod.snd

/-- Takes the next argument. -/
def take (printing : Printing) : Option Bytes × Printing :=
  match printing.args with
  | [] => (none, printing)
  | arg :: args => (some arg, { printing with args, used := true })

/-- Complains of an argument that is no number as a whole. -/
def judge (dialect : Dialect) (arg : Bytes) (found : Option Bytes) (outside : Bool)
    (printing : Printing) : Printing :=
  let complain (complaint : Complaint) : Printing := printing.complain (dialect.say complaint) true
  match found with
  | none => if arg.isEmpty then printing else complain (.noNumber arg)
  | some rest =>
    -- The two commands look for the two faults in opposite order.
    if outside && (dialect.extended || rest.isEmpty) then complain (.outOfRange arg)
    else if rest.isEmpty then printing
    else complain (.trailing arg)

/-- The number of an octet behind a quote, where an argument is one. -/
def character? (dialect : Dialect) (arg : Bytes) : Option (Nat × Bytes) :=
  match arg with
  | 0x22 :: rest => found rest
  | 0x27 :: rest => found rest
  | _ => none
where
  found : Bytes → Option (Nat × Bytes)
    | [] => if dialect.extended then none else some (0, [])
    | b :: rest => some (b.toNat, if dialect.extended then rest else [])

/-- Takes the next argument as a whole number, held within a range. -/
def takeInteger (dialect : Dialect) (clamp : Int → Int × Bool) (printing : Printing) :
    Int × Printing :=
  match printing.take with
  | (none, printing) => (0, printing)
  | (some arg, printing) =>
    match character? dialect arg with
    | some (n, rest) =>
      (n, if rest.isEmpty then printing
        else printing.complain (dialect.say (.behindCharacter rest)) false)
    | none =>
      match leadingInteger arg with
      | none => (0, judge dialect arg none false printing)
      | some (n, rest) =>
        let (n, outside) := clamp n
        (n, judge dialect arg (some rest) outside printing)

/-- Takes the next argument as a binary fraction. -/
def takeReal (dialect : Dialect) (printing : Printing) : Numeral × Printing :=
  let zero : Numeral := .finite false 0 dialect.format.least
  match printing.take with
  | (none, printing) => (zero, printing)
  | (some arg, printing) =>
    match character? dialect arg with
    | some (n, rest) =>
      ((dialect.format.nearest false n 1).1, if rest.isEmpty then printing
        else printing.complain (dialect.say (.behindCharacter rest)) false)
    | none =>
      match Numeral.ofText? dialect.format arg with
      | none => (zero, judge dialect arg none false printing)
      | some (found, outside, rest) => (found, judge dialect arg (some rest) outside printing)

end Printing

/-- How a step of printing ended. -/
abbrev Printed := Printing × Option Obstacle

/-- Puts out the argument of a conversion with its escapes replaced. -/
def emitUnescaped (dialect : Dialect) (spec : Spec) (printing : Printing) : Printed :=
  let (arg, printing) := printing.take
  match unescape dialect (arg.getD []) with
  | (octets, none) => (printing.emit (spec.text octets), none)
  | (octets, some (.obstacle obstacle)) => (printing.emit octets, some obstacle)
  | (octets, some _) => ({ printing.emit (spec.text octets) with stopped := true }, none)

/-- Performs one conversion, and gives the text of it; nothing for a letter that
is none. -/
def convert (dialect : Dialect) (spec : Spec) (letter : Char) (printing : Printing) :
    Option (Printing × Bytes) :=
  match letter with
  | 's' =>
    let (arg, printing) := printing.take
    some (printing, spec.text (arg.getD []))
  | 'c' =>
    let (arg, printing) := printing.take
    some (printing, spec.pad [((arg.getD []).head?).getD 0])
  | 'd' | 'i' =>
    let (n, printing) := printing.takeInteger dialect clampSigned
    some (printing, spec.signed n)
  | 'u' | 'o' | 'x' | 'X' =>
    let (n, printing) := printing.takeInteger dialect clampUnsigned
    some (printing, spec.unsigned letter n.toNat)
  | 'a' | 'A' | 'e' | 'E' | 'f' | 'F' | 'g' | 'G' =>
    let (n, printing) := printing.takeReal dialect
    some (printing, spec.real dialect.format letter n)
  | _ => none

/-- The letters that a conversion with these flags may have. -/
def admits (flags : List Char) (precise : Bool) (letter : Char) : Bool :=
  let not (letters : String) : Bool := !letters.toList.contains letter
  (!(flags.contains '\x27' || flags.contains 'I') || not "aAceEosxX") &&
    (!flags.contains '#' || not "cdisu") && (!flags.contains '0' || not "cs") &&
    (!precise || letter != 'c')

/-- The largest width and precision. -/
def widthLimit : Int := 2147483647

/-- The flags at the front, each one that was seen, and what follows. -/
def flags (dialect : Dialect) (spec : Spec) (seen : List Char) : Bytes → Spec × List Char × Bytes
  | [] => (spec, seen, [])
  | b :: rest =>
    let c := Char.ofUInt8 b
    match spec.flag? c with
    | some spec => flags dialect spec (c :: seen) rest
    | none =>
      if dialect.extended && (c = '\x27' || c = 'I') then flags dialect spec (c :: seen) rest
      else (spec, seen, b :: rest)

/-- Reads a decimal number, or a star that takes an argument; the argument
comes with it. In the shorter dialect such a number is cut to 32 bits. -/
def count (dialect : Dialect) (bytes : Bytes) (printing : Printing) :
    Int × Bytes × Printing × Option Bytes :=
  match bytes with
  | 0x2A :: rest =>
    let (n, after) := printing.takeInteger dialect clampSigned
    (if dialect.extended then n else n.bmod (2 * (widthLimit.toNat + 1)), rest, after,
      some (printing.args.headD []))
  | _ =>
    let digits := bytes.takeWhile isDigitOctet
    (spelled 10 digits, bytes.drop digits.length, printing, none)

/-- Reads the letter of a directive and carries it out; `excess` tells that it
would go too far. -/
def obey (dialect : Dialect) (spec : Spec) (seen : List Char) (precise excess : Bool)
    (text after : Bytes) (printing : Printing) : Printed × Bytes :=
  let after := if dialect.extended then
      after.dropWhile fun b => (encode "lLhjtz").contains b
    else after
  match after with
  | [] =>
    ((printing, some (if dialect.extended then .badDirective (0x25 :: text) else .noLetter)), after)
  | b :: rest =>
    let letter := Char.ofUInt8 b
    let bad : Printed × Bytes :=
      ((printing, some (.badDirective (0x25 :: text.take (text.length - rest.length)))), rest)
    if letter = 'b' && !dialect.extended then
      (if excess then (printing, some .tooLong) else emitUnescaped dialect spec printing, rest)
    else if dialect.extended && !admits seen precise letter then bad
    else
      match convert dialect (if excess then {} else spec) letter printing with
      | some (printing, octets) =>
        if !excess then ((printing.emit octets, none), rest)
        else if dialect.extended then (({ printing with broken := true }, none), rest)
        else ((printing, some .tooLong), rest)
      | none => bad

/-- Reads a directive, its mark behind, and carries it out. -/
def directive (dialect : Dialect) (text : Bytes) (printing : Printing) : Printed × Bytes :=
  let (spec, seen, after) := flags dialect {} [] text
  let (width, after, printing, given) := count dialect after printing
  let isWide := widthLimit < width.natAbs
  if let (some arg, true) := (given, isWide && width != -widthLimit - 1) then
    ((printing, some (.badWidth arg)), after)
  else
    let spec := { spec with left := spec.left || width < 0, width := width.natAbs }
    match after with
    | 0x2E :: after =>
      let (n, after, printing, given) := count dialect after printing
      match given, decide (widthLimit < n) with
      | some arg, true => ((printing, some (.badPrecision arg)), after)
      | _, isLong =>
        obey dialect { spec with precision := if n < 0 then none else some n.toNat } seen true
          (isWide || isLong) text after printing
    | _ => obey dialect spec seen false isWide text after printing

/-- Goes once through a format. -/
def formatOnce (dialect : Dialect) (quote : Bytes → Bytes) : Nat → Bytes → Printing → Printed
  | 0, _, printing => (printing, none)
  | _ + 1, [], printing => (printing, none)
  | fuel + 1, b :: rest, printing =>
    let goOn (step : Printed) (rest : Bytes) : Printed :=
      match step with
      | (printing, none) =>
        if printing.stopped then step else formatOnce dialect quote fuel rest printing
      | step => step
    if b = 0x5C then
      match escaped dialect false rest with
      | .octets octets rest => formatOnce dialect quote fuel rest (printing.emit octets)
      | .stop => ({ printing with stopped := true }, none)
      | .obstacle obstacle => (printing, some obstacle)
    else if b != 0x25 then formatOnce dialect quote fuel rest (printing.emit [b])
    else
      match rest with
      | 0x25 :: rest => formatOnce dialect quote fuel rest (printing.emit [b])
      | letter :: after =>
        -- Two conversions of the longer dialect take no flags at all.
        if dialect.extended && letter = 0x62 then goOn (emitUnescaped dialect {} printing) after
        else if dialect.extended && letter = 0x71 then
          let (arg, printing) := printing.take
          goOn (printing.emit (arg.elim [] quote), none) after
        else
          let (step, after) := directive dialect rest printing
          goOn step after
      | [] =>
        let (step, after) := directive dialect rest printing
        goOn step after

/-- Goes through a format until all arguments are used. -/
def formatAll (dialect : Dialect) (quote : Bytes → Bytes) (format : Bytes) :
    Nat → Printing → Printed
  | 0, printing => (printing, none)
  | fuel + 1, printing =>
    match formatOnce dialect quote (format.length + 1) format { printing with used := false } with
    | (printing, some obstacle) => (printing, some obstacle)
    | (printing, none) =>
      if printing.stopped || printing.args.isEmpty || !printing.used then (printing, none)
      else formatAll dialect quote format fuel printing

/-- Prints arguments through a format; `quote` shows an argument as a name. -/
def print (dialect : Dialect) (quote : Bytes → Bytes) (format : Bytes) (args : List Bytes) :
    Printed :=
  formatAll dialect quote format (args.length + 1) { args }

end Rollout.Posix
