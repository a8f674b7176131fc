import Rollout.Text.Utf8

/-!
# Quoting

How names are shown in messages and listings, so that each can be told apart
and read back: as a shell would read them, or with escapes as in a program
text. All that is not printable in the first 128 characters counts octet by
octet.
-/

namespace Rollout.Posix

open Rollout.Text (Bytes encode)

def isPrintable (b : UInt8) : Bool :=
  0x20 ≤ b && b ≤ 0x7E

/-- The letter that stands for a control character behind a backslash. -/
def escapeLetter? (b : UInt8) : Option Char :=
  if b = 7 then some 'a'
  else if b = 8 then some 'b'
  else if b = 9 then some 't'
  else if b = 10 then some 'n'
  else if b = 11 then some 'v'
  else if b = 12 then some 'f'
  else if b = 13 then some 'r'
  else none

/-- An octet as three octal digits. -/
def octalDigits (b : UInt8) : Bytes :=
  [0x30 + b / 64, 0x30 + b / 8 % 8, 0x30 + b % 8]

/-- An octet behind a backslash, where it does not stand for itself. -/
def escape? (b : UInt8) : Option Bytes :=
  match escapeLetter? b with
  | some letter => some (0x5C :: encode (String.singleton letter))
  | none => if isPrintable b then none else some (0x5C :: octalDigits b)

namespace Quoting

/-- Octets with escapes; those in `marked` get a backslash as well. -/
def escaped (marked octets : Bytes) : Bytes :=
  octets.flatMap fun b =>
    match escape? b with
    | some text => text
    | none => if b = 0x5C || marked.contains b then [0x5C, b] else [b]

/-- A text between apostrophes, with escapes. -/
def text (octets : Bytes) : Bytes :=
  0x27 :: escaped [0x27] octets ++ [0x27]

/-- A text between double quotes, with escapes. -/
def double (octets : Bytes) : Bytes :=
  0x22 :: escaped [0x22] octets ++ [0x22]

/-- Octets that mean something to a shell wherever they stand. -/
def isShellSpecial (b : UInt8) : Bool :=
  (encode " !\"$&()*;<=>[^\x60|?\\'").contains b

/-- Octets that mean something to a shell at the front of a word, or alone. -/
def isSpecialInFront (octets : Bytes) : Bool :=
  match octets with
  | [0x7B] => true
  | [0x7D] => true
  | b :: _ => b = 0x23 || b = 0x7E
  | [] => false

/-- Whether a shell reads the octets as one plain word. -/
def isPlain (octets : Bytes) : Bool :=
  !octets.isEmpty && !isSpecialInFront octets &&
    octets.all fun b => isPrintable b && !isShellSpecial b

/-- Whether double quotes do for a text with apostrophes: nothing in it means
anything there. -/
def fitsDouble (octets : Bytes) : Bool :=
  let rest := if isSpecialInFront octets then octets.drop 1 else octets
  octets.contains 0x27 && rest.all fun b =>
    isPrintable b && !(encode "!\"#$&()*;<=>?[\\^\x60\x7B|\x7D~").contains b

/-- The octets between apostrophes. Escapes stand in quotes of their own,
marked with a dollar; `inEscapes` says that such quotes are open. -/
def shellBody (inEscapes : Bool) : Bytes → Bytes
  | [] => []
  | b :: rest =>
    if b = 0x27 then encode "'\\''" ++ shellBody false rest
    else
      match escape? b with
      | some text => (if inEscapes then [] else encode "'$'") ++ text ++ shellBody true rest
      | none => (if inEscapes then encode "''" else []) ++ b :: shellBody false rest

/-- A name quoted the way a shell reads it. -/
def shell (octets : Bytes) : Bytes :=
  if fitsDouble octets then 0x22 :: octets ++ [0x22]
  else 0x27 :: shellBody false octets ++ [0x27]

/-- A name quoted the way a shell reads it, where it has to be. -/
def shellIfNeeded (octets : Bytes) : Bytes :=
  if isPlain octets then octets else shell octets

/-- A name in front of a colon: one that has a colon itself is quoted. -/
def front (octets : Bytes) : Bytes :=
  if octets.contains 0x3A then shell octets else shellIfNeeded octets

end Quoting

end Rollout.Posix
