import Rollout.Toml.Lexeme

/-!
# Strings of a TOML text

The four kinds of strings: in quotes with escapes or in apostrophes without,
each on one line or, with three delimiters, on many.
-/

namespace Rollout.Toml

/-- Reads the character of a number in `count` hexadecimal digits. -/
def scalar (count : Nat) : Reader Char := fun cs =>
  let digits := cs.take count
  let n := numeral 16 digits
  if digits.length = count ∧ digits.all isHexDigit ∧ n.isValidChar then
    some (Char.ofNat n, cs.drop count)
  else none

/-- Reads what follows the backslash of an escape. -/
def escape : Reader Char
  | 'b' :: rest => some ('\x08', rest)
  | 't' :: rest => some ('\t', rest)
  | 'n' :: rest => some ('\n', rest)
  | 'f' :: rest => some ('\x0C', rest)
  | 'r' :: rest => some ('\r', rest)
  | '\x22' :: rest => some (quote, rest)
  | '\\' :: rest => some (backslash, rest)
  | 'u' :: rest => scalar 4 rest
  | 'U' :: rest => scalar 8 rest
  | _ => none

/-- Reads a string in quotes from after its first quote; `seen` holds its
characters so far, last first. -/
def quotedFrom (seen : List Char) : Nat → Reader String
  | 0, _ => none
  | _ + 1, [] => none
  | fuel + 1, c :: rest =>
    if c = quote then some (String.ofList seen.reverse, rest)
    else if c = backslash then
      match escape rest with
      | some (d, rest) => quotedFrom (d :: seen) fuel rest
      | none => none
    else if isPrintable c then quotedFrom (c :: seen) fuel rest
    else none

/-- Reads a string in apostrophes from after its first apostrophe. -/
def literal : Reader String := fun cs =>
  let body := cs.takeWhile fun c => isPrintable c && c ≠ apostrophe
  match cs.drop body.length with
  | '\x27' :: rest => some (String.ofList body, rest)
  | _ => none

/-- How many delimiters stand at the front. -/
def runLength (delimiter : Char) (cs : List Char) : Nat :=
  (cs.takeWhile (· = delimiter)).length

/-- What follows an escaped line end: the backslash is behind, and every
blank and line end up to the next character is passed over. -/
def escapedNewline? (cs : List Char) : Option (List Char) :=
  (newline? (skipSpaces cs)).map fun rest =>
    let rec skip : Nat → List Char → List Char
      | 0, cs => cs
      | fuel + 1, cs =>
        let cs := skipSpaces cs
        match newline? cs with
        | some rest => skip fuel rest
        | none => cs
    skip rest.length rest

/-- Reads a string of many lines from after its opening delimiters. Up to two
delimiters may stand anywhere in it, also right before the closing three. -/
def linesFrom (delimiter : Char) (escapes : Bool) (seen : List Char) : Nat → Reader String
  | 0, _ => none
  | _ + 1, [] => none
  | fuel + 1, c :: rest =>
    if c = delimiter then
      -- Fewer than three delimiters are text; of more, up to two belong to the text.
      let count := runLength delimiter (c :: rest)
      if count < 3 then
        linesFrom delimiter escapes (List.replicate count delimiter ++ seen) fuel
          (rest.drop (count - 1))
      else
        let inner := min (count - 3) 2
        some (String.ofList (seen.reverse ++ List.replicate inner delimiter),
          rest.drop (inner + 2))
    else if escapes && c = backslash then
      match escapedNewline? rest with
      | some rest => linesFrom delimiter escapes seen fuel rest
      | none =>
        match escape rest with
        | some (d, rest) => linesFrom delimiter escapes (d :: seen) fuel rest
        | none => none
    else
      match newline? (c :: rest) with
      | some rest => linesFrom delimiter escapes ('\n' :: seen) fuel rest
      | none => if isPrintable c then linesFrom delimiter escapes (c :: seen) fuel rest else none

/-- The text after the line end that may follow opening delimiters. -/
def afterOpening (cs : List Char) : List Char :=
  (newline? cs).getD cs

/-- Reads a string on one line, as keys and values have it. -/
def lineString : Reader String
  | '\x22' :: rest => quotedFrom [] (rest.length + 1) rest
  | '\x27' :: rest => literal rest
  | _ => none

/-- Reads a string of any kind. -/
def string : Reader String
  | '\x22' :: '\x22' :: '\x22' :: rest =>
    linesFrom quote true [] (rest.length + 1) (afterOpening rest)
  | '\x27' :: '\x27' :: '\x27' :: rest =>
    linesFrom apostrophe false [] (rest.length + 1) (afterOpening rest)
  | cs => lineString cs

end Rollout.Toml
