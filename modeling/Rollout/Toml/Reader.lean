import Rollout.Toml.Text
import Rollout.Toml.Number
import Rollout.Toml.Moment
import Rollout.Toml.Table

/-!
# Keys and values of a TOML text

Keys with their dots, and values of all kinds. Arrays and inline tables nest,
up to a fixed depth.
-/

namespace Rollout.Toml

/-- From this depth on, arrays, inline tables and dots are refused. -/
def depthLimit : Nat := 80

/-- Reads one name of a key. -/
def name : Reader String
  | '\x22' :: rest => lineString ('\x22' :: rest)
  | '\x27' :: rest => lineString ('\x27' :: rest)
  | cs =>
    let bare := cs.takeWhile isBare
    if bare.isEmpty then none else some (String.ofList bare, cs.drop bare.length)

/-- Reads the names of a key from after the ones in `seen`, the last first. -/
def namesFrom (seen : List String) : Nat → Reader (List String)
  | 0, _ => none
  | fuel + 1, cs =>
    match name (skipSpaces cs) with
    | none => none
    | some (found, rest) =>
      match skipSpaces rest with
      | '.' :: rest => namesFrom (found :: seen) fuel rest
      | rest => some ((found :: seen).reverse, rest)

/-- Reads a key: the names on the way and the last one. -/
def key : Reader (List String × String) := fun cs =>
  match namesFrom [] depthLimit cs with
  | some (names, rest) =>
    match names.reverse with
    | last :: way => if names.length < depthLimit then some ((way.reverse, last), rest) else none
    | [] => none
  | none => none

/-- Reads a value that holds no other. -/
def scalarValue (cs : List Char) : Option (Value × List Char) :=
  match cs with
  | [] => none
  | c :: _ =>
    if c = quote || c = apostrophe then (string cs).map fun (text, rest) => (.text text, rest)
    else if isDigit c || c = '+' || c = '-' then
      -- Digits start a date before they start a number, and a real before an integer.
      match moment cs with
      | some (m, rest) => some (.moment m.text, rest)
      | none =>
        match finite cs with
        | some found => found.map (.real, ·)
        | none =>
          match special cs with
          | some rest => some (.real, rest)
          | none => (integer cs).map fun (n, rest) => (.integer n, rest)
    else
      match cs with
      | 't' :: 'r' :: 'u' :: 'e' :: rest => some (.boolean true, rest)
      | 'f' :: 'a' :: 'l' :: 's' :: 'e' :: rest => some (.boolean false, rest)
      | _ => (special cs).map (.real, ·)

/-- Lines of blanks and comments passed over. -/
def skipAll (cs : List Char) : List Char :=
  skipLines (cs.length + 1) cs

mutual

/-- Reads a value; `depth` is how far arrays and inline tables may still
nest, and `fuel` bounds the steps. -/
def valueFrom (depth : Nat) : Nat → Reader Value
  | 0, _ => none
  | fuel + 1, cs =>
    match cs with
    | '[' :: rest =>
      match depth with
      | 0 => none
      | depth + 1 => itemsFrom depth [] fuel (skipAll rest)
    | '\x7B' :: rest =>
      match depth with
      | 0 => none
      | depth + 1 =>
        match skipSpaces rest with
        | '\x7D' :: rest => some (.table [], rest)
        | rest => pairsFrom depth [] fuel rest
    | cs => scalarValue cs

/-- Reads the items of an array up to its bracket; a comma may stand after
the last one. -/
def itemsFrom (depth : Nat) (seen : List Value) : Nat → Reader Value
  | 0, _ => none
  | fuel + 1, cs =>
    match cs with
    | ']' :: rest => some (.list seen.reverse, rest)
    | cs =>
      match valueFrom depth fuel cs with
      | none => none
      | some (value, rest) =>
        match skipAll rest with
        | ',' :: rest => itemsFrom depth (value :: seen) fuel (skipAll rest)
        | ']' :: rest => some (.list (value :: seen).reverse, rest)
        | _ => none

/-- Reads the pairs of an inline table up to its brace; no comma may stand
after the last one. -/
def pairsFrom (depth : Nat) (seen : Entries) : Nat → Reader Value
  | 0, _ => none
  | fuel + 1, cs =>
    match key cs with
    | none => none
    | some ((way, last), rest) =>
      match rest with
      | '=' :: rest =>
        match valueFrom depth fuel (skipSpaces rest) with
        | none => none
        | some (value, rest) =>
          match seen.assign way last (.leaf value) .defined with
          | none => none
          | some seen =>
            match skipSpaces rest with
            | ',' :: rest => pairsFrom depth seen fuel rest
            | '\x7D' :: rest => some ((Node.table .defined seen).toValue, rest)
            | _ => none
      | _ => none

end

/-- Reads a value. -/
def value : Reader Value := fun cs =>
  valueFrom (depthLimit - 1) (2 * cs.length + 2) cs

end Rollout.Toml
