import Rollout.Toml.Lexeme

/-!
# Dates and times of a TOML text

Dates, times and both together, read with their ranges and written in their
canonical text: a large T and Z, and a fraction without trailing zeros.
-/

namespace Rollout.Toml

structure Date where
  year : Nat
  month : Nat
  day : Nat
  deriving DecidableEq, Repr

structure Time where
  hour : Nat
  minute : Nat
  second : Nat
  nanosecond : Nat
  deriving DecidableEq, Repr

inductive Offset where
  | zulu
  | minutes (east : Bool) (count : Nat)
  deriving DecidableEq, Repr

structure Moment where
  date : Option Date
  time : Option Time
  offset : Option Offset
  deriving DecidableEq, Repr

def isLeap (year : Nat) : Bool :=
  year % 4 = 0 && (year % 100 ≠ 0 || year % 400 = 0)

def daysIn (year month : Nat) : Nat :=
  if month = 2 then (if isLeap year then 29 else 28)
  else if month = 4 || month = 6 || month = 9 || month = 11 then 30
  else 31

/-- Reads a number of two digits between `low` and `high`. -/
def ranged (low high : Nat) : Reader Nat := fun cs => do
  let (n, rest) ← fixedDigits 2 cs
  if low ≤ n ∧ n ≤ high then some (n, rest) else none

def date : Reader Date := fun cs => do
  let (year, cs) ← fixedDigits 4 cs
  let (_, cs) ← char '-' cs
  let (month, cs) ← ranged 1 12 cs
  let (_, cs) ← char '-' cs
  let (day, cs) ← ranged 1 31 cs
  if day ≤ daysIn year month then some (⟨year, month, day⟩, cs) else none

/-- The nanoseconds of the digits of a fraction; digits past the ninth do not
count. -/
def nanoseconds (digits : List Char) : Nat :=
  let digits := digits.take 9
  numeral 10 digits * Nat.pow 10 (9 - digits.length)

/-- Reads the fraction of a second, where there is one. -/
def fraction : Reader Nat
  | '.' :: rest =>
    let ds := rest.takeWhile isDigit
    if ds.isEmpty then none else some (nanoseconds ds, rest.drop ds.length)
  | cs => some (0, cs)

def time : Reader Time := fun cs => do
  let (hour, cs) ← ranged 0 23 cs
  let (_, cs) ← char ':' cs
  let (minute, cs) ← ranged 0 59 cs
  let (_, cs) ← char ':' cs
  let (second, cs) ← ranged 0 60 cs
  match fraction cs with
  | some (nanosecond, cs) => some (⟨hour, minute, second, nanosecond⟩, cs)
  | none => some (⟨hour, minute, second, 0⟩, cs)

/-- Reads the offset of a time, where there is one. -/
def offset : Reader (Option Offset)
  | 'Z' :: rest => some (some .zulu, rest)
  | 'z' :: rest => some (some .zulu, rest)
  | '+' :: rest => numeric true rest
  | '-' :: rest => numeric false rest
  | cs => some (none, cs)
where
  numeric (east : Bool) (cs : List Char) : Option (Option Offset × List Char) := do
    let (hour, cs) ← ranged 0 23 cs
    let (_, cs) ← char ':' cs
    let (minute, cs) ← ranged 0 59 cs
    return (some (.minutes east (hour * 60 + minute)), cs)

/-- Reads a date with the time after it, where there is one. -/
def dateTime : Reader Moment := fun cs => do
  let (d, cs) ← date cs
  -- A date followed by a space is a date alone unless a time comes next.
  let alone : Option (Moment × List Char) := some (⟨some d, none, none⟩, cs)
  match cs with
  | c :: rest =>
    if c = 'T' || c = 't' || c = ' ' then
      match time rest with
      | some (t, rest) => do
        let (o, rest) ← offset rest
        return (⟨some d, some t, o⟩, rest)
      | none => alone
    else alone
  | [] => alone

/-- Reads a date, a time or both. -/
def moment : Reader Moment := fun cs =>
  match dateTime cs with
  | some found => some found
  | none => (time cs).map fun (t, rest) => (⟨none, some t, none⟩, rest)

/-- A number with zeros before it up to `width` digits. -/
def padded (width n : Nat) : String :=
  let digits := Nat.toDigits 10 n
  String.ofList (List.replicate (width - digits.length) '0' ++ digits)

def Date.text (d : Date) : String :=
  padded 4 d.year ++ "-" ++ padded 2 d.month ++ "-" ++ padded 2 d.day

def Time.text (t : Time) : String :=
  padded 2 t.hour ++ ":" ++ padded 2 t.minute ++ ":" ++ padded 2 t.second ++
    if t.nanosecond = 0 then ""
    else "." ++ String.ofList
      (((padded 9 t.nanosecond).toList.reverse.dropWhile (· = '0')).reverse)

def Offset.text : Offset → String
  | .zulu => "Z"
  | .minutes east count =>
    (if east || count = 0 then "+" else "-") ++ padded 2 (count / 60) ++ ":" ++
      padded 2 (count % 60)

def Moment.text (m : Moment) : String :=
  (m.date.map Date.text).getD "" ++
    (if m.date.isSome && m.time.isSome then "T" else "") ++
    (m.time.map Time.text).getD "" ++ (m.offset.map Offset.text).getD ""

end Rollout.Toml
