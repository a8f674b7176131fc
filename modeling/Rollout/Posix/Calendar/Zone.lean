import Rollout.Posix.Calendar

/-!
# Time zones

What clocks show at a place: so many seconds more than the universal time, and
in summer perhaps more than that. A zone is described by its names, how far it
is behind, and the days of the year on which its clocks change.
-/

namespace Rollout.Posix.Calendar

/-- What clocks show for a part of the year. -/
structure Regime where
  name : String
  /-- The seconds that clocks are ahead of the universal time. -/
  ahead : Int := 0
  isSummer : Bool := false
  deriving DecidableEq

/-- A day of every year. -/
inductive YearDay where
  /-- Counted from one, where the 29th of February has no number. -/
  | unleaped (number : Nat)
  /-- Counted from zero. -/
  | counted (number : Nat)
  /-- A weekday in some week of a month; the fifth is the last one. -/
  | inMonth (month week weekday : Nat)
  deriving DecidableEq

/-- When clocks change: on a day, and so many seconds after its start. -/
structure Change where
  day : YearDay
  second : Int := 7200
  deriving DecidableEq

/-- A zone without summer, or one with the changes to it and back. -/
structure Zone where
  standard : Regime
  summer : Option (Regime × Change × Change) := none
  deriving DecidableEq

namespace YearDay

/-- The day in a year, as days since the start of 1970. -/
def days (day : YearDay) (year : Int) : Int :=
  let start := (Date.mk year 1 1).days
  match day with
  | unleaped number =>
    let isLeap := (Date.mk year 2 29).exists
    start + number - (if isLeap && 60 ≤ number then 0 else 1)
  | counted number => start + number
  | inMonth month week weekday =>
    let first := (Date.mk year month 1).days
    let length := (Date.mk year month 1).daysBehind 1 - first
    let offset := Int.fmod (weekday - Calendar.weekday first) 7 + (week - 1) * 7
    first + if offset < length then offset else offset - 7

end YearDay

namespace Zone

def universal : Zone := { standard := { name := "UTC" } }

/-- What clocks show at a moment. -/
def regime (zone : Zone) (seconds : Int) : Regime :=
  match zone.summer with
  | none => zone.standard
  | some (summer, start, stop) =>
    let year := (Stamp.ofSeconds (seconds + zone.standard.ahead)).date.year
    let turn (change : Change) (before : Regime) : Int :=
      change.day.days year * dayLength + change.second - before.ahead
    let begins := turn start zone.standard
    let ends := turn stop summer
    let isSummer := if begins ≤ ends then begins ≤ seconds && seconds < ends
      else begins ≤ seconds || seconds < ends
    if isSummer then summer else zone.standard

/-- What clocks show at a moment, as a stamp. -/
def stamp (zone : Zone) (seconds : Int) : Stamp :=
  .ofSeconds (seconds + (zone.regime seconds).ahead)

/-- The moment at which clocks show this many seconds since the start of 1970.
Nothing where they are put forward over it; with `summer`, what is meant is
known. -/
def moment? (zone : Zone) (shown : Int) (summer : Option Bool := none) : Option Int :=
  let regimes := match zone.summer with
    | none => [zone.standard]
    | some (other, _) => match summer with
      | some true => [other]
      | some false => [zone.standard]
      | none => [other, zone.standard]
  let isFixed := summer.isSome && zone.summer.isSome
  (regimes.map fun regime => shown - regime.ahead).find? fun seconds =>
    isFixed || seconds + (zone.regime seconds).ahead = shown

/-! ## Descriptions -/

/-- A name: letters, or anything between angle brackets. -/
def name? (text : List Char) : Option (String × List Char) :=
  match text with
  | '<' :: rest =>
    let name := rest.takeWhile fun c => c.isAlphanum || c = '+' || c = '-'
    match rest.drop name.length with
    | '>' :: rest => if name.length < 3 then none else some (String.ofList name, rest)
    | _ => none
  | text =>
    let name := text.takeWhile Char.isAlpha
    if name.length < 3 then none else some (String.ofList name, text.drop name.length)

/-- A number of digits. -/
def number? (text : List Char) : Option (Nat × List Char) :=
  let digits := text.takeWhile Char.isDigit
  if digits.isEmpty then none
  else some (digits.foldl (fun n c => n * 10 + (c.toNat - 48)) 0, text.drop digits.length)

/-- Hours, with minutes and seconds where they are given, in seconds. -/
def hours? (most : Nat) (text : List Char) : Option (Int × List Char) := do
  let (sign, text) : Int × List Char := match text with
    | '-' :: rest => (-1, rest)
    | '+' :: rest => (1, rest)
    | rest => (1, rest)
  let part (text : List Char) : Nat × List Char := match text with
    | ':' :: rest => ((number? rest).map fun (n, rest) => (min n 59, rest)).getD (0, text)
    | text => (0, text)
  let (hours, text) ← number? text
  let (minutes, text) := part text
  let (seconds, text) := part text
  return (sign * (min hours most * 3600 + minutes * 60 + seconds : Nat), text)

/-- A day on which clocks change, behind a comma. -/
def change? (text : List Char) : Option (Change × List Char) := do
  let rest ← match text with
    | ',' :: rest => some rest
    | _ => none
  let (day, rest) ← match rest with
    | 'J' :: rest => (number? rest).map fun (n, rest) => (YearDay.unleaped n, rest)
    | 'M' :: rest => do
      let (month, rest) ← number? rest
      let (week, rest) ← number? (rest.drop 1)
      let (weekday, rest) ← number? (rest.drop 1)
      if 1 ≤ month && month ≤ 12 && 1 ≤ week && week ≤ 5 && weekday ≤ 6 then
        some (YearDay.inMonth month week weekday, rest)
      else none
    | rest => (number? rest).map fun (n, rest) => (YearDay.counted n, rest)
  match rest with
  | '/' :: rest =>
    let (second, rest) ← hours? 167 rest
    return ({ day, second }, rest)
  | rest => return ({ day }, rest)

/-- The changes where none are given. -/
def usualChanges : Change × Change :=
  ({ day := .inMonth 3 2 0 }, { day := .inMonth 11 1 0 })

/-- Zones by name, as they are described nowadays. -/
def named : List (String × String) := [
  ("UTC", "UTC0"), ("Etc/UTC", "UTC0"), ("Universal", "UTC0"), ("Zulu", "UTC0"),
  ("GMT", "GMT0"), ("Etc/GMT", "GMT0"), ("Europe/London", "GMT0BST,M3.5.0/1,M10.5.0"),
  ("Europe/Paris", "CET-1CEST,M3.5.0,M10.5.0/3"), ("Europe/Berlin", "CET-1CEST,M3.5.0,M10.5.0/3"),
  ("Europe/Helsinki", "EET-2EEST,M3.5.0/3,M10.5.0/4"), ("Europe/Moscow", "MSK-3"),
  ("America/New_York", "EST5EDT,M3.2.0,M11.1.0"), ("America/Chicago", "CST6CDT,M3.2.0,M11.1.0"),
  ("America/Denver", "MST7MDT,M3.2.0,M11.1.0"), ("America/Los_Angeles", "PST8PDT,M3.2.0,M11.1.0"),
  ("Asia/Tokyo", "JST-9"), ("Asia/Kolkata", "IST-5:30"), ("Asia/Shanghai", "CST-8"),
  ("Australia/Sydney", "AEST-10AEDT,M10.1.0,M4.1.0/3")]

/-- The zone of a description. One that cannot be read is that of the universal
time, under the name that it starts with. -/
def ofDescription (text : List Char) : Zone :=
  match name? text with
  | none => { standard := { name := "" } }
  | some (name, rest) =>
    match hours? 24 rest with
    | none => { standard := { name } }
    | some (behind, rest) =>
      let standard : Regime := { name, ahead := -behind }
      match name? rest with
      | none => { standard }
      | some (other, rest) =>
        let (ahead, rest) : Int × List Char := match hours? 24 rest with
          | some (behind, rest) => (-behind, rest)
          | none => (3600 - behind, rest)
        let summer : Regime := { name := other, ahead, isSummer := true }
        let first := change? rest
        let second := first.bind fun found => change? found.2
        { standard, summer := some (summer, (first.map Prod.fst).getD usualChanges.1,
            (second.map Prod.fst).getD usualChanges.2) }

/-- The zone that an environment asks for, where it says something. -/
def ofText (text : String) : Zone :=
  if text.isEmpty then { standard := { name := "Universal" } }
  else
    let plain := if text.startsWith ":" then (text.drop 1).toString else text
    ofDescription ((named.lookup plain).getD plain).toList

end Zone

end Rollout.Posix.Calendar
