import Rollout.Posix.Calendar.Zone

/-!
# Formats of moments

How moments are written by a format: each part is a percent sign, flags, a
width, and a letter for what is to be written.
-/

namespace Rollout.Posix.Calendar

/-- A part of a format behind its percent sign. -/
structure Part where
  /-- The last of the marks for filling up. -/
  pad : Option Char := none
  isUpper : Bool := false
  /-- The case is another one than usual. -/
  isOther : Bool := false
  width : Option Nat := none
  /-- A mark for another way of writing. -/
  variant : Option Char := none
  /-- How many colons stand in front of the letter. -/
  colons : Nat := 0
  letter : Char

namespace Part

/-- Nothing but its letter is given. -/
def isPlain (part : Part) : Bool :=
  part.pad.isNone && !part.isUpper && !part.isOther && part.width.isNone && part.variant.isNone

/-- Adds the flags at the front of a text. -/
def flags : Nat → Part → List Char → Part × List Char
  | 0, part, text => (part, text)
  | fuel + 1, part, c :: rest =>
    if c = '_' || c = '-' || c = '+' || c = '0' then flags fuel { part with pad := some c } rest
    else if c = '^' then flags fuel { part with isUpper := true } rest
    else if c = '#' then flags fuel { part with isOther := true } rest
    else (part, c :: rest)
  | _ + 1, part, [] => (part, [])

/-- The longest text that is written of a moment. -/
def lengthLimit : Nat := 1000

/-- The part at the front of a text, and what follows. Another percent sign
starts a part of its own where anything stands in between. -/
def read (text : List Char) : Option (Part × List Char) :=
  let (part, text) := flags text.length { letter := ' ' } text
  let digits := text.takeWhile Char.isDigit
  let (part, text) : Part × List Char :=
    if digits.isEmpty then (part, text)
    else
      let width := digits.foldl (fun n c => n * 10 + (c.toNat - 48)) 0
      -- A wider part is too long in any case.
      ({ part with width := some (min width (2 * lengthLimit)) }, text.drop digits.length)
  let (part, text) : Part × List Char := match text with
    | 'E' :: rest => ({ part with variant := some 'E' }, rest)
    | 'O' :: rest => ({ part with variant := some 'O' }, rest)
    | rest => (part, rest)
  let colons := text.takeWhile (· = ':')
  match text.drop colons.length with
  | 'z' :: rest => some ({ part with colons := colons.length, letter := 'z' }, rest)
  | _ =>
    match text with
    | [] => none
    | '%' :: rest => some (if part.isPlain then ({ part with letter := '%' }, rest) else (part, text))
    | letter :: rest => some ({ part with letter }, rest)

end Part

/-- What a letter stands for. -/
inductive Content where
  /-- So many digits at least, and what they are filled up with. -/
  | number (digits : Nat) (fill : Char) (value : Int)
  /-- A year or a part of it, of so many digits, which may show its sign. -/
  | year (digits : Nat) (value : Int)
  /-- A number that always shows its sign, with colons. -/
  | offset (digits : Nat) (isNegative : Bool) (text : String)
  | billionths (value : Nat)
  | text (text : String)
  /-- Another format; its years may be filled up as the whole is. -/
  | format (text : String) (isShared : Bool)
  /-- A date, whose year takes what the others leave of the width. -/
  | date

/-- A moment as it is written: by the clocks of a zone. -/
structure Written where
  stamp : Stamp
  billionths : Nat
  regime : Regime
  /-- The seconds since the start of 1970. -/
  seconds : Int

def Written.of (zone : Zone) (time : Int) : Written :=
  let seconds := Int.fdiv time second
  { stamp := zone.stamp seconds, billionths := (Int.fmod time second).toNat
    regime := zone.regime seconds, seconds }

namespace Written

def twoDigits (n : Int) : String :=
  (if n < 10 then "0" else "") ++ toString n

/-- The year and the number of the week that a day is in, where weeks start on
Monday and the first one has most of its days in the year. -/
def week (written : Written) : Int × Int :=
  let date := written.stamp.date
  let days := date.days
  -- The Thursday of a week is in the year that the week belongs to.
  let thursday := days - Int.fmod (weekday days + 6 : Nat) 7 + 3
  let year := (Date.ofDays thursday).year
  (year, (thursday - (Date.mk year 1 1).days) / 7 + 1)

/-- How far the clocks are ahead, as digits with so many colons in front of the
letter. -/
def ahead (written : Written) (colons : Nat) : Option Content :=
  let size := written.regime.ahead.natAbs
  let (hours, minutes, seconds) := (size / 3600, size / 60 % 60, size % 60)
  let two (n : Nat) : String := twoDigits n
  let offset (digits : Nat) (text : String) : Option Content :=
    some (.offset digits (written.regime.ahead < 0) text)
  match colons with
  | 0 => offset 5 (toString (hours * 100 + minutes))
  | 1 => offset 6 s!"{hours}:{two minutes}"
  | 2 => offset 9 s!"{hours}:{two minutes}:{two seconds}"
  | 3 =>
    if seconds != 0 then offset 9 s!"{hours}:{two minutes}:{two seconds}"
    else if minutes != 0 then offset 6 s!"{hours}:{two minutes}"
    else offset 3 (toString hours)
  | _ => none

/-- Letters that know no other way of writing, for each mark of one. -/
def fixed : List (Char × String) :=
  [('E', "GgVmdejbhBaAwUWHkIlMSNFD"), ('O', "YaAFDxXc")]

/-- What the letter of a part stands for. -/
def meaning? (written : Written) (part : Part) : Option Content :=
  let date := written.stamp.date
  let clock := written.stamp.second
  let hour := clock / 3600
  let dayHour := Int.fmod (hour + 11) 12 + 1
  let day := weekday date.days
  let monday := (day + 6) % 7
  let inYear := date.dayOfYear
  let dayName := weekdayNames.getD day ""
  let monthName := monthNames.getD (date.month - 1) ""
  let number (digits : Nat) (value : Int) : Option Content := some (.number digits '0' value)
  let spaced (value : Int) : Option Content := some (.number 2 '_' value)
  let text (text : String) : Option Content := some (.text text)
  let whole (format : String) : Option Content := some (.format format false)
  match part.letter with
  | 'Y' => some (.year 4 date.year)
  | 'C' => some (.year 2 (Int.fdiv date.year 100))
  | 'y' => some (.year 2 (Int.fmod date.year 100))
  | 'G' => some (.year 4 written.week.1)
  | 'g' => some (.year 2 (Int.fmod written.week.1 100))
  | 'V' => number 2 written.week.2
  | 'q' => number 1 ((date.month + 2) / 3 : Nat)
  | 'm' => number 2 date.month
  | 'd' => number 2 date.day
  | 'e' => spaced date.day
  | 'j' => number 3 (inYear + 1)
  | 'b' => text (monthName.take 3).toString
  | 'h' => text (monthName.take 3).toString
  | 'B' => text monthName
  | 'a' => text (dayName.take 3).toString
  | 'A' => text dayName
  | 'u' => number 1 (monday + 1 : Nat)
  | 'w' => number 1 day
  | 'U' => number 2 ((inYear + 7 - day) / 7)
  | 'W' => number 2 ((inYear + 7 - monday) / 7)
  | 'H' => number 2 hour
  | 'k' => spaced hour
  | 'I' => number 2 dayHour
  | 'l' => spaced dayHour
  | 'M' => number 2 (clock / 60 % 60)
  | 'S' => number 2 (clock % 60)
  | 'N' => some (.billionths written.billionths)
  | 'p' => text (if hour < 12 then "AM" else "PM")
  | 'P' => text (if hour < 12 then "am" else "pm")
  | 's' => number 1 written.seconds
  | 'F' => some .date
  | 'D' => some (.format "%m/%d/%y" true)
  | 'T' => whole "%H:%M:%S"
  | 'R' => whole "%H:%M"
  | 'x' => whole "%m/%d/%y"
  | 'X' => whole "%H:%M:%S"
  | 'r' => whole "%I:%M:%S %p"
  | 'c' => whole "%a %b %e %H:%M:%S %Y"
  | 'z' => written.ahead part.colons
  | 'Z' => text written.regime.name
  | 'n' => text "\n"
  | 't' => text "\t"
  | '%' => text "%"
  | _ => none

/-- A text filled up in front to a width, unless that is not wanted. -/
def filled (part : Part) (text : String) : String :=
  let width := if part.pad = some '-' then 0 else part.width.getD 0
  let fill := if part.pad = some '0' || part.pad = some '+' then '0' else ' '
  String.ofList (List.replicate (width - text.length) fill) ++ text

/-- A number with its sign, filled up to a width: behind the sign with zeros, or
in front of it with blanks. -/
def digits (part : Part) (fill : Char) (least : Nat) (sign text : String) : String :=
  let pad := part.pad.getD fill
  let shortage := (part.width.getD least) - sign.length - text.length
  if pad = '-' then sign ++ text
  else if pad = '_' then String.ofList (List.replicate shortage ' ') ++ sign ++ text
  else sign ++ String.ofList (List.replicate shortage '0') ++ text

/-- Billionths with trailing zeros, or what else they are filled up with. -/
def fraction (part : Part) (value : Nat) : String :=
  let width := if part.width.getD 0 = 0 then 9 else part.width.getD 9
  let all := toString value
  let all := "".pushn '0' (9 - all.length) ++ all
  let shown := (all.take (min width 9)).toString
  let short := (shown.dropEndWhile (· == '0')).toString
  let short := if short.isEmpty then "0" else short
  match part.pad with
  | some '-' => short
  | some '_' => short.pushn ' ' (width - short.length)
  | _ => short.pushn '0' (width - short.length)

/-- The text of a year: one that is longer than usual may show its sign. -/
def yearText (part : Part) (least : Nat) (value : Int) : String :=
  let limit : Int := if least = 2 then 99 else 9999
  let shows := part.pad = some '+' && (limit < value || part.width.any (least < ·))
  digits part '0' least (if value < 0 then "-" else if shows then "+" else "") (toString value.natAbs)

/-- Letters in the case that a part asks for. -/
def cased (part : Part) (text : String) : String :=
  if part.letter = 'P' || part.isOther && (part.letter = 'p' || part.letter = 'Z') then text.toLower
  else if part.isUpper || (part.isOther && "aAbBh".toList.contains part.letter) then text.toUpper
  else text

/-- A content that is no other format, as a part asks for it. -/
def plainText (part : Part) : Content → String
  | .number least fill value =>
    digits part fill least (if value < 0 then "-" else "") (toString value.natAbs)
  | .year least value => yearText part least value
  | .offset least isNegative text => digits part '0' least (if isNegative then "-" else "+") text
  | .billionths value => fraction part value
  | .text text => filled part (cased part text)
  | .format text _ => text
  | .date => ""

/-- What a part asks for, if it means anything. Numbers that are written in
another way have their usual digits and are filled up as texts. -/
def content? (written : Written) (part : Part) : Option Content :=
  let isFixed := part.variant.any fun variant =>
    ((fixed.lookup variant).getD "").toList.contains part.letter
  let usual (content : Content) : Content := .text (plainText { letter := part.letter } content)
  match part.variant, written.meaning? part with
  | _, none => none
  | some 'O', some content =>
    if isFixed then none
    else if part.letter = 'q' then some (.text "%Oq")
    else if part.letter = 's' then some content
    else
      match content with
      | .number _ _ value => some (if value < 0 then content else usual content)
      | .year _ value => some (if value < 0 then content else usual content)
      | .offset _ isNegative _ => some (if isNegative then content else usual content)
      | content => some content
  | some _, some content =>
    if isFixed then none
    else if "YCy".toList.contains part.letter then some (usual content) else some content
  | none, some content => some content

/-- A date with its year in front, which takes the width that the rest leaves. -/
def dateText (written : Written) (part : Part) : String :=
  let date := written.stamp.date
  let year : Part :=
    if part.pad.isNone && part.width.isNone then { part with pad := some '+', width := some 4 }
    else { part with width := some (part.width.getD 0 - 6) }
  filled part (yearText year 4 date.year ++ "-" ++ twoDigits date.month ++ "-" ++
    twoDigits date.day)

/-- A moment as a format asks for it; formats within it are so deep, and years in
them are filled up with this. -/
def render (written : Written) : Nat → Nat → Option Char → List Char → String
  | 0, _, _, _ => ""
  | _ + 1, _, _, [] => ""
  | fuel + 1, depth, fill, '%' :: text =>
    match Part.read text with
    | none => String.ofList ('%' :: text)
    | some (part, rest) =>
      let shown := match written.content? part, depth with
        | some (.format format isShared), depth + 1 =>
          let inner := render written fuel depth (if isShared then part.pad else none) format.toList
          filled part (cased part inner)
        | some .date, _ => written.dateText part
        | some (.year least value), _ =>
          yearText { part with pad := part.pad.or fill } least value
        | some content, _ => plainText part content
        | none, _ =>
          let raw := String.ofList ('%' :: text.take (text.length - rest.length))
          let isUpper := part.isUpper || (part.isOther && "bBh".toList.contains part.letter)
          filled part (if isUpper then raw.toUpper else raw)
      shown ++ render written fuel depth fill rest
  | fuel + 1, depth, fill, c :: rest =>
    String.singleton c ++ render written fuel depth fill rest

end Written

/-- A moment in nanoseconds as a format asks for it, by the clocks of a zone. In
place of a text that is too long its seconds are given. -/
def format (zone : Zone) (time : Int) (pattern : String) : String :=
  let text := (Written.of zone time).render (8 * pattern.length + 64) 2 none pattern.toList
  if Part.lengthLimit < text.length then toString (Int.fdiv time second) else text

end Rollout.Posix.Calendar
