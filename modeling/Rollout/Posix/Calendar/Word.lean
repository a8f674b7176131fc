import Rollout.Posix.Calendar.Zone

/-!
# Words of dates

What a text that describes a moment is made of: numbers, words that stand for
months, weekdays, zones and spans of time, and marks. Blanks and what stands in
parentheses only separate.
-/

namespace Rollout.Posix.Calendar

/-- How far one moment is from another. -/
structure Span where
  years : Int := 0
  months : Int := 0
  days : Int := 0
  nanoseconds : Int := 0
  deriving DecidableEq

namespace Span

def add (a b : Span) : Span where
  years := a.years + b.years
  months := a.months + b.months
  days := a.days + b.days
  nanoseconds := a.nanoseconds + b.nanoseconds

/-- A span so many times. -/
def scale (span : Span) (count : Int) : Span where
  years := span.years * count
  months := span.months * count
  days := span.days * count
  nanoseconds := span.nanoseconds * count

end Span

/-- A whole number as it is written. -/
structure Count where
  value : Int
  digits : Nat
  isNegative : Bool := false
  deriving DecidableEq

inductive Word where
  | count (count : Count)
  /-- A number with a sign in front. -/
  | signed (count : Count)
  /-- A number with a fraction, in billionths. -/
  | fraction (billionths : Int) (isSigned : Bool)
  /-- The half of the day. -/
  | half (isLate : Bool)
  | month (number : Nat)
  | weekday (number : Nat)
  | zone (ahead : Int)
  /-- A zone in summer, told by what it is ahead in winter. -/
  | summerZone (ahead : Int)
  /-- The zone that is used, in one of its parts of the year. -/
  | ownZone (isSummer : Bool)
  | summer
  | unit (span : Span) (isSecond : Bool)
  | ordinal (count : Int)
  /-- The span in front is counted backward or forward. -/
  | direction (sign : Int)
  | shift (days : Int)
  /-- The letter between a date and a time, also a zone. -/
  | tee
  /-- The letter for the zone that is used. -/
  | jay
  | mark (c : Char)
  deriving DecidableEq

namespace Word

def months : List (String × Nat) := [
  ("JANUARY", 1), ("FEBRUARY", 2), ("MARCH", 3), ("APRIL", 4), ("MAY", 5), ("JUNE", 6),
  ("JULY", 7), ("AUGUST", 8), ("SEPTEMBER", 9), ("SEPT", 9), ("OCTOBER", 10), ("NOVEMBER", 11),
  ("DECEMBER", 12)]

def weekdays : List (String × Nat) := [
  ("SUNDAY", 0), ("MONDAY", 1), ("TUESDAY", 2), ("TUES", 2), ("WEDNESDAY", 3), ("WEDNES", 3),
  ("THURSDAY", 4), ("THUR", 4), ("THURS", 4), ("FRIDAY", 5), ("SATURDAY", 6)]

/-- Zones, each with the minutes that it is ahead. -/
def zones : List (String × Int) := [
  ("WET", 0), ("ART", -180), ("BRT", -180), ("NST", -210), ("AST", -240), ("CLT", -240),
  ("EST", -300), ("CST", -360), ("MST", -420), ("PST", -480), ("AKST", -540), ("HST", -600),
  ("HAST", -600), ("SST", -720), ("WAT", 60), ("CET", 60), ("MET", 60), ("MEZ", 60),
  ("EET", 120), ("CAT", 120), ("SAST", 120), ("EAT", 180), ("MSK", 180), ("IST", 330),
  ("SGT", 480), ("KST", 540), ("JST", 540), ("GST", 600), ("NZST", 720)]

/-- Zones in summer, each with the minutes that it is ahead in winter. -/
def summerZones : List (String × Int) := [
  ("WEST", 0), ("BST", 0), ("BRST", -180), ("NDT", -210), ("ADT", -240), ("CLST", -240),
  ("EDT", -300), ("CDT", -360), ("MDT", -420), ("PDT", -480), ("AKDT", -540), ("HADT", -600),
  ("CEST", 60), ("MEST", 60), ("MESZ", 60), ("EEST", 120), ("MSD", 180), ("NZDT", 720)]

def units : List (String × Span × Bool) := [
  ("YEAR", { years := 1 }, false), ("MONTH", { months := 1 }, false),
  ("FORTNIGHT", { days := 14 }, false), ("WEEK", { days := 7 }, false),
  ("DAY", { days := 1 }, false), ("HOUR", { nanoseconds := 3600 * second }, false),
  ("MINUTE", { nanoseconds := 60 * second }, false),
  ("MIN", { nanoseconds := 60 * second }, false), ("SECOND", { nanoseconds := second }, true),
  ("SEC", { nanoseconds := second }, true)]

def others : List (String × Word) := [
  ("TOMORROW", .shift 1), ("YESTERDAY", .shift (-1)), ("TODAY", .shift 0), ("NOW", .shift 0),
  ("LAST", .ordinal (-1)), ("THIS", .ordinal 0), ("NEXT", .ordinal 1), ("FIRST", .ordinal 1),
  ("THIRD", .ordinal 3), ("FOURTH", .ordinal 4), ("FIFTH", .ordinal 5), ("SIXTH", .ordinal 6),
  ("SEVENTH", .ordinal 7), ("EIGHTH", .ordinal 8), ("NINTH", .ordinal 9), ("TENTH", .ordinal 10),
  ("ELEVENTH", .ordinal 11), ("TWELFTH", .ordinal 12), ("AGO", .direction (-1)),
  ("HENCE", .direction 1)]

/-- The zone of a single letter: the first half of them is ahead. -/
def letterZone? (c : Char) : Option Word :=
  let n := c.toNat - 'A'.toNat
  if c < 'A' || 'Z' < c then none
  else if c = 'J' then some .jay
  else if c = 'T' then some .tee
  else if c = 'Z' then some (.zone 0)
  else if c < 'J' then some (.zone (3600 * (n + 1)))
  else if c < 'N' then some (.zone (3600 * n))
  else some (.zone (-3600 * (n - 12)))

/-- The zone of a name. Names of the zone that is used come before others. -/
def zone? (zone : Zone) (name : String) : Option Word :=
  if ["GMT", "UT", "UTC"].contains name then some (.zone 0)
  else if zone.standard.name = name then some (.ownZone false)
  else if zone.summer.any (·.1.name = name) then some (.ownZone true)
  else
    match zones.lookup name, summerZones.lookup name with
    | some minutes, _ => some (.zone (60 * minutes))
    | none, some minutes => some (.summerZone (60 * minutes))
    | none, none => none

/-- What a word of letters and points stands for. -/
def ofName? (zone : Zone) (name : String) : Option Word :=
  let name := name.toUpper
  let isShort := name.length = 3 || (name.length = 4 && name.endsWith ".")
  let named (words : List (String × Nat)) : Option Nat :=
    (words.find? fun word =>
      if isShort then word.1.take 3 == name.take 3 else word.1 = name).map Prod.snd
  let unitNamed (name : String) : Option Word :=
    (units.lookup name).map fun (span, isSecond) => .unit span isSecond
  let plural : Option Word :=
    if name.endsWith "S" then unitNamed (name.dropEnd 1).toString else none
  let letter : Option Word := match name.toList with
    | [c] => letterZone? c
    | _ => none
  let pointless := String.ofList (name.toList.filter (· != '.'))
  if ["AM", "A.M."].contains name then some (.half false)
  else if ["PM", "P.M."].contains name then some (.half true)
  else
    ((named months).map .month).or <| ((named weekdays).map .weekday).or <| (zone? zone name).or <|
      (if name = "DST" then some .summer else none).or <| (unitNamed name).or <| plural.or <|
      (others.lookup name).or <| letter.or <|
      if pointless = name then none else zone? zone pointless

/-- Counts up to here can be read. -/
def most : Int := 9223372036854775807

def isBlank (c : Char) : Bool :=
  c = ' ' || ('\t' ≤ c && c ≤ '\r')

/-- The text behind parentheses that are open at its start so many times. -/
def afterComment : Nat → List Char → List Char
  | _, [] => []
  | depth, '(' :: rest => afterComment (depth + 1) rest
  | depth, ')' :: rest => if depth ≤ 1 then rest else afterComment (depth - 1) rest
  | depth, _ :: rest => afterComment depth rest

/-- The number at the front of a text, its sign already read, and what follows. -/
def number? (sign : Option Int) (text : List Char) : Option (Word × List Char) :=
  let digits := text.takeWhile Char.isDigit
  let rest := text.drop digits.length
  let valueOf (digits : List Char) : Int :=
    digits.foldl (fun n c => n * 10 + (c.toNat - 48 : Nat)) 0
  let value := sign.getD 1 * valueOf digits
  if value < -most - 1 || most < value then none
  else
    match rest with
    | point :: c :: _ =>
      if (point = '.' || point = ',') && c.isDigit then
        let decimals := (rest.drop 1).takeWhile Char.isDigit
        let shown := (decimals ++ List.replicate 9 '0').take 9
        let isCut := (decimals.drop 9).any (· != '0')
        let part := valueOf shown + if isCut && sign = some (-1) then 1 else 0
        some (.fraction (value * second + sign.getD 1 * part) sign.isSome,
          rest.drop (decimals.length + 1))
      else plain value digits rest
    | _ => plain value digits rest
where
  plain (value : Int) (digits rest : List Char) : Option (Word × List Char) :=
    some (match sign with
      | none => (.count ⟨value, digits.length, false⟩, rest)
      | some sign => (.signed ⟨value, digits.length, sign < 0⟩, rest))

/-- The words of a text; nothing where one is none. A sign that no number follows
is passed over. -/
def all? (zone : Zone) : Nat → List Char → Option (List Word)
  | 0, _ => none
  | _ + 1, [] => some []
  | fuel + 1, c :: rest =>
    if isBlank c then all? zone fuel rest
    else if c.isDigit then do
      let (word, rest) ← number? none (c :: rest)
      return word :: (← all? zone fuel rest)
    else if c = '-' || c = '+' then
      let rest := rest.dropWhile isBlank
      if rest.head?.any Char.isDigit then do
        let (word, rest) ← number? (some (if c = '-' then -1 else 1)) rest
        return word :: (← all? zone fuel rest)
      else all? zone fuel rest
    else if c.isAlpha then do
      let name := (c :: rest).takeWhile fun c => c.isAlpha || c = '.'
      -- A longer word is cut, and means nothing.
      let word ← ofName? zone (String.ofList (name.take 19))
      return word :: (← all? zone fuel ((c :: rest).drop name.length))
    else if c = '(' then all? zone fuel (afterComment 1 rest)
    else return .mark c :: (← all? zone fuel rest)

end Word

end Rollout.Posix.Calendar
