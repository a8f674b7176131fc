import Rollout.Posix.Calendar.Word

/-!
# Moments in words

What a text says of a moment: a date, a time of day, a zone, a weekday, and
spans of time from there. Each may be said once, spans as often as one likes;
what is not said is taken from the moment from which it is seen.
-/

namespace Rollout.Posix.Calendar

/-- What was said of a moment so far. -/
structure Wording where
  /-- The year, as it was written, if it was. -/
  year : Option Count := none
  month : Int
  day : Int
  hour : Int
  minute : Int
  /-- Seconds and their fraction, in nanoseconds. -/
  instant : Int
  /-- The half of the day that the hour is in. -/
  half : Option Bool := none
  /-- Which one of a weekday is meant, counted from the day itself. -/
  ordinal : Int := 0
  weekday : Nat := 0
  /-- The seconds that the zone is ahead. -/
  ahead : Int := 0
  /-- Whether it is summer in the zone that is used. -/
  isSummer : Bool := false
  span : Option Span := none
  /-- How often a date, a time, a weekday, summer and a zone were said. -/
  dates : Nat := 0
  times : Nat := 0
  weekdays : Nat := 0
  summers : Nat := 0
  zones : Nat := 0
  ownZones : Nat := 0
  /-- Zones that change nothing. -/
  jays : Nat := 0

namespace Wording

/-- What is there before anything is said. -/
def start (stamp : Stamp) (billionths : Int) : Wording where
  month := stamp.date.month
  day := stamp.date.day
  hour := stamp.second / 3600
  minute := stamp.second / 60 % 60
  instant := stamp.second % 60 * second + billionths

/-- Adds a time of day. -/
def sayTime (said : Wording) (hour minute instant : Int) (half : Option Bool) : Wording :=
  { said with hour, minute, instant, half, times := said.times + 1 }

/-- Adds a date. -/
def sayDate (said : Wording) (year : Option Count) (month day : Int) : Wording :=
  { said with year := year.or said.year, month, day, dates := said.dates + 1 }

/-- Adds a span. -/
def saySpan (said : Wording) (span : Span) : Wording :=
  { said with span := some ((said.span.getD {}).add span) }

def sayZone (said : Wording) (ahead : Int) : Wording :=
  { said with ahead, zones := said.zones + 1 }

/-- Adds a number that stands alone: a year behind a date, a date, or a time. -/
def sayNumber (said : Wording) (count : Count) : Wording :=
  let n := count.value
  if said.dates != 0 && said.year.isNone && said.span.isNone &&
      (said.times != 0 || 2 < count.digits) then
    { said with year := some count }
  else if 4 < count.digits then
    said.sayDate (some ⟨n / 10000, count.digits - 4, false⟩) (n / 100 % 100) (n % 100)
  else if count.digits ≤ 2 then said.sayTime n 0 0 none
  else said.sayTime (n / 100) (n % 100) 0 none

/-- The seconds that a zone is ahead: hours, with minutes in the same number or
behind a colon. -/
def ahead? (hours : Count) (minutes : Option Int) : Option Int :=
  let found := match minutes with
    | none =>
      let n := if hours.digits ≤ 2 then hours.value * 100 else hours.value
      Int.tdiv n 100 * 60 + Int.tmod n 100
    | some minutes =>
      hours.value * 60 + if hours.isNegative then -minutes else minutes
  if -1440 ≤ found && found ≤ 1440 then some (found * 60) else none

/-- Minutes behind a colon, if there are any. -/
def minutes? : List Word → Option (Option Int × List Word)
  | .mark ':' :: .count n :: rest => some (some n.value, rest)
  | .mark ':' :: _ => none
  | rest => some (none, rest)

/-- A number that tells how far a zone is ahead. -/
def offset? (hours : Count) (rest : List Word) : Option (Int × List Word) := do
  let (minutes, rest) ← minutes? rest
  return (← ahead? hours minutes, rest)

/-- What may stand behind a time of day: a half of the day or an offset. -/
def afterTime? (said : Wording) (halves : Bool) (hour minute instant : Int) :
    List Word → Option (Wording × List Word)
  | .half isLate :: rest =>
    if halves then some (said.sayTime hour minute instant (some isLate), rest) else none
  | .signed hours :: rest => do
    let (ahead, rest) ← offset? hours rest
    return ((said.sayZone ahead).sayTime hour minute instant none, rest)
  | rest => some (said.sayTime hour minute instant none, rest)

/-- A time of day behind its hour and a colon. -/
def clock? (said : Wording) (halves : Bool) (hour : Int) :
    List Word → Option (Wording × List Word)
  | .count minute :: .mark ':' :: .count seconds :: rest =>
    afterTime? said halves hour minute.value (seconds.value * second) rest
  | .count minute :: .mark ':' :: .fraction billionths false :: rest =>
    afterTime? said halves hour minute.value billionths rest
  | .count _ :: .mark ':' :: _ => none
  | .count minute :: rest => afterTime? said halves hour minute.value 0 rest
  | _ => none

/-- A span and the direction behind it. -/
def spanned (said : Wording) (span : Span) : List Word → Wording × List Word
  | .direction sign :: rest => (said.saySpan (span.scale sign), rest)
  | rest => (said.saySpan span, rest)

/-- A zone of a letter or a name, with what it is ahead and a number behind it. -/
def zone? (said : Wording) (ahead : Int) (offsets : Bool) :
    List Word → Option (Wording × List Word)
  | .signed n :: .unit unit _ :: rest =>
    some ((said.sayZone ahead).saySpan (unit.scale n.value), rest)
  | .signed n :: rest =>
    if offsets then do
      let (more, rest) ← offset? n rest
      return (said.sayZone (ahead + more), rest)
    else none
  | .summer :: rest =>
    if offsets then some (said.sayZone (ahead + 3600), rest)
    else some (said.sayZone ahead, .summer :: rest)
  | rest => some (said.sayZone ahead, rest)

def sayWeekday (said : Wording) (ordinal : Int) (weekday : Nat) : Wording :=
  { said with ordinal, weekday, weekdays := said.weekdays + 1 }

/-- A date or time whose year, month or hour comes first, with a sign behind. -/
def signed? (said : Wording) (n m : Count) : List Word → Option (Wording × List Word)
  | .signed day :: .tee :: rest =>
    match rest with
    | .count hour :: .mark ':' :: rest =>
      clock? (said.sayDate (some n) (-m.value) (-day.value)) false hour.value rest
    | .count hour :: .signed hours :: rest =>
      afterTime? (said.sayDate (some n) (-m.value) (-day.value)) false hour.value 0 0
        (.signed hours :: rest)
    | _ => none
  | .signed day :: rest => some (said.sayDate (some n) (-m.value) (-day.value), rest)
  | .unit unit _ :: rest => some ((said.sayNumber n).saySpan (unit.scale m.value), rest)
  | rest => afterTime? said false n.value 0 0 (.signed m :: rest)

/-- A number with what stands behind it. -/
def counted? (said : Wording) (n : Count) : List Word → Option (Wording × List Word)
  | .half isLate :: rest => some (said.sayTime n.value 0 0 (some isLate), rest)
  | .mark ':' :: rest => clock? said true n.value rest
  | .signed m :: rest => signed? said n m rest
  | .weekday day :: rest => some (said.sayWeekday n.value day, rest)
  | .mark '/' :: .count m :: .mark '/' :: .count k :: rest =>
    -- A long number in front is the year.
    some (if 4 ≤ n.digits then (said.sayDate (some n) m.value k.value, rest)
      else (said.sayDate (some k) n.value m.value, rest))
  | .mark '/' :: .count _ :: .mark '/' :: _ => none
  | .mark '/' :: .count m :: rest => some (said.sayDate none n.value m.value, rest)
  | .mark '/' :: _ => none
  | .month month :: .signed year :: rest =>
    some (said.sayDate (some { year with value := -year.value }) month n.value, rest)
  | .month month :: .count year :: rest => some (said.sayDate (some year) month n.value, rest)
  | .month month :: rest => some (said.sayDate none month n.value, rest)
  | .unit unit _ :: rest => some (said.spanned (unit.scale n.value) rest)
  | rest => some (said.sayNumber n, rest)

/-- A date that starts with its month. -/
def month? (said : Wording) (month : Nat) : List Word → Option (Wording × List Word)
  | .signed day :: .signed year :: rest =>
    some (said.sayDate (some { year with value := -year.value }) month (-day.value), rest)
  | .count day :: .mark ',' :: .count year :: rest =>
    some (said.sayDate (some year) month day.value, rest)
  | .count _ :: .mark ',' :: _ => none
  | .count day :: rest => some (said.sayDate none month day.value, rest)
  | _ => none

/-- What the first words say, with the words behind. -/
def step? (said : Wording) : List Word → Option (Wording × List Word)
  | .count n :: rest => counted? said n rest
  | .month month :: rest => month? said month rest
  | .weekday day :: .mark ',' :: rest => some (said.sayWeekday 0 day, rest)
  | .weekday day :: rest => some (said.sayWeekday 0 day, rest)
  | .ordinal n :: .weekday day :: rest => some (said.sayWeekday n day, rest)
  | .ordinal n :: .unit unit _ :: rest => some (said.spanned (unit.scale n) rest)
  | .signed n :: .unit unit _ :: rest => some (said.spanned (unit.scale n.value) rest)
  | .fraction billionths _ :: .unit _ true :: rest =>
    some (said.spanned { nanoseconds := billionths } rest)
  | .unit unit _ :: rest => some (said.spanned unit rest)
  | .shift days :: rest => some (said.saySpan { days }, rest)
  | .zone ahead :: rest => zone? said ahead true rest
  | .tee :: rest => zone? said (-7 * 3600) false rest
  | .summerZone ahead :: rest => some (said.sayZone (ahead + 3600), rest)
  | .ownZone _ :: .summer :: rest =>
    some ({ said with
      isSummer := true, summers := said.summers + 1, ownZones := said.ownZones + 1 }, rest)
  | .ownZone isSummer :: rest => some ({ said with isSummer, ownZones := said.ownZones + 1 }, rest)
  | .jay :: rest => some ({ said with jays := said.jays + 1 }, rest)
  | _ => none

/-- What all words say. -/
def ofWords? : Nat → Wording → List Word → Option Wording
  | 0, _, _ => none
  | _ + 1, said, [] => some said
  | fuel + 1, said, words => do
    let (said, words) ← said.step? words
    ofWords? fuel said words

/-! ## Meaning -/

/-- Years of two digits are those around the turn of the millennium. -/
def yearOf (count : Count) : Int :=
  if 0 ≤ count.value && count.digits = 2 then
    count.value + if count.value < 69 then 2000 else 1900
  else count.value.natAbs

/-- The hour in a day of 24. -/
def hour? (hour : Int) : Option Bool → Option Int
  | none => if 0 ≤ hour && hour < 24 then some hour else none
  | some isLate =>
    if 1 ≤ hour && hour ≤ 12 then some (hour % 12 + if isLate then 12 else 0) else none

/-- Years up to here are counted. -/
def yearLimit : Int := 2147485547

/-- The nanoseconds of the moment that is meant, by the clocks of a zone; `year`
is the one from which it is seen, and `summer` whether it is summer then. -/
def moment? (said : Wording) (zone : Zone) (year : Int) (summer : Bool) : Option Int := do
  let isTwice := 1 < said.dates || 1 < said.times || 1 < said.weekdays || 1 < said.summers ||
    1 < said.zones + said.ownZones + said.jays
  if isTwice then none
  let year := said.year.elim year yearOf
  if yearLimit < year || said.month < 1 || said.day < 1 then none
  let date : Date := ⟨year, said.month.toNat, said.day.toNat⟩
  let hasTime := said.times != 0 || (said.span.isSome && said.dates = 0 && said.weekdays = 0)
  let hour ← if hasTime then hour? said.hour said.half else some 0
  let (minute, instant) := if hasTime then (said.minute, said.instant) else (0, 0)
  if !date.exists || 60 ≤ minute || 60 * second ≤ instant then none
  let timeOfDay := hour * 3600 + minute * 60 + instant / second
  let hint : Option Bool :=
    if said.ownZones != 0 then some said.isSummer
    else if said.dates != 0 || said.weekdays != 0 || said.times != 0 then none
    else some summer
  let shownAt (moment : Int) : Int := moment + (zone.regime moment).ahead
  -- With a zone of its own, only what is shown counts.
  let momentOf (days : Int) (hint : Option Bool) : Option Int :=
    let shown := days * dayLength + timeOfDay
    let moment := zone.moment? shown hint
    if said.zones != 0 then some (moment.elim shown shownAt - said.ahead) else moment
  let moment ← momentOf date.days hint
  if said.zones = 0 && shownAt moment != date.days * dayLength + timeOfDay then none
  let (days, moment) ←
    if said.weekdays = 0 || said.dates != 0 then some (date.days, moment)
    else
      let today := Calendar.weekday date.days
      let weeks := said.ordinal - if 0 < said.ordinal && today != said.weekday then 1 else 0
      let days := date.days + Int.fmod (said.weekday - today) 7 + weeks * 7
      (momentOf days none).map (days, ·)
  let span := said.span.getD {}
  let moment ←
    if span.years = 0 && span.months = 0 && span.days = 0 then some moment
    else
      let date := Date.ofDays days
      momentOf (date.daysBehind (span.years * 12 + span.months) + span.days) hint
  return (moment * second + instant % second) + span.nanoseconds

end Wording

/-- Seconds since the start of 1970 behind their mark, in nanoseconds. -/
def counted? : List Word → Option Int
  | [.mark '@', .count n] => some (n.value * second)
  | [.mark '@', .signed n] => some (n.value * second)
  | [.mark '@', .fraction billionths _] => some billionths
  | _ => none

/-- A zone in front of a text, and the rest of it. -/
def zoneInFront (zone : Zone) (text : List Char) : Zone × List Char :=
  let start := text.dropWhile Word.isBlank
  match start with
  | 'T' :: 'Z' :: '=' :: '"' :: rest =>
    match quoted rest with
    | some (name, rest) => (Zone.ofText (String.ofList name), rest)
    | none => (zone, start)
  | _ => (zone, start)
where
  quoted : List Char → Option (List Char × List Char)
    | [] => none
    | '"' :: rest => some ([], rest)
    | '\\' :: c :: rest =>
      if c = '\\' || c = '"' then (quoted rest).map fun (name, rest) => (c :: name, rest) else none
    | c :: rest => (quoted rest).map fun (name, rest) => (c :: name, rest)

/-- The moment that a text describes, seen from now, in nanoseconds. An empty
text is the start of the day. -/
def ofText? (zone : Zone) (now : Int) (text : List Char) : Option Int := do
  let (zone, text) := zoneInFront zone text
  let text := text.dropWhile Word.isBlank
  let text := if text.isEmpty then ['0'] else text
  let words ← Word.all? zone (text.length + 1) text
  if words.head? = some (.mark '@') then counted? words
  else
    let seconds := Int.fdiv now second
    let stamp := zone.stamp seconds
    let said ← Wording.ofWords? (words.length + 1) (.start stamp (Int.fmod now second)) words
    said.moment? zone stamp.date.year (zone.regime seconds).isSummer

/-- The moment that digits give by the clocks of a zone: the month, the day, the
hour and the minute, a year in front, seconds behind a point. -/
def ofDigits? (zone : Zone) (now : Int) (text : List Char) : Option Int := do
  let number? (text : List Char) : Option Nat := match Zone.number? text with
    | some (n, []) => some n
    | _ => none
  let (digits, seconds) ← match text.splitOn '.' with
    | [digits] => some (digits, 0)
    | [digits, seconds] =>
      if seconds.length = 2 then (number? seconds).map (digits, ·) else none
    | _ => none
  let n ← number? digits
  let year : Int ← match digits.length with
    | 8 => some (zone.stamp (Int.fdiv now second)).date.year
    | 10 => some (if n / 100000000 < 69 then 2000 + n / 100000000 else 1900 + n / 100000000)
    | 12 => some (n / 100000000)
    | _ => none
  let date : Date := ⟨year, n / 1000000 % 100, n / 10000 % 100⟩
  let (hour, minute) := (n / 100 % 100, n % 100)
  if !date.exists || 24 ≤ hour || 60 ≤ minute || 60 < seconds then none
  let timeOfDay : Nat := hour * 3600 + minute * 60 + seconds
  (zone.moment? (date.days * dayLength + timeOfDay)).map (· * second)

end Rollout.Posix.Calendar
