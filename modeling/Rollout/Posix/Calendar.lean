/-!
# Calendar

Days since the start of 1970 as dates, and dates as days. A stamp is a date
with a time of day, wherever that is.
-/

namespace Rollout.Posix.Calendar

/-- A date of the calendar. -/
structure Date where
  year : Int
  month : Nat
  day : Nat
  deriving DecidableEq

/-- The days from the start of 1970 to a date. Years are counted from March, so
that a leap day comes last. -/
def Date.days (date : Date) : Int :=
  let year := if date.month ≤ 2 then date.year - 1 else date.year
  let era := Int.fdiv year 400
  let yearOfEra := year - era * 400
  let month : Int := (date.month + 9) % 12
  let dayOfYear := (153 * month + 2) / 5 + date.day - 1
  era * 146097 + (yearOfEra * 365 + yearOfEra / 4 - yearOfEra / 100 + dayOfYear) - 719468

/-- The date so many days after the start of 1970. -/
def Date.ofDays (days : Int) : Date :=
  let shifted := days + 719468
  let era := Int.fdiv shifted 146097
  let dayOfEra := shifted - era * 146097
  let yearOfEra := (dayOfEra - dayOfEra / 1460 + dayOfEra / 36524 - dayOfEra / 146096) / 365
  let dayOfYear := dayOfEra - (365 * yearOfEra + yearOfEra / 4 - yearOfEra / 100)
  let month := (5 * dayOfYear + 2) / 153
  let day := dayOfYear - (153 * month + 2) / 5 + 1
  let number := if month < 10 then month + 3 else month - 9
  { year := yearOfEra + era * 400 + if number ≤ 2 then 1 else 0
    month := number.toNat, day := day.toNat }

/-- Whether the calendar has a date. -/
def Date.exists (date : Date) : Bool :=
  1 ≤ date.month && date.month ≤ 12 && Date.ofDays date.days = date

/-- The weekday of a day, counted from Sunday. -/
def weekday (days : Int) : Nat :=
  (Int.fmod (days + 4) 7).toNat

/-- The day so many months behind a date. A day that the month does not have runs
over into the next one. -/
def Date.daysBehind (date : Date) (months : Int) : Int :=
  let count := date.year * 12 + date.month - 1 + months
  let first : Date := ⟨Int.fdiv count 12, (Int.fmod count 12).toNat + 1, 1⟩
  first.days + date.day - 1

/-- The days of the year in front of a date. -/
def Date.dayOfYear (date : Date) : Int :=
  date.days - (Date.mk date.year 1 1).days

def dayLength : Int := 86400

/-- A date with a time of day in seconds. -/
structure Stamp where
  date : Date
  second : Int
  deriving DecidableEq

namespace Stamp

/-- The seconds from the start of 1970 by the same clock. -/
def seconds (stamp : Stamp) : Int :=
  stamp.date.days * dayLength + stamp.second

/-- The stamp so many seconds after the start of 1970 by the same clock. -/
def ofSeconds (seconds : Int) : Stamp where
  date := .ofDays (Int.fdiv seconds dayLength)
  second := Int.fmod seconds dayLength

end Stamp

def monthNames : List String :=
  ["January", "February", "March", "April", "May", "June", "July", "August", "September",
    "October", "November", "December"]

def weekdayNames : List String :=
  ["Sunday", "Monday", "Tuesday", "Wednesday", "Thursday", "Friday", "Saturday"]

/-- A second in nanoseconds. -/
def second : Int := 1000000000

end Rollout.Posix.Calendar
