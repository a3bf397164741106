import MetricsDaemon.Nanos

/-!
# Calendar dates

The proleptic Gregorian calendar: dates, weekdays and weeks of a day counted from the
first of January 1970, and the parts of an instant counted in nanoseconds from then.
-/

namespace MetricsDaemon.Calendar

/-- A calendar date with its day of the year, from one on, and its weekday, from Sunday as zero
on. -/
structure Date where
  year : Int
  month : Nat
  day : Nat
  ordinal : Nat
  weekday : Nat
  deriving DecidableEq, Repr

/-- The number of days before the first of January of a year. -/
def daysBeforeYear (year : Int) : Int :=
  let y := year - 1
  365 * y + y / 4 - y / 100 + y / 400 - 719162

/-- Whether a year has a leap day. -/
def isLeap (year : Int) : Bool := (year % 4 == 0 && year % 100 != 0) || year % 400 == 0

/-- The lengths of the months. -/
def monthLengths (year : Int) : List Nat :=
  [31, if isLeap year then 29 else 28, 31, 30, 31, 30, 31, 31, 30, 31, 30, 31]

/-- The year that a day falls into. -/
def yearOfDay (day : Int) : Int :=
  let guess := (day + 719162) * 400 / 146097 + 1
  if day < daysBeforeYear guess then guess - 1
  else if daysBeforeYear (guess + 1) ≤ day then guess + 1
  else guess

/-- Find the month and the day of the month, counting months from `month` on. -/
def findMonth (month : Nat) (dayOfYear : Nat) : List Nat → Nat × Nat
  | [] => (month, dayOfYear + 1)
  | length :: rest =>
      if dayOfYear < length then (month, dayOfYear + 1)
      else findMonth (month + 1) (dayOfYear - length) rest

/-- The date of a day. -/
def Date.ofDay (day : Int) : Date :=
  let year := yearOfDay day
  let dayOfYear := (day - daysBeforeYear year).toNat
  let found := findMonth 1 dayOfYear (monthLengths year)
  { year := year
    month := found.1
    day := found.2
    ordinal := dayOfYear + 1
    weekday := ((day + 4) % 7).toNat }

namespace Date

/-- The weekday from Monday as one on. -/
def isoWeekday (date : Date) : Nat := if date.weekday = 0 then 7 else date.weekday

/-- The number of the week, counting from the first Sunday of the year. -/
def sundayWeek (date : Date) : Nat := (date.ordinal + 6 - date.weekday) / 7

/-- The number of the week, counting from the first Monday of the year. -/
def mondayWeek (date : Date) : Nat := (date.ordinal + 7 - date.isoWeekday) / 7

/-- Whether a year has a week of number 53: it begins on a Thursday, or is a leap year that begins
on a Wednesday. -/
def hasLongYear (year : Int) : Bool :=
  let first := (daysBeforeYear year + 4) % 7
  first == 4 || (isLeap year && first == 3)

/-- The year that the week of the date belongs to, and the number of the week in it. -/
def isoWeek (date : Date) : Int × Nat :=
  let week := (date.ordinal + 10 - date.isoWeekday) / 7
  if week = 0 then (date.year - 1, if hasLongYear (date.year - 1) then 53 else 52)
  else if week = 53 ∧ !hasLongYear date.year then (date.year + 1, 1)
  else (date.year, week)

/-- The quarter of the year. -/
def quarter (date : Date) : Nat := (date.month + 2) / 3

end Date

/-- An instant split into a date and a time of day. -/
structure Moment where
  timestamp : Int
  date : Date
  hour : Nat
  minute : Nat
  second : Nat
  nanosecond : Nat

/-- The moment at a number of nanoseconds from the first of January 1970. -/
def Moment.ofNanos (nanos : Int) : Moment :=
  let timestamp := nanos / Nanos.perSecond
  let secondOfDay := (timestamp % 86400).toNat
  { timestamp := timestamp
    date := .ofDay (timestamp / 86400)
    hour := secondOfDay / 3600
    minute := secondOfDay / 60 % 60
    second := secondOfDay % 60
    nanosecond := (nanos % Nanos.perSecond).toNat }

namespace Moment

/-- The hour on a clock face of twelve. -/
def hour12 (moment : Moment) : Nat := if moment.hour % 12 = 0 then 12 else moment.hour % 12

/-- Whether the moment is before noon. -/
def isMorning (moment : Moment) : Bool := moment.hour < 12

end Moment

end MetricsDaemon.Calendar
