/-!
# The calendar

Seconds since the beginning of 1970 as dates and times of day, in the Gregorian
calendar carried on in both directions and in universal time.
-/

namespace DataGrid.Time

/-- A date of the calendar. -/
structure Date where
  year : Int
  month : Nat
  day : Nat
deriving DecidableEq, Repr

/-- A moment as a date and a time of day. -/
structure Moment where
  date : Date
  hour : Nat
  minute : Nat
  second : Nat
  /-- The days since the beginning of 1970. -/
  days : Int
  /-- The seconds since the beginning of 1970. -/
  seconds : Int
deriving DecidableEq, Repr

/-- The days from the first of March of year zero to the beginning of 1970. -/
def epochDays : Int := 719468

/-- The days of four centuries. -/
def daysOfEra : Int := 146097

namespace Date

/-- The date that lies a number of days after the beginning of 1970.  Years are
counted from March, so that the leap day is the last one. -/
def ofDays (days : Int) : Date :=
  let shifted := days + epochDays
  let era := shifted / daysOfEra
  let dayOfEra := (shifted % daysOfEra).toNat
  let yearOfEra := (dayOfEra - dayOfEra / 1460 + dayOfEra / 36524 -
    dayOfEra / 146096) / 365
  let dayOfYear := dayOfEra - (365 * yearOfEra + yearOfEra / 4 -
    yearOfEra / 100)
  let monthFromMarch := (5 * dayOfYear + 2) / 153
  let month :=
    if monthFromMarch < 10 then monthFromMarch + 3 else monthFromMarch - 9
  let year := era * 400 + yearOfEra
  { year := if month ≤ 2 then year + 1 else year
    month
    day := dayOfYear - (153 * monthFromMarch + 2) / 5 + 1 }

def toDays (date : Date) : Int :=
  let year := if date.month ≤ 2 then date.year - 1 else date.year
  let era := year / 400
  let yearOfEra := year % 400
  let monthFromMarch : Int := (date.month + 9) % 12
  let dayOfYear := (153 * monthFromMarch + 2) / 5 + date.day - 1
  let dayOfEra := yearOfEra * 365 + yearOfEra / 4 - yearOfEra / 100 + dayOfYear
  era * daysOfEra + dayOfEra - epochDays

def isLeap (year : Int) : Bool :=
  year % 4 == 0 && (year % 100 != 0 || year % 400 == 0)

def daysOfMonth (year : Int) (month : Nat) : Nat :=
  match month with
  | 2 => if isLeap year then 29 else 28
  | 4 | 6 | 9 | 11 => 30
  | _ => 31

def dayOfYear (date : Date) : Nat :=
  (date.toDays - toDays { date with month := 1, day := 1 }).toNat + 1

end Date

namespace Moment

def ofSeconds (seconds : Int) : Moment :=
  let days := seconds / 86400
  let ofDay := (seconds % 86400).toNat
  { date := .ofDays days
    hour := ofDay / 3600
    minute := ofDay / 60 % 60
    second := ofDay % 60
    days
    seconds }

/-- The years that a moment can lie in. -/
def leastYear : Int := -262143

def greatestYear : Int := 262142

/-- The moment a number of seconds after the beginning of 1970, when its year
is one that can be shown. -/
def ofSeconds? (seconds : Int) : Option Moment :=
  let moment := ofSeconds seconds
  if leastYear ≤ moment.date.year && moment.date.year ≤ greatestYear then
    some moment
  else none

/-- The day of the week, counted from Sunday as zero. -/
def weekday (moment : Moment) : Nat :=
  ((moment.days + 4) % 7).toNat

/-- The day of the week, counted from Monday as zero. -/
def weekdayFromMonday (moment : Moment) : Nat :=
  ((moment.days + 3) % 7).toNat

/-- The week of the year, weeks beginning on Sundays and the days before the
first of them in week zero. -/
def weekFromSunday (moment : Moment) : Nat :=
  (moment.date.dayOfYear + 6 - moment.weekday) / 7

/-- The week of the year, weeks beginning on Mondays and the days before the
first of them in week zero. -/
def weekFromMonday (moment : Moment) : Nat :=
  (moment.date.dayOfYear + 6 - moment.weekdayFromMonday) / 7

def thursday (moment : Moment) : Date :=
  .ofDays (moment.days - moment.weekdayFromMonday + 3)

/-- The year that the moment's week belongs to: that of its Thursday. -/
def isoYear (moment : Moment) : Int :=
  moment.thursday.year

/-- The number of the moment's week in that year. -/
def isoWeek (moment : Moment) : Nat :=
  (moment.thursday.dayOfYear - 1) / 7 + 1

def quarter (moment : Moment) : Nat :=
  (moment.date.month - 1) / 3 + 1

def hourOfTwelve (moment : Moment) : Nat :=
  if moment.hour % 12 = 0 then 12 else moment.hour % 12

end Moment

end DataGrid.Time
