import DataGrid.Decimal.Integer
import DataGrid.Time.Calendar

/-!
# Instants and their text

The time of a change is an instant in universal time.  Its text has the form of
RFC 3339: a date, a time of day with a fraction of the second when there is
one, and an offset.  Written texts have the offset zero; texts with any other
offset are read too.
-/

namespace DataGrid

/-- A moment in universal time with its nanoseconds, which reach a second
further within a leap second. -/
structure Instant where
  seconds : Int
  nanoseconds : Nat
deriving DecidableEq, Repr

namespace Instant

def nanosecondsPerSecond : Nat := 1000000000

/-- The last digits of a number, as many as are wanted. -/
def fixedDigits : Nat → Nat → List Char
  | 0, _ => []
  | count + 1, value =>
      fixedDigits count (value / 10) ++ [Char.ofNat (0x30 + value % 10)]

/-- A year in four digits; one that needs more, or lies before the year zero,
has a sign. -/
def writeYear (year : Int) : List Char :=
  if 0 ≤ year ∧ year ≤ 9999 then fixedDigits 4 year.toNat
  else
    let digits := Nat.toDigits 10 year.natAbs
    (if year < 0 then '-' else '+') ::
      List.replicate (4 - digits.length) '0' ++ digits

/-- The fraction of a second in as many groups of three digits as it needs. -/
def writeFraction (nanoseconds : Nat) : List Char :=
  if nanoseconds = 0 then []
  else if nanoseconds % 1000000 = 0 then
    '.' :: fixedDigits 3 (nanoseconds / 1000000)
  else if nanoseconds % 1000 = 0 then
    '.' :: fixedDigits 6 (nanoseconds / 1000)
  else '.' :: fixedDigits 9 nanoseconds

def write (instant : Instant) : List Char :=
  let moment := Time.Moment.ofSeconds instant.seconds
  let second := moment.second +
    instant.nanoseconds / nanosecondsPerSecond
  writeYear moment.date.year ++ '-' :: fixedDigits 2 moment.date.month ++
    '-' :: fixedDigits 2 moment.date.day ++
    'T' :: fixedDigits 2 moment.hour ++ ':' :: fixedDigits 2 moment.minute ++
    ':' :: fixedDigits 2 second ++
    writeFraction (instant.nanoseconds % nanosecondsPerSecond) ++
    ['+', '0', '0', ':', '0', '0']

def toText (instant : Instant) : String :=
  String.ofList instant.write

/-- A number of so many digits at the front, and the rest. -/
def takeFixed (count : Nat) (characters : List Char) :
    Option (Nat × List Char) :=
  let digits := characters.take count
  if digits.length = count && digits.all Char.isDigit then
    some (Decimal.digitsValue digits, characters.drop count)
  else none

def skip (wanted : Char) : List Char → Option (List Char)
  | [] => none
  | character :: rest => if character == wanted then some rest else none

def skipSeparator : List Char → Option (List Char)
  | 'T' :: rest | 't' :: rest | ' ' :: rest => some rest
  | _ => none

/-- The nanoseconds that a fraction stands for, and the rest.  Digits behind
the ninth do not count; a point needs at least one digit behind it. -/
def takeFraction : List Char → Option (Nat × List Char)
  | '.' :: rest =>
      let digits := rest.takeWhile Char.isDigit
      if digits.isEmpty then none
      else
        let counted := digits.take 9
        some (Decimal.digitsValue counted * Nat.pow 10 (9 - counted.length),
          rest.dropWhile Char.isDigit)
  | rest => some (0, rest)

/-- The seconds by which an offset is ahead of universal time.  The letter Z
stands for none, and the minus sign may be a hyphen. -/
def readOffset (characters : List Char) : Option Int :=
  match characters with
  | ['Z'] | ['z'] => some 0
  | sign :: rest => do
      guard (sign == '+' || sign == '-' || sign == '−')
      let (hours, rest) ← takeFixed 2 rest
      let (minutes, rest) ← takeFixed 2 (← skip ':' rest)
      guard (rest.isEmpty && hours ≤ 23 && minutes ≤ 59)
      let seconds : Int := hours * 3600 + minutes * 60
      pure (if sign == '+' then seconds else -seconds)
  | [] => none

def takeDate (characters : List Char) : Option (Int × List Char) := do
  let (year, rest) ← takeFixed 4 characters
  let (month, rest) ← takeFixed 2 (← skip '-' rest)
  let (day, rest) ← takeFixed 2 (← skip '-' rest)
  guard (1 ≤ month && month ≤ 12 && 1 ≤ day &&
    day ≤ Time.Date.daysOfMonth year month)
  pure (({ year, month, day } : Time.Date).toDays, rest)

/-- Read the characters of an instant.  The second may be a leap second at the
end of any minute. -/
def read? (characters : List Char) : Option Instant := do
  let (days, rest) ← takeDate characters
  let (hour, rest) ← takeFixed 2 (← skipSeparator rest)
  let (minute, rest) ← takeFixed 2 (← skip ':' rest)
  let (second, rest) ← takeFixed 2 (← skip ':' rest)
  guard (hour ≤ 23 && minute ≤ 59 && second ≤ 60)
  let (nanoseconds, rest) ← takeFraction rest
  let offset ← readOffset rest
  let leap := second / 60
  pure {
    seconds := days * 86400 + (hour * 3600 + minute * 60 + (second - leap)) -
      offset
    nanoseconds := nanoseconds + leap * nanosecondsPerSecond }

def ofText? (text : String) : Option Instant :=
  read? text.toList

end Instant

end DataGrid
