import DataGrid.Decimal.Double
import DataGrid.Time.Zone

/-!
# Moments as text in a database

The database writes a moment in a format of its own: a percent sign and a
letter stand for a part of the date or of the time of day.  It keeps moments as
whole milliseconds since noon of a day long before any other, so a number of
seconds since the beginning of 1970 is first brought into that form.
-/

namespace DataGrid.Database

/-- The milliseconds from the origin of moments to the beginning of 1970. -/
def originDistance : Int := 210866760000000

/-- The milliseconds from the origin of moments to the end of the year 9999. -/
def momentLimit : Int := 464269060800000

/-- The milliseconds since the origin that a number of seconds since the
beginning of 1970 stands for, when they do not lie beyond the year 9999.  The
sums are those of double precision numbers, and the last one, of a half, rounds
to whole milliseconds. -/
def millisecondsOf? (seconds : Double) : Option Int :=
  if !seconds.isFinite then none
  else
    let scaled := (seconds.mul (.ofInt 1000)).add (.ofInt originDistance)
    if scaled.compareInt 0 = .lt || scaled.compareInt momentLimit != .lt then
      none
    else
      let whole := (scaled.add (.ofRatio false 1 2)).toInteger
      if whole < momentLimit then some whole else none

def momentPart (moment : Time.Moment) : Char → Option (List Char)
  | 'Y' => some (Instant.fixedDigits 4 moment.date.year.toNat)
  | 'm' => some (Instant.fixedDigits 2 moment.date.month)
  | 'd' => some (Instant.fixedDigits 2 moment.date.day)
  | 'H' => some (Instant.fixedDigits 2 moment.hour)
  | 'M' => some (Instant.fixedDigits 2 moment.minute)
  | 'S' => some (Instant.fixedDigits 2 moment.second)
  | 'w' => some (Instant.fixedDigits 1 moment.weekday)
  | '%' => some ['%']
  | _ => none

/-- The characters of a format for a moment; a letter without a meaning spoils
the format. -/
def writeMoment (moment : Time.Moment) : List Char → Option (List Char)
  | [] => some []
  | ['%'] => none
  | '%' :: letter :: rest => do
      pure ((← momentPart moment letter) ++ (← writeMoment moment rest))
  | character :: rest => (writeMoment moment rest).map (character :: ·)

/-- Seconds since the beginning of 1970 in a format, in local time.  A moment
that clocks show outside of the years from -4713 to 9999 is not written. -/
def formatMoment (localTime : Time.LocalTime) (seconds : Double)
    (format : List Char) : Option (List Char) := do
  let milliseconds ← millisecondsOf? seconds
  let whole := (milliseconds - originDistance) / 1000
  let shown := milliseconds + (localTime whole).seconds * 1000
  guard (0 ≤ shown ∧ shown < momentLimit)
  writeMoment (.ofSeconds ((shown - originDistance) / 1000)) format

end DataGrid.Database
