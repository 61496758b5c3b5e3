import DataGrid.Text.Ascii
import DataGrid.Time.Instant

/-!
# Local time

The clocks of a server are ahead of universal time or behind it, by an offset
that may change from one moment to the next.  A moment is shown in universal
time or in local time.
-/

namespace DataGrid.Time

/-- The seconds by which clocks are ahead of universal time, fewer than those of
a day; they are negative for clocks that are behind. -/
structure Offset where
  seconds : Int
  within : seconds.natAbs < 86400
deriving DecidableEq, Repr

/-- What stands between the hours and the minutes of an offset from universal
time, and how much of it is written. -/
inductive OffsetStyle
  | plain
  | colon
  | seconds
  | hours
deriving DecidableEq, Repr

namespace Offset

def universal : Offset where
  seconds := 0
  within := by decide

def sign (offset : Offset) : Char :=
  if offset.seconds < 0 then '-' else '+'

/-- The number of whole minutes that comes closest to the offset. -/
def minutes (offset : Offset) : Nat :=
  (offset.seconds.natAbs + 30) / 60

/-- An offset in a style.  Seconds that are not written are rounded away,
minutes are cut off. -/
def write (offset : Offset) : OffsetStyle → List Char
  | .plain =>
      offset.sign :: Instant.fixedDigits 2 (offset.minutes / 60) ++
        Instant.fixedDigits 2 (offset.minutes % 60)
  | .colon =>
      offset.sign :: Instant.fixedDigits 2 (offset.minutes / 60) ++
        ':' :: Instant.fixedDigits 2 (offset.minutes % 60)
  | .seconds =>
      let size := offset.seconds.natAbs
      offset.sign :: Instant.fixedDigits 2 (size / 3600) ++
        ':' :: Instant.fixedDigits 2 (size / 60 % 60) ++
        ':' :: Instant.fixedDigits 2 (size % 60)
  | .hours =>
      offset.sign :: Instant.fixedDigits 2 (offset.seconds.natAbs / 3600)

/-- What a zone is called that has no name besides its offset. -/
def name (offset : Offset) : String :=
  .ofList (offset.write
    (if offset.seconds.natAbs % 60 = 0 then .colon else .seconds))

end Offset

/-- The offset of local time at a moment, which is given by the seconds since
the beginning of 1970. -/
abbrev LocalTime := Int → Offset

/-- The local time of a server whose clocks show universal time. -/
def LocalTime.universal : LocalTime :=
  fun _ => .universal

/-- How a moment is shown: the offset of the clocks, and what their zone is
called. -/
structure Zone where
  offset : Offset
  name : String
deriving DecidableEq, Repr

namespace Zone

def universal : Zone where
  offset := .universal
  name := "UTC"

/-- The zone that a setting asks for at a moment.  Local time goes by its
offset, and every other setting asks for universal time. -/
def ofSetting (localTime : LocalTime) (timezone : String) (seconds : Int) :
    Zone :=
  if Text.sameLetters timezone "localtime" then
    { offset := localTime seconds, name := (localTime seconds).name }
  else universal

/-- A moment as the clocks of a zone show it.  The seconds since the beginning
of 1970 are the same in every zone. -/
def moment (zone : Zone) (seconds : Int) : Moment :=
  { Moment.ofSeconds (seconds + zone.offset.seconds) with seconds }

end Zone

end DataGrid.Time
