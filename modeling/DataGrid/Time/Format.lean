import DataGrid.Error
import DataGrid.Time.Zone

/-!
# Moments as text

A format is text with specifiers: a percent sign, possibly a mark that changes
the padding, and a letter.  A format is first read into items; one that holds
an unknown specifier is refused as a whole.  Then the items are written for a
moment.
-/

namespace DataGrid.Time

/-- What a number is filled up with at its front. -/
inductive Pad
  | nothing
  | zero
  | space
deriving DecidableEq, Repr

/-- The numbers of a moment that can be written. -/
inductive Part
  | year
  | century
  | yearOfCentury
  | isoYear
  | isoYearOfCentury
  | quarter
  | month
  | day
  | weekFromSunday
  | weekFromMonday
  | isoWeek
  | weekdayFromSunday
  | weekdayFromMonday
  | dayOfYear
  | hour
  | hourOfTwelve
  | minute
  | second
  | nanosecond
  | timestamp
deriving DecidableEq, Repr

/-- An item of a format. -/
inductive Item
  | literal (text : List Char)
  | number (part : Part) (pad : Pad)
  | weekdayShort
  | weekdayLong
  | monthShort
  | monthLong
  | halfDaySmall
  | halfDayCapital
  | zone
  | offset (style : OffsetStyle)
  /-- The fraction of a second with its point, left out when it is zero. -/
  | fraction
  /-- Some leading digits of the fraction, with or without the point. -/
  | fractionDigits (point : Bool) (digits : Nat)
  | complete
  /-- A specifier that can be read but stands for nothing to write. -/
  | unwritable
deriving DecidableEq, Repr

def zeroPadded (part : Part) : Item := .number part .zero

def spacePadded (part : Part) : Item := .number part .space

def unpadded (part : Part) : Item := .number part .nothing

def separated (separator : Char) : List Item → List Item
  | [] => []
  | [item] => [item]
  | item :: rest => item :: .literal [separator] :: separated separator rest

def clock : List Item :=
  separated ':' [zeroPadded .hour, zeroPadded .minute, zeroPadded .second]

def shortDate : List Item :=
  separated '/' [zeroPadded .month, zeroPadded .day, zeroPadded .yearOfCentury]

/-- The items of a letter; several for the letters that abbreviate a longer
format. -/
def letterItems : Char → Option (List Item)
  | 'A' => some [.weekdayLong]
  | 'B' => some [.monthLong]
  | 'C' => some [zeroPadded .century]
  | 'D' | 'x' => some shortDate
  | 'F' => some (separated '-'
      [zeroPadded .year, zeroPadded .month, zeroPadded .day])
  | 'G' => some [zeroPadded .isoYear]
  | 'H' => some [zeroPadded .hour]
  | 'I' => some [zeroPadded .hourOfTwelve]
  | 'M' => some [zeroPadded .minute]
  | 'P' => some [.halfDaySmall]
  | 'R' => some (separated ':' [zeroPadded .hour, zeroPadded .minute])
  | 'S' => some [zeroPadded .second]
  | 'T' | 'X' => some clock
  | 'U' => some [zeroPadded .weekFromSunday]
  | 'V' => some [zeroPadded .isoWeek]
  | 'W' => some [zeroPadded .weekFromMonday]
  | 'Y' => some [zeroPadded .year]
  | 'Z' => some [.zone]
  | 'a' => some [.weekdayShort]
  | 'b' | 'h' => some [.monthShort]
  | 'c' => some (separated ' ' [.weekdayShort, .monthShort, spacePadded .day] ++
      .literal [' '] :: clock ++ [.literal [' '], zeroPadded .year])
  | 'd' => some [zeroPadded .day]
  | 'e' => some [spacePadded .day]
  | 'f' => some [zeroPadded .nanosecond]
  | 'g' => some [zeroPadded .isoYearOfCentury]
  | 'j' => some [zeroPadded .dayOfYear]
  | 'k' => some [spacePadded .hour]
  | 'l' => some [spacePadded .hourOfTwelve]
  | 'm' => some [zeroPadded .month]
  | 'n' => some [.literal ['\n']]
  | 'p' => some [.halfDayCapital]
  | 'q' => some [unpadded .quarter]
  | 'r' => some (separated ':'
      [zeroPadded .hourOfTwelve, zeroPadded .minute, zeroPadded .second] ++
      [.literal [' '], .halfDayCapital])
  | 's' => some [unpadded .timestamp]
  | 't' => some [.literal ['\t']]
  | 'u' => some [unpadded .weekdayFromMonday]
  | 'v' => some (separated '-'
      [spacePadded .day, .monthShort, zeroPadded .year])
  | 'w' => some [unpadded .weekdayFromSunday]
  | 'y' => some [zeroPadded .yearOfCentury]
  | 'z' => some [.offset .plain]
  | '+' => some [.complete]
  | '%' => some [.literal ['%']]
  | _ => none

/-- The padding that a mark asks for. -/
def padOf? : Char → Option Pad
  | '-' => some .nothing
  | '0' => some .zero
  | '_' => some .space
  | _ => none

/-- A specifier without its percent sign at the front of a text: its items and
the rest.  A padding mark goes only before a letter that stands for a single
number. -/
def takeSpecifier : List Char → Option (List Item × List Char)
  | '#' :: 'z' :: rest => some ([.unwritable], rest)
  | ':' :: 'z' :: rest => some ([.offset .colon], rest)
  | ':' :: ':' :: 'z' :: rest => some ([.offset .seconds], rest)
  | ':' :: ':' :: ':' :: 'z' :: rest => some ([.offset .hours], rest)
  | '.' :: 'f' :: rest => some ([.fraction], rest)
  | '.' :: '3' :: 'f' :: rest => some ([.fractionDigits true 3], rest)
  | '.' :: '6' :: 'f' :: rest => some ([.fractionDigits true 6], rest)
  | '.' :: '9' :: 'f' :: rest => some ([.fractionDigits true 9], rest)
  | '3' :: 'f' :: rest => some ([.fractionDigits false 3], rest)
  | '6' :: 'f' :: rest => some ([.fractionDigits false 6], rest)
  | '9' :: 'f' :: rest => some ([.fractionDigits false 9], rest)
  | first :: rest =>
      match padOf? first with
      | none => (letterItems first).map (·, rest)
      | some pad =>
          match rest with
          | [] => none
          | letter :: rest =>
              match letterItems letter with
              | some [.number part _] => some ([.number part pad], rest)
              | _ => none
  | [] => none

/-- The items of a format, the fuel bounding their number. -/
def itemsWithin : Nat → List Char → Option (List Item)
  | _, [] => some []
  | 0, _ :: _ => none
  | fuel + 1, '%' :: rest => do
      let (items, remaining) ← takeSpecifier rest
      pure (items ++ (← itemsWithin fuel remaining))
  | fuel + 1, character :: rest => do
      pure (.literal [character] :: (← itemsWithin fuel rest))

/-- The items of a format, or none when it holds an unknown specifier.  Every
item takes a character, so as many steps as there are characters suffice. -/
def items? (format : List Char) : Option (List Item) :=
  itemsWithin format.length format

def weekdayNames : List String :=
  ["Sunday", "Monday", "Tuesday", "Wednesday", "Thursday", "Friday",
    "Saturday"]

def monthNames : List String :=
  ["January", "February", "March", "April", "May", "June", "July", "August",
    "September", "October", "November", "December"]

/-- A number with at least a given width, the sign included.  Zeros come behind
the sign, spaces before it. -/
def padded (width : Nat) (value : Int) (pad : Pad) (signed : Bool) :
    List Char :=
  let sign := if value < 0 then ['-'] else if signed then ['+'] else []
  let digits := Nat.toDigits 10 value.natAbs
  let missing := width - (sign.length + digits.length)
  match pad with
  | .nothing => sign ++ digits
  | .zero => sign ++ List.replicate missing '0' ++ digits
  | .space => List.replicate missing ' ' ++ sign ++ digits

/-- A number of two digits.  The tens are the character so many places after
zero, whatever that is. -/
def twoDigits (value : Nat) (pad : Pad) : List Char :=
  let tens :=
    if value / 10 = 0 then
      match pad with
      | .nothing => []
      | .zero => ['0']
      | .space => [' ']
    else [Char.ofNat (0x30 + value / 10)]
  tens ++ [Char.ofNat (0x30 + value % 10)]

def yearDigits (year : Int) (pad : Pad) : List Char :=
  let ordinary := 0 ≤ year && year < 10000
  padded (if ordinary then 4 else 5) year pad (!ordinary)

def Part.write (moment : Moment) (pad : Pad) : Part → List Char
  | .year => yearDigits moment.date.year pad
  | .century => twoDigits (moment.date.year / 100 % 256).toNat pad
  | .yearOfCentury => twoDigits (moment.date.year % 100).toNat pad
  | .isoYear => yearDigits moment.isoYear pad
  | .isoYearOfCentury => twoDigits (moment.isoYear % 100).toNat pad
  | .quarter => Nat.toDigits 10 moment.quarter
  | .month => twoDigits moment.date.month pad
  | .day => twoDigits moment.date.day pad
  | .weekFromSunday => twoDigits moment.weekFromSunday pad
  | .weekFromMonday => twoDigits moment.weekFromMonday pad
  | .isoWeek => twoDigits moment.isoWeek pad
  | .weekdayFromSunday => Nat.toDigits 10 moment.weekday
  | .weekdayFromMonday => Nat.toDigits 10 (moment.weekdayFromMonday + 1)
  | .dayOfYear => padded 3 moment.date.dayOfYear pad false
  | .hour => twoDigits moment.hour pad
  | .hourOfTwelve => twoDigits moment.hourOfTwelve pad
  | .minute => twoDigits moment.minute pad
  | .second => twoDigits moment.second pad
  | .nanosecond => padded 9 0 pad false
  | .timestamp => padded 9 moment.seconds pad false

def completeDigits (moment : Moment) (zone : Zone) : List Char :=
  yearDigits moment.date.year .zero ++
    '-' :: twoDigits moment.date.month .zero ++
    '-' :: twoDigits moment.date.day .zero ++
    'T' :: twoDigits moment.hour .zero ++
    ':' :: twoDigits moment.minute .zero ++
    ':' :: twoDigits moment.second .zero ++ zone.offset.write .colon

def Item.write (moment : Moment) (zone : Zone) : Item → Option (List Char)
  | .literal text => some text
  | .number part pad => some (part.write moment pad)
  | .weekdayShort =>
      some (((weekdayNames.getD moment.weekday "").toList).take 3)
  | .weekdayLong => some (weekdayNames.getD moment.weekday "").toList
  | .monthShort =>
      some (((monthNames.getD (moment.date.month - 1) "").toList).take 3)
  | .monthLong => some (monthNames.getD (moment.date.month - 1) "").toList
  | .halfDaySmall => some (if moment.hour < 12 then ['a', 'm'] else ['p', 'm'])
  | .halfDayCapital =>
      some (if moment.hour < 12 then ['A', 'M'] else ['P', 'M'])
  | .zone => some zone.name.toList
  | .offset style => some (zone.offset.write style)
  | .fraction => some []
  | .fractionDigits point digits =>
      some ((if point then ['.'] else []) ++ List.replicate digits '0')
  | .complete => some (completeDigits moment zone)
  | .unwritable => none

/-- The items of a format for a moment, or none when one cannot be written. -/
def writeItems (moment : Moment) (zone : Zone) :
    List Item → Option (List Char)
  | [] => some []
  | item :: rest => do
      let first ← item.write moment zone
      pure (first ++ (← writeItems moment zone rest))

/-- Seconds since the beginning of 1970 in a format.  A moment too far away to
be shown is blank. -/
def formatSeconds (localTime : LocalTime) (seconds : Int)
    (format timezone : String) : Except Error String :=
  match items? format.toList with
  | none => .error (.table (.unknownSpecifier format))
  | some items =>
      if (Moment.ofSeconds? seconds).isNone then .ok ""
      else
        let zone := Zone.ofSetting localTime timezone seconds
        match writeItems (zone.moment seconds) zone items with
        | some characters => .ok (String.ofList characters)
        | none => .error (.table (.formatNotApplicable format))

end DataGrid.Time
