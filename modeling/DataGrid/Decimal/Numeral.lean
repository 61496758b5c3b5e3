import DataGrid.Decimal.Double
import DataGrid.Decimal.Integer
import DataGrid.Text.Ascii

/-!
# Decimal numerals

A numeral is an optional sign, digits with an optional point among or around
them, and an optional exponent.  `take` cuts the longest numeral off the front
of a text; a text is a numeral when nothing is left.  The value of a numeral is
the nearest double precision number.
-/

namespace DataGrid.Decimal

/-- The parts of a numeral as they are written. -/
structure Numeral where
  negative : Bool
  whole : List Char
  fraction : List Char
  exponentNegative : Bool
  exponent : List Char
deriving DecidableEq, Repr

namespace Numeral

/-- The longest run of digits at the front, and the rest. -/
def takeDigits (characters : List Char) : List Char × List Char :=
  (characters.takeWhile Char.isDigit, characters.dropWhile Char.isDigit)

/-- A sign at the front, and the rest. -/
def takeSign : List Char → Bool × List Char
  | '-' :: rest => (true, rest)
  | '+' :: rest => (false, rest)
  | rest => (false, rest)

/-- A point and the digits after it, and the rest. -/
def takeFraction : List Char → List Char × List Char
  | '.' :: rest => takeDigits rest
  | rest => ([], rest)

/-- An exponent at the front, and the rest.  A marker without digits after it
is no exponent and stays in the rest. -/
def takeExponent (characters : List Char) : Bool × List Char × List Char :=
  match characters with
  | marker :: rest =>
      if marker == 'e' || marker == 'E' then
        let (negative, unsigned) := takeSign rest
        let (digits, remaining) := takeDigits unsigned
        if digits.isEmpty then (false, [], characters)
        else (negative, digits, remaining)
      else (false, [], characters)
  | [] => (false, [], [])

/-- The longest numeral at the front of a text, and the rest.  At least one
digit has to stand before or after the point. -/
def take (characters : List Char) : Option (Numeral × List Char) :=
  let (negative, unsigned) := takeSign characters
  let (whole, afterWhole) := takeDigits unsigned
  let (fraction, afterFraction) := takeFraction afterWhole
  if whole.isEmpty && fraction.isEmpty then none
  else
    let (exponentNegative, exponent, rest) := takeExponent afterFraction
    some ({ negative, whole, fraction, exponentNegative, exponent }, rest)

def read? (characters : List Char) : Option Numeral :=
  match take characters with
  | some (numeral, []) => some numeral
  | _ => none

def significand (numeral : Numeral) : Nat :=
  digitsValue (numeral.whole ++ numeral.fraction)

def scale (numeral : Numeral) : Int :=
  let written : Int := digitsValue numeral.exponent
  (if numeral.exponentNegative then -written else written) -
    numeral.fraction.length

/-- The double precision number nearest to a numeral.  A scale that puts every
digit beyond the range is settled before any power of ten is formed. -/
def toDouble (numeral : Numeral) : Double :=
  let digits := numeral.significand
  let length : Int := (numeral.whole ++ numeral.fraction).length
  if digits = 0 then { Double.zero with negative := numeral.negative }
  else if 400 < numeral.scale then Double.infinite numeral.negative
  else if numeral.scale + length < -400 then
    { Double.zero with negative := numeral.negative }
  else Double.ofDecimal numeral.negative digits numeral.scale

end Numeral

/-- A text names a number when it is a numeral, or the name of infinity or of
no number at all in any case of its letters and with an optional sign. -/
def namesNumber (text : String) : Bool :=
  (Numeral.read? text.toList).isSome ||
    let name := Text.lower (String.ofList (Numeral.takeSign text.toList).2)
    name == "inf" || name == "infinity" || name == "nan"

end DataGrid.Decimal
