import DataGrid.Decimal.Extended
import DataGrid.Decimal.Numeral
import DataGrid.Json.Writer

/-!
# Real numbers as text

How a database reads a numeral and how it writes a double precision number.
Both ways go through numbers with sixty-four bits of precision: a numeral is
read from its leading digits, and fifteen significant digits are written.
-/

namespace DataGrid.Database

/-- Digits are read as long as the number before them is less than this one, so
that sixty-four bits hold it. -/
def digitsBound : Nat := 1844674407370955160

/-- Read digits behind a number; how many of them are left comes with it. -/
def leadingDigits (number : Nat) : List Char → Nat × Nat
  | [] => (number, 0)
  | digit :: rest =>
      if number < digitsBound then
        leadingDigits (10 * number + (digit.toNat - 0x30)) rest
      else (number, rest.length + 1)

/-- Take tens from an exponent into a number while sixty-four bits hold it. -/
def absorbTens : Nat → Nat → Nat × Nat
  | 0, number => (number, 0)
  | exponent + 1, number =>
      if number ≤ digitsBound then absorbTens exponent (10 * number)
      else (number, exponent + 1)

/-- Cancel tens of a number against those that it is divided by. -/
def cancelTens : Nat → Nat → Nat × Nat
  | 0, number => (number, 0)
  | exponent + 1, number =>
      if number % 10 = 0 then cancelTens exponent (number / 10)
      else (number, exponent + 1)

def realOfDigits (negative : Bool) (number : Nat) (exponent : Int) : Double :=
  let (number, exponent) : Nat × Int :=
    if 0 ≤ exponent then
      let (number, left) := absorbTens exponent.toNat number
      (number, left)
    else
      let (number, left) := cancelTens (-exponent).toNat number
      (number, -left)
  ((Extended.ofRatio number 1).scale exponent).toDouble negative

/-- The double precision number that a numeral is read as.  An exponent that
puts every digit beyond the range is settled first. -/
def readReal (numeral : Decimal.Numeral) : Double :=
  let (number, left) :=
    leadingDigits 0 (numeral.whole ++ numeral.fraction)
  let exponent := numeral.scale + left
  if number = 0 || exponent < -400 then
    { Double.zero with negative := numeral.negative }
  else if 400 < exponent then Double.infinite numeral.negative
  else realOfDigits numeral.negative number exponent

/-- Digits of a number in decimal notation: how many significant ones are
kept. -/
def realPrecision : Nat := 15

/-- The digits of a positive number, rounded half up, without the zeros at
their end, and the exponent of the first one. -/
def significantDigits (number : Double) : List Char × Int :=
  let (units, exponent) := Extended.toDecimal number
  let dropped := (Nat.toDigits 10 units).length - realPrecision
  let unit := Nat.pow 10 dropped
  let digits := Nat.toDigits 10 ((units + unit / 2) / unit)
  let kept := (digits.reverse.dropWhile (· == '0')).reverse
  (kept, exponent + dropped + digits.length - 1)

/-- A double precision number as text; neither zero has a sign.  Exponents from
-4 to 14 are written positionally; beyond them a sign and at least two digits
follow the mark. -/
def realText (number : Double) : String :=
  let sign := if number.negative then "-" else ""
  if !number.isFinite then sign ++ "Inf"
  else if number.isZero then "0.0"
  else
    let (digits, exponent) := significantDigits number
    let shown :=
      if -4 ≤ exponent && exponent < realPrecision then
        Json.pointed digits (exponent + 1)
      else
        let written := Nat.toDigits 10 exponent.natAbs
        Json.pointed digits 1 ++ 'e' :: (if exponent < 0 then '-' else '+') ::
          List.replicate (2 - written.length) '0' ++ written
    sign ++ String.ofList shown

end DataGrid.Database
