import DataGrid.Decimal.Double

/-!
# Extended precision numbers

A magnitude with sixty-four bits of precision, eleven more than a double
precision number has, and with any exponent.  It carries what lies between
decimal digits and a double precision number: digits are scaled by powers of
ten one after another, and each step rounds to the nearest magnitude, a tie
going to the even significand.  Several steps may round several times, so what
comes out is close to the exact value but not always nearest to it.
-/

namespace DataGrid

/-- An extended precision number: so many units of a power of two. -/
structure Extended where
  significand : Nat
  exponent : Int
deriving DecidableEq, Repr

namespace Extended

def ofRatio (numerator denominator : Nat) : Extended :=
  let exponent := Double.binade numerator denominator - 63
  { significand := Double.units numerator denominator exponent, exponent }

/-- The magnitude of a finite double precision number, which is exact. -/
def ofDouble (number : Double) : Extended :=
  let (significand, exponent) := Double.parts number.place
  { significand, exponent }

def ratio (number : Extended) : Nat × Nat :=
  Double.ratioOfUnits number.significand number.exponent

def powerOfTen (exponent : Int) : Extended :=
  if 0 ≤ exponent then ofRatio (Nat.pow 10 exponent.toNat) 1
  else ofRatio 1 (Nat.pow 10 (-exponent).toNat)

def mul (first second : Extended) : Extended :=
  let (numerator, denominator) := first.ratio
  let (numerator', denominator') := second.ratio
  ofRatio (numerator * numerator') (denominator * denominator')

def less (first second : Extended) : Bool :=
  let (numerator, denominator) := first.ratio
  let (numerator', denominator') := second.ratio
  numerator * denominator' < numerator' * denominator

def whole (number : Extended) : Nat :=
  number.ratio.1 / number.ratio.2

/-- The nearest double precision number with a given sign.  What is greater
than the greatest finite one is infinite, however close to it. -/
def toDouble (negative : Bool) (number : Extended) : Double :=
  if (ofDouble Double.greatest).less number then
    Double.infinite negative
  else Double.ofRatio negative number.ratio.1 number.ratio.2

def times (factor : Extended) : Nat → Extended → Extended
  | 0, number => number
  | count + 1, number => times factor count (number.mul factor)

/-- A positive number times a power of ten, by steps of a hundred, of ten and
of one in the exponent. -/
def scale (number : Extended) (exponent : Int) : Extended :=
  let step (size : Nat) : Extended :=
    powerOfTen (if exponent < 0 then -(size : Int) else size)
  let steps := exponent.natAbs
  times (step 1) (steps % 10)
    (times (step 10) (steps % 100 / 10)
      (times (step 100) (steps / 100) number))

/-- Multiply by `10 ^ step` as long as a number is out of bounds, the fuel
bounding the number of times.  The power of ten that makes up for it comes with
the number. -/
def scaleWhile (step : Int) (outside : Extended → Bool) :
    Nat → Extended × Int → Extended × Int
  | 0, state => state
  | fuel + 1, (number, exponent) =>
      if outside number then
        scaleWhile step outside fuel
          (number.mul (powerOfTen step), exponent - step)
      else (number, exponent)

/-- Multiply by a power of ten while a number is less than another one. -/
def raise (step : Nat) (bound : Int) : Extended × Int → Extended × Int :=
  scaleWhile step (·.less (powerOfTen bound)) 12

/-- Divide by a power of ten while a number is not less than another one. -/
def reduce (step : Nat) (bound : Int) : Extended × Int → Extended × Int :=
  scaleWhile (-(step : Int)) (!·.less (powerOfTen bound)) 12

/-- A positive double precision number as a natural number of eighteen or
nineteen digits times a power of ten, the digits behind those cut off.  No more
than ten steps of a size are needed. -/
def toDecimal (number : Double) : Nat × Int :=
  let start : Extended × Int := (ofDouble number, 0)
  let (scaled, exponent) :=
    if start.1.less (powerOfTen 19) then
      raise 1 17 (raise 10 7 (raise 100 (-97) start))
    else reduce 1 19 (reduce 10 29 (reduce 100 119 start))
  (scaled.whole, exponent)

end Extended

end DataGrid
