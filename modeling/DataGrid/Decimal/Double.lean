import DataGrid.Decimal.Integer

/-!
# Double precision numbers

A binary floating-point number with fifty-three bits of precision, held as its
sign and the place of its magnitude in the increasing sequence of magnitudes:
zero, the subnormal numbers, the normal numbers, infinity.  That place is also
the bit pattern without the sign, so the order of magnitudes is the order of
natural numbers.  There is no value that is not a number, because nothing in
this library produces one.

Arithmetic is exact on ratios of natural numbers and rounds once, to the
nearest magnitude, a tie going to the even place.
-/

namespace DataGrid

/-- The place of infinity among the magnitudes. -/
def Double.infinity : Nat := 0x7FF0000000000000

/-- A double precision number: a sign and the place of the magnitude. -/
structure Double where
  negative : Bool
  place : Nat
  place_le : place ≤ Double.infinity := by decide
deriving DecidableEq, Repr

namespace Double

def zero : Double := { negative := false, place := 0 }

def infinite (negative : Bool) : Double := { negative, place := infinity }

def greatest : Double := { negative := false, place := infinity - 1 }

instance : Inhabited Double := ⟨zero⟩

def isFinite (number : Double) : Bool :=
  number.place < infinity

/-- The magnitude is zero; both signs of zero are. -/
def isZero (number : Double) : Bool :=
  number.place == 0

/-- The leading bit of the significand of a normal number, and so the number of
magnitudes between a power of two and the next one. -/
def leadingBit : Nat := 0x10000000000000

/-- The integer nearest to a ratio; a tie goes to the even one. -/
def nearest (numerator denominator : Nat) : Nat :=
  let quotient := numerator / denominator
  let twice := 2 * (numerator % denominator)
  if twice < denominator then quotient
  else if denominator < twice then quotient + 1
  else if quotient % 2 = 0 then quotient
  else quotient + 1

/-- The greatest exponent `e` with `2 ^ e ≤ numerator / denominator`. -/
def binade (numerator denominator : Nat) : Int :=
  let guess : Int := (Nat.log2 numerator : Int) - (Nat.log2 denominator : Int)
  let reached :=
    if 0 ≤ guess then denominator * Nat.pow 2 guess.toNat ≤ numerator
    else denominator ≤ numerator * Nat.pow 2 (-guess).toNat
  if reached then guess else guess - 1

def units (numerator denominator : Nat) (exponent : Int) : Nat :=
  if 0 ≤ exponent then
    nearest numerator (denominator * Nat.pow 2 exponent.toNat)
  else nearest (numerator * Nat.pow 2 (-exponent).toNat) denominator

/-- So many units of `2 ^ exponent` as an exact ratio. -/
def ratioOfUnits (significand : Nat) (exponent : Int) : Nat × Nat :=
  if 0 ≤ exponent then (significand * Nat.pow 2 exponent.toNat, 1)
  else (significand, Nat.pow 2 (-exponent).toNat)

/-- The place of the magnitude nearest to a positive ratio.  Units below
`2 ^ -1074` do not exist, and what lies beyond the largest finite magnitude is
infinite. -/
def placeOfRatio (numerator denominator : Nat) : Nat :=
  if numerator = 0 then 0
  else
    let exponent : Int := max (binade numerator denominator - 52) (-1074)
    min infinity ((exponent + 1074).toNat * leadingBit +
      units numerator denominator exponent)

theorem placeOfRatio_le (numerator denominator : Nat) :
    placeOfRatio numerator denominator ≤ infinity := by
  unfold placeOfRatio
  split
  · exact Nat.zero_le _
  · exact Nat.min_le_left _ _

def ofRatio (negative : Bool) (numerator denominator : Nat) : Double where
  negative := negative
  place := placeOfRatio numerator denominator
  place_le := placeOfRatio_le numerator denominator

def ofInt (value : Int) : Double :=
  ofRatio (decide (value < 0)) value.natAbs 1

/-- The significand and the exponent of two of a magnitude: the magnitude is
the one times two to the other. -/
def parts (place : Nat) : Nat × Int :=
  let row : Nat := place / leadingBit
  if row = 0 then (place, -1074)
  else (place % leadingBit + leadingBit, (row : Int) - 1075)

def ratio (number : Double) : Nat × Nat :=
  let (significand, exponent) := parts number.place
  ratioOfUnits significand exponent

def mul (first second : Double) : Double :=
  let (numerator, denominator) := first.ratio
  let (numerator', denominator') := second.ratio
  ofRatio (first.negative != second.negative)
    (numerator * numerator') (denominator * denominator')

/-- The rounded quotient of a finite number by a finite number that is not
zero. -/
def div (first second : Double) : Double :=
  let (numerator, denominator) := first.ratio
  let (numerator', denominator') := second.ratio
  ofRatio (first.negative != second.negative)
    (numerator * denominator') (denominator * numerator')

/-- The rounded sum of two finite numbers.  Only negative zeros add up to a
negative zero. -/
def add (first second : Double) : Double :=
  let (numerator, denominator) := first.ratio
  let (numerator', denominator') := second.ratio
  let signed (negative : Bool) (value : Nat) : Int :=
    if negative then -(value : Int) else value
  let sum := signed first.negative (numerator * denominator') +
    signed second.negative (numerator' * denominator)
  ofRatio (sum < 0 || sum == 0 && first.negative && second.negative)
    sum.natAbs (denominator * denominator')

def neg (number : Double) : Double :=
  { number with negative := !number.negative }

def ofDecimal (negative : Bool) (digits : Nat) (exponent : Int) : Double :=
  if 0 ≤ exponent then
    ofRatio negative (digits * Nat.pow 10 exponent.toNat) 1
  else ofRatio negative digits (Nat.pow 10 (-exponent).toNat)

/-- Two numbers are equal as values: the signs of zeros do not matter. -/
def same (first second : Double) : Bool :=
  first.place == second.place &&
    (first.negative == second.negative || first.isZero)

/-- The integer part, brought into the range of sixty-four bits. -/
def toInteger (number : Double) : Int :=
  let (numerator, denominator) := number.ratio
  let whole : Int := Int.ofNat (numerator / denominator)
  Decimal.saturate (if number.negative then -whole else whole)

def compareInt (number : Double) (value : Int) : Ordering :=
  let (numerator, denominator) := number.ratio
  let signed : Int := if number.negative then -(numerator : Int) else numerator
  compare signed (value * denominator)

def compareDouble (first second : Double) : Ordering :=
  let rank (number : Double) : Int :=
    if number.negative then -(number.place : Int) else number.place
  compare (rank first) (rank second)

def bits (number : Double) : Nat :=
  (if number.negative then 0x8000000000000000 else 0) + number.place

end Double

end DataGrid
