import DataGrid.Decimal.Double

/-!
# The fewest digits that read back

Among the decimals that round to a given double precision number, `shortest`
picks one with the fewest digits, and of those the one nearest to the number.
-/

namespace DataGrid.Decimal

/-- The numbers that round to a magnitude, as a numerator range over one
denominator: every ratio between the two ends does.  The ends themselves do
when the significand is even. -/
structure Interval where
  low : Nat
  middle : Nat
  high : Nat
  denominator : Nat
  closed : Bool

/-- The interval of the magnitude at a place.  Below a power of two the
neighbour is twice as near, the least normal number excepted. -/
def Interval.ofPlace (place : Nat) : Interval :=
  let (significand, exponent) := Double.parts place
  let lowGap :=
    if significand = Double.leadingBit && 1 < place / Double.leadingBit then 1
    else 2
  let up := if 0 ≤ exponent then Nat.pow 2 exponent.toNat else 1
  let down := if 0 ≤ exponent then 1 else Nat.pow 2 (-exponent).toNat
  { low := (4 * significand - lowGap) * up
    middle := 4 * significand * up
    high := (4 * significand + 2) * up
    denominator := 4 * down
    closed := significand % 2 = 0 }

def Interval.contains (interval : Interval) (numerator denominator : Nat) :
    Bool :=
  let value := numerator * interval.denominator
  if interval.closed then
    interval.low * denominator ≤ value && value ≤ interval.high * denominator
  else
    interval.low * denominator < value && value < interval.high * denominator

/-- The multiple of a power of ten that lies in the interval and nearest to its
middle, given as the factor; a tie goes to the even factor. -/
def Interval.onGrid (interval : Interval) (exponent : Int) : Option Nat :=
  let up := if 0 ≤ exponent then Nat.pow 10 exponent.toNat else 1
  let down := if 0 ≤ exponent then 1 else Nat.pow 10 (-exponent).toNat
  let numerator := interval.middle * down
  let denominator := interval.denominator * up
  let below := numerator / denominator
  let nearest := Double.nearest numerator denominator
  let other := if nearest = below then below + 1 else below
  let hits (factor : Nat) := interval.contains (factor * up) down
  if hits nearest then some nearest
  else if hits other then some other
  else none

/-- The digits and the power of ten of the shortest decimal that reads back as
the magnitude at a place that is neither zero nor infinite.  Grids are tried
from coarse to fine, beginning above the magnitude. -/
def shortest (place : Nat) : Nat × Int :=
  let (significand, exponent) := Double.parts place
  let top : Int :=
    ((Nat.log2 significand : Int) + exponent) * 30103 / 100000 + 2
  let found := (List.range 24).findSome? fun (step : Nat) =>
    let grid := top - (step : Int)
    ((Interval.ofPlace place).onGrid grid).map (·, grid)
  found.getD (0, 0)

end DataGrid.Decimal
