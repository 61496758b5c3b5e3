/-!
# Whole numbers of sixty-four bits

Row ids, page numbers and timestamps are integers of sixty-four bits with a
sign.  They are held as `Int`; this file says which texts name one and what
happens at the two ends of the range.
-/

namespace DataGrid.Decimal

def least : Int := -0x8000000000000000

def greatest : Int := 0x7FFFFFFFFFFFFFFF

def fits (value : Int) : Bool :=
  decide (least ≤ value) && decide (value ≤ greatest)

/-- The nearest integer that fits. -/
def saturate (value : Int) : Int :=
  max least (min greatest value)

def digitsValue (digits : List Char) : Nat :=
  digits.foldl (fun value digit => 10 * value + (digit.toNat - 0x30)) 0

def readDigits (digits : List Char) : Option Nat :=
  if digits.isEmpty || !digits.all Char.isDigit then none
  else some (digitsValue digits)

/-- Read an optional sign and digits.  Nothing else may stand in the text, and
the number has to fit into sixty-four bits. -/
def readCharacters (characters : List Char) : Option Int :=
  let value :=
    match characters with
    | '-' :: digits => (readDigits digits).map fun value => -(value : Int)
    | '+' :: digits => (readDigits digits).map Int.ofNat
    | digits => (readDigits digits).map Int.ofNat
  value.filter fits

def readInteger (text : String) : Option Int :=
  readCharacters text.toList

end DataGrid.Decimal
