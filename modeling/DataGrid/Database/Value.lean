import DataGrid.Database.Real
import DataGrid.Sql.Value

/-!
# Values in a database

How stored values compare with others, which conversions a column asks for, and
what values look like as text.
-/

namespace DataGrid

/-- What a column prefers its values to be. -/
inductive Affinity
  | integer
  | text
  | none
deriving DecidableEq, Repr

def Affinity.ofDeclaration : String → Affinity
  | "INTEGER" => .integer
  | "TEXT" => .text
  | _ => .none

namespace Sql.Value

def isGap (character : Char) : Bool :=
  let code := character.toNat
  code == 0x20 || (0x09 ≤ code && code ≤ 0x0D)

/-- A value as text, unless it is null. -/
def text? : Value → Option String
  | null => none
  | integer value => some (Json.ofInt value).toText
  | real value => some (Database.realText value)
  | text value => some value

def castToText (value : Value) : Value :=
  (value.text?.map Value.text).getD .null

/-- A double precision number, as an integer when it is one inside the range of
integers. -/
def ofDouble (number : Double) : Value :=
  let whole := number.toInteger
  if number.compareInt whole = .eq && whole != Decimal.least &&
      whole != Decimal.greatest then .integer whole
  else .real number

/-- The number that a numeral is read as, an integer when it is one that
fits. -/
def ofNumeral (written : List Char) (numeral : Decimal.Numeral) : Value :=
  match Decimal.readCharacters written with
  | some value => .integer value
  | none => ofDouble (Database.readReal numeral)

/-- A number, or a text that is a numeral with white space around it, as an
integer when it is one and as a double precision number otherwise; other values
as they are. -/
def toNumeric : Value → Value
  | real value => ofDouble value
  | text value =>
      let written := ((value.toList.dropWhile isGap).reverse.dropWhile
        isGap).reverse
      match Decimal.Numeral.read? written with
      | some numeral => ofNumeral written numeral
      | none => .text value
  | value => value

/-- A value as a double precision number, when it is a number or a text that
is a numeral. -/
def toDouble? (value : Value) : Option Double :=
  match value.toNumeric with
  | integer value => some (.ofInt value)
  | real value => some value
  | _ => none

def store (affinity : Affinity) (value : Value) : Value :=
  match affinity with
  | .integer => value.toNumeric
  | .text => value.castToText
  | .none => value

/-- The order of values: null first, then numbers, then texts by their
characters. -/
def order : Value → Value → Ordering
  | null, null => .eq
  | null, _ => .lt
  | _, null => .gt
  | integer first, integer second => compare first second
  | integer first, real second => (second.compareInt first).swap
  | real first, integer second => first.compareInt second
  | real first, real second => first.compareDouble second
  | text first, text second => compare first second
  | text _, _ => .gt
  | _, text _ => .lt

/-- The affinity by which two operands are converted before they are compared:
numbers win over text, and an operand without an affinity gives way. -/
def comparisonAffinity : Affinity → Affinity → Affinity
  | .integer, _ | _, .integer => .integer
  | .text, .none | .none, .text => .text
  | _, _ => .none

/-- The order of two operands after conversion; nothing compares with null. -/
def compare? (firstAffinity secondAffinity : Affinity)
    (first second : Value) : Option Ordering :=
  match first, second with
  | null, _ | _, null => none
  | first, second =>
      let affinity := comparisonAffinity firstAffinity secondAffinity
      some (order (first.store affinity) (second.store affinity))

/-- The truth of a value: null has none, and other values hold when they are
numbers other than zero. -/
def truth? : Value → Option Bool
  | null => none
  | integer value => some (value != 0)
  | real value => some (!value.isZero)
  | text _ => some false

def ofTruth : Option Bool → Value
  | some true => .integer 1
  | some false => .integer 0
  | none => .null

/-- A value in a row of an answer.  What is not finite has no place in JSON. -/
def toJson : Value → Json
  | null => .null
  | integer value => .ofInt value
  | real value => if value.isFinite then .number (.real value) else .null
  | text value => .text value

end Sql.Value

end DataGrid
