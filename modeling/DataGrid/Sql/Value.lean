import DataGrid.Decimal.Integer
import DataGrid.Json.Writer

/-!
# Values of a database

What can be bound to a placeholder of a statement.
-/

namespace DataGrid.Sql

/-- A value that is bound to a placeholder.  Integers have sixty-four bits. -/
inductive Value
  | null
  | integer (value : Int)
  | real (value : Double)
  | text (value : String)
deriving DecidableEq, Repr

namespace Value

/-- The value of a row id.  Ids travel as text; one that names an integer is
bound as that integer, so that it equals an integer key. -/
def ofRowId (id : String) : Value :=
  match Decimal.readInteger id with
  | some number => .integer number
  | none => .text id

/-- The value of a JSON value.  Truth is one and falsehood zero, integers
beyond sixty-four bits become doubles, lists and objects their own text. -/
def ofJson : Json → Value
  | .null => .null
  | .bool true => .integer 1
  | .bool false => .integer 0
  | .number (.integer value) =>
      if Decimal.fits value then .integer value
      else .real (Double.ofInt value)
  | .number (.real value) => .real value
  | .text value => .text value
  | value => .text value.toText

end Value

end DataGrid.Sql
