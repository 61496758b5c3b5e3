import DataGrid.Json.Writer
import DataGrid.Text.Blank

/-!
# Rows

A row is an object of JSON values.  Its id, and every value that is compared
with what a client typed, is taken as text.
-/

namespace DataGrid

abbrev Row := Json.Fields

namespace Json

/-- A value as text: nothing for null and for falsehood, `1` for truth, a text
as it is, and the JSON text of everything else. -/
def plain : Json → String
  | .null => ""
  | .bool true => "1"
  | .bool false => ""
  | .text value => value
  | value => value.toText

/-- The row id that a value names.  Null and the empty text name none. -/
def rowId? : Json → Option String
  | .null => none
  | .text "" => none
  | value => some value.plain

end Json

namespace Row

/-- The text of a cell; a missing one is empty. -/
def cellText (row : Row) (name : String) : String :=
  ((Json.Fields.get? row name).map Json.plain).getD ""

/-- The id of a row, taken from its cell `id`. -/
def id? (row : Row) : Option String :=
  (Json.Fields.get? row "id").bind Json.rowId?

/-- The ids in a comma-separated list, without the blanks around them. -/
def splitIds (text : String) : List String :=
  ((Text.splitAt ',' text).map Text.trim).filter (!·.isEmpty)

end Row

/-- How a request names the row that a form belongs to: by its id, or by
several key fields in the order of their names. -/
inductive RowIdentity
  | single (id : String)
  | fields (fields : List (String × String))
deriving DecidableEq, Repr

namespace RowIdentity

def toRow : RowIdentity → Row
  | single id => [("id", .text id)]
  | fields pairs => pairs.map fun pair => (pair.1, .text pair.2)

def id? : RowIdentity → Option String
  | single id => some id
  | fields pairs => pairs.lookup "id"

end RowIdentity

end DataGrid
