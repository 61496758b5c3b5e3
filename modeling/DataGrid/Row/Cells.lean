import DataGrid.Column
import DataGrid.Decimal.Numeral
import DataGrid.Row
import DataGrid.Text.Ascii
import DataGrid.Time.Format

/-!
# Cells

The cells of a row as they are shown: the columns of the table in their order,
moments in time written in their format.
-/

namespace DataGrid

namespace Json

/-- The seconds since the beginning of 1970 that a value names: an integer, the
integer part of another number, or a text that names an integer. -/
def seconds? : Json → Option Int
  | .number (.integer value) =>
      some (if Decimal.fits value then value
        else (Double.ofInt value).toInteger)
  | .number (.real value) => some value.toInteger
  | .text value => Decimal.readInteger (Text.trim value)
  | _ => none

/-- A value as a moment in a format.  Values that name no moment, and those
that do not lie after the beginning of 1970, are blank. -/
def formatMoment (localTime : Time.LocalTime) (value : Json)
    (format timezone : String) : Except Error String :=
  match value.seconds? with
  | some seconds =>
      if 0 < seconds then Time.formatSeconds localTime seconds format timezone
      else .ok ""
  | none => .ok ""

end Json

namespace Row

/-- A cell holds a moment: its column says so, or its column's key begins with
`time` and the cell with nothing but digits. -/
def isMoment (column : Column) (types : ColumnTypes) (value : Json) : Bool :=
  column.effectiveType types = .timestamp ||
    (Text.begins "time" column.key &&
      let characters := value.plain.toList
      !characters.isEmpty && characters.all Char.isDigit)

def formatCell (localTime : Time.LocalTime) (types : ColumnTypes)
    (format timezone : String) (column : Column) (value : Json) :
    Except Error Json :=
  if isMoment column types value then do
    pure (.text (← value.formatMoment localTime (column.format.getD format)
      timezone))
  else .ok value

def formatColumns (localTime : Time.LocalTime) (raw : Row) (types : ColumnTypes)
    (format timezone : String) : Columns → Except Error Row
  | [] => .ok []
  | column :: rest => do
      let value := (Json.Fields.get? raw column.key).getD .null
      let cell ← formatCell localTime types format timezone column value
      let others ← formatColumns localTime raw types format timezone rest
      pure ((column.key, cell) :: others)

/-- The cells of a row in the order of the columns.  The raw id comes along when
no column shows it. -/
def format (localTime : Time.LocalTime) (columns : Columns) (raw : Row)
    (types : ColumnTypes) (format timezone : String) : Except Error Row := do
  let cells ← formatColumns localTime raw types format timezone columns
  if (columns.get? "id").isSome then pure cells
  else
    match Json.Fields.get? raw "id" with
    | some id =>
        pure (if id.plain.isEmpty then cells else cells ++ [("id", id)])
    | none => pure cells

end Row

end DataGrid
