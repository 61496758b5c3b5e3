import DataGrid.Column
import DataGrid.Row

/-!
# Comma-separated values

A table as comma-separated values: a record of the columns' headers, then one
record for each row.  Columns that hold buttons are left out.
-/

namespace DataGrid.Csv

/-- A character because of which a field has to be quoted. -/
def isSpecial (character : Char) : Bool :=
  character == ',' || character == '"' || character == '\n' ||
    character == '\r'

/-- A field between quotation marks, those inside it doubled. -/
def quote (field : List Char) : List Char :=
  '"' :: field.flatMap (fun character =>
    if character == '"' then ['"', '"'] else [character]) ++ ['"']

def writeField (field : String) : List Char :=
  if field.toList.any isSpecial then quote field.toList else field.toList

def writeFields : List String → List Char
  | [] => []
  | [field] => writeField field
  | field :: rest => writeField field ++ ',' :: writeFields rest

/-- A record.  One that would be an empty line is written as an empty quoted
field, because a reader skips empty lines. -/
def writeRecord (fields : List String) : List Char :=
  (match fields with
    | [] | [""] => ['"', '"']
    | fields => writeFields fields) ++ ['\n']

def exported (columns : Columns) : Columns :=
  columns.filter (!·.isAction)

def records (columns : Columns) (rows : List Row) : List (List String) :=
  (exported columns).map (·.header) ::
    rows.map fun row => (exported columns).map fun column =>
      row.cellText column.key

def ofRows (columns : Columns) (rows : List Row) : String :=
  String.ofList ((records columns rows).flatMap writeRecord)

end DataGrid.Csv
