import DataGrid.Action.Click
import DataGrid.Error

/-!
# Columns

A column of a table: its key, what it is called, how it is reached in SQL, and
what a client may do with it.
-/

namespace DataGrid

/-- What the values of a column are. -/
inductive DataType
  | text
  | number
  | timestamp
  | unknown
deriving DecidableEq, Repr

def DataType.name : DataType → String
  | text => "text"
  | number => "number"
  | timestamp => "timestamp"
  | unknown => "unknown"

/-- One of the values that a client may choose from. -/
structure SelectOption where
  value : String
  label : String
deriving DecidableEq, Repr

/-- A column of a table. -/
structure Column where
  key : String
  header : String
  /-- The SQL expression, when the column does not resolve by its key. -/
  expression : Option String := none
  /-- The declared type; without one the database's schema is asked. -/
  dataType : Option DataType := none
  /-- The column's own date format. -/
  format : Option String := none
  sortable : Bool := true
  filterable : Bool := true
  internal : Bool := false
  visible : Bool := true
  options : List SelectOption := []
  onClick : Option OnClick := none

namespace Column

/-- An internal column is delivered to the client, but never filtered, searched
or sorted. -/
def asInternal (column : Column) : Column :=
  { column with internal := true, filterable := false, sortable := false }

/-- Two keys are reserved for the columns that hold buttons. -/
def isAction (column : Column) : Bool :=
  column.key == "edit" || column.key == "delete"

def canFilter (column : Column) : Bool :=
  column.filterable && !column.internal && !column.isAction

def canSort (column : Column) : Bool :=
  column.sortable && !column.internal && !column.isAction

end Column

abbrev Columns := List Column

namespace Columns

def get? (columns : Columns) (key : String) : Option Column :=
  columns.find? (·.key == key)

/-- Add a column at the end.  Its key may not be blank, nor taken. -/
def push (columns : Columns) (column : Column) : Except Error Columns :=
  if Text.allBlank column.key then .error (.table .columnKeyEmpty)
  else if (columns.get? column.key).isSome then
    .error (.table (.columnTwice column.key))
  else .ok (columns ++ [column])

def pushAll (columns : Columns) : List Column → Except Error Columns
  | [] => .ok columns
  | column :: rest => do (← columns.push column).pushAll rest

end Columns

abbrev ColumnTypes := List (String × DataType)

namespace Column

/-- The type that a column counts as: the declared one, else the one found,
else unknown. -/
def effectiveType (column : Column) (types : ColumnTypes) : DataType :=
  column.dataType.getD ((types.lookup column.key).getD .unknown)

end Column

end DataGrid
