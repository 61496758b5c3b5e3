import DataGrid.Column
import DataGrid.Source.Resolve

/-!
# Types of columns

A declared type of a database says what the values of a column are.  This file
maps such a declaration to a type, and finds out where a column's declaration
has to be looked up.
-/

namespace DataGrid

/-- A column of a database table with its declared type. -/
structure ColumnDeclaration where
  name : String
  sqlType : String
deriving DecidableEq, Repr

namespace DataType

def integerDeclarations : List String :=
  ["int", "integer", "bigint", "tinyint", "smallint", "mediumint"]

def realDeclarations : List String :=
  ["real", "float", "double", "double precision", "numeric", "decimal"]

def textDeclarations : List String :=
  ["text", "longtext", "mediumtext", "varchar", "char", "character",
    "character varying", "nvarchar", "clob"]

/-- The type of a column with a given name and declaration.  What stands in
parentheses does not matter.  An integer whose column's name begins with `time`
is a moment in time. -/
def ofDeclaration (name sqlType : String) : DataType :=
  let lowered := (Text.lower sqlType).toList
  let base := Text.trim (String.ofList (lowered.takeWhile (· != '(')))
  if integerDeclarations.contains base then
    if Text.begins "time" name then .timestamp else .number
  else if realDeclarations.contains base then .number
  else if textDeclarations.contains base then .text
  else .unknown

end DataType

/-- The type that a table's declarations give to one of its columns. -/
def typeIn (declarations : List ColumnDeclaration) (name : String) : DataType :=
  match declarations.find? fun declaration =>
      Text.sameLetters declaration.name name with
  | some declaration => .ofDeclaration name declaration.sqlType
  | none => .unknown

namespace Source

/-- The table and the name under which a column is declared, as far as the
source tells: the first two parts of a qualified expression, or the expression
itself in the first table. -/
def declarationOf (source : Source) (column : Column) :
    Option (String × String) :=
  let expression := source.resolve column
  match Text.splitAt '.' expression with
  | qualifier :: name :: _ => some (source.tableOf qualifier, name)
  | _ => (source.primaryTable?.or source.table).map (·, expression)

end Source

end DataGrid
