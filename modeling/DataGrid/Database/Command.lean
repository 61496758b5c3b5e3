import DataGrid.Database.Expression
import DataGrid.Sorting

/-!
# Statements of a database

What a database can be told: to read rows, and to add, change and remove them.
-/

namespace DataGrid.Database

abbrev Written := Expression ColumnName

/-- What a query returns of the rows that it reads. -/
inductive Outputs
  | all
  | columns (names : List ColumnName)
  | count
deriving Repr

/-- The clauses of a query besides the place that it reads from. -/
structure Clauses where
  outputs : Outputs
  /-- The name by which the rows are addressed. -/
  qualifier : Option String := none
  condition : Written := .literal (.integer 1)
  order : Option (Written × Direction) := none
deriving Repr

/-- A query: it reads a table, or what another query returns. -/
inductive Select
  | ofTable (table : String) (clauses : Clauses)
  | ofSelect (inner : Select) (clauses : Clauses)
deriving Repr

/-- A statement. -/
inductive Command
  | select (query : Select)
  /-- Add a row.  Columns that are not named get their defaults. -/
  | insert (table : String) (values : List (String × Written))
  | update (table : String) (changes : List (String × Written))
      (condition : Written)
  | delete (table : String) (condition : Written)
  | drop (table : String)
deriving Repr

end DataGrid.Database
