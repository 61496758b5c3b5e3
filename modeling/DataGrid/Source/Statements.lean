import DataGrid.Source
import DataGrid.Sql.Sink

/-!
# Statements on a source

Each view of a table is the source restricted by a condition.  The source's own
values come before those of the condition, as they do in the text.
-/

namespace DataGrid.Source

/-- A statement on the source whose further values are given. -/
def statement (source : Source) (sql : String) (params : Sql.Params) :
    Except Error Sql.Statement := do
  pure { sql, params := ← source.params.append params }

/-- The part of a statement that all views of a condition share. -/
def restricted (source : Source) (condition : String) : String :=
  s!" FROM {source.from_} WHERE ({source.condition}) AND {condition}"

/-- The rows that satisfy a condition, in an order unless that is empty. -/
def pageStatement (source : Source) (condition : Sql.Statement)
    (orderBy : String) : Except Error Sql.Statement :=
  let rows := s!"SELECT {source.selected}" ++ source.restricted condition.sql
  source.statement (if orderBy.isEmpty then rows else s!"{rows} {orderBy}")
    condition.params

def countStatement (source : Source) (condition : Sql.Statement) :
    Except Error Sql.Statement :=
  source.statement ("SELECT COUNT(1)" ++ source.restricted condition.sql)
    condition.params

def rowStem : String := "form_row"

/-- Write the condition that columns have given values; without columns it
never holds.  The names of the columns are trusted. -/
def writeKey (conditions : List (String × Sql.Value)) :
    StateM Sql.Sink String := do
  let comparisons ← Sql.Sink.equations conditions
  if comparisons.isEmpty then pure "1=0"
  else pure (Text.join " AND " comparisons)

/-- The rows of the whole source whose columns have given values. -/
def rowStatement (source : Source) (conditions : List (String × Sql.Value)) :
    Except Error Sql.Statement :=
  let condition := Sql.Sink.statement source.style rowStem
    (writeKey conditions)
  source.statement
    (s!"SELECT * FROM (SELECT {source.selected} FROM {source.from_} " ++
      s!"WHERE {source.condition}) AS form_rows WHERE {condition.sql}")
    condition.params

end DataGrid.Source
