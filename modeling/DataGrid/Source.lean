import DataGrid.Sql.Params
import DataGrid.Text.Blank

/-!
# Row sources

The query that a table shows, as its author wrote it: a list of fields, a FROM
clause, a condition and the values bound in them.
-/

namespace DataGrid

/-- Where the rows of a table come from. -/
structure Source where
  fields : String
  from_ : String
  condition : String
  params : Sql.Params
  /-- The table that is written to and whose schema is asked, when the FROM
  clause does not name it. -/
  table : Option String := none
deriving DecidableEq, Repr

namespace Source

/-- A source from its clauses.  A blank condition holds for every row. -/
def ofClauses (fields from_ condition : String) (params : Sql.Params) :
    Source where
  fields := fields
  from_ := Text.trim from_
  condition := if Text.allBlank condition then "1=1" else condition
  params := params

/-- A whole query as a source; its columns are addressed by name. -/
def ofQuery (query : String) (params : Sql.Params) : Source :=
  ofClauses "*" s!"({query}) AS results" "1=1" params

def style (source : Source) : Sql.Style :=
  source.params.style

/-- The fields to select: all of them when none are named. -/
def selected (source : Source) : String :=
  if Text.allBlank source.fields then "*" else source.fields

/-- The table that rows are written to: the one that is set, else the FROM
clause when it is a single word. -/
def physicalTable (source : Source) : Except Error String :=
  let table := Text.trim (source.table.getD source.from_)
  if table.isEmpty || table.toList.any Text.isBlank then
    .error (.protocol .tableNotSet)
  else .ok table

end Source

end DataGrid
