import DataGrid.Proofs.Sql.Placeholders
import DataGrid.Source.Statements

/-!
# The statements of a source

The rows that satisfy a condition and their number are asked for by statements
with one restriction.  They differ in what is selected in front of it and in the
order behind it.
-/

namespace DataGrid.Source

/-- The text of the rows under a condition, in an order if there is one. -/
def rowsText (source : Source) (condition orderBy : String) : String :=
  "SELECT " ++ source.selected ++ source.restricted condition ++
    (if orderBy.isEmpty then "" else " " ++ orderBy)

def countText (source : Source) (condition : String) : String :=
  "SELECT COUNT(1)" ++ source.restricted condition

variable {source : Source} {condition : Sql.Statement} {params : Sql.Params}

theorem countStatement_eq
    (bound : source.params.append condition.params = .ok params) :
    source.countStatement condition =
      .ok { sql := source.countText condition.sql, params } := by
  rw [countStatement, statement, bound]
  rfl

theorem pageStatement_eq
    (bound : source.params.append condition.params = .ok params)
    (orderBy : String) :
    source.pageStatement condition orderBy =
      .ok { sql := source.rowsText condition.sql orderBy, params } := by
  rw [pageStatement, statement, bound, rowsText]
  split <;> simp [toString, String.append_assoc]

end DataGrid.Source
