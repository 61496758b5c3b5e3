import DataGrid.Engine.Program
import DataGrid.Selection.Memory

/-!
# Scripted answers

A handler whose answers are prepared in advance.  It writes down every question
that it is asked, so that what a program does can be seen without a database.
Selections are kept in memory.
-/

namespace DataGrid

/-- Prepared answers, and the questions asked so far, the last one first.  Where
no answer is prepared, a count is zero, no rows are found, and one row is
written. -/
structure Script where
  tables : List (String × Except EngineFailure (List ColumnDeclaration)) := []
  counts : List (Except EngineFailure Int) := []
  pages : List (Except EngineFailure (List Row)) := []
  executions : List (Except EngineFailure Nat) := []
  loadFailure : Option EngineFailure := none
  storeFailure : Option EngineFailure := none
  selections : SelectionMap := []
  asked : List Query := []

namespace Script

def next {α : Type} (answers : List (Except EngineFailure α)) (otherwise : α) :
    Except EngineFailure α × List (Except EngineFailure α) :=
  match answers with
  | [] => (.ok otherwise, [])
  | answer :: rest => (answer, rest)

def answer : Program.Handler Script := fun query script =>
  let script := { script with asked := query :: script.asked }
  match query with
  | .count _ =>
      let (answer, rest) := next script.counts 0
      (answer, { script with counts := rest })
  | .fetch _ _ _ =>
      let (answer, rest) := next script.pages []
      (answer, { script with pages := rest })
  | .execute _ =>
      let (answer, rest) := next script.executions 1
      (answer, { script with executions := rest })
  | .declarations table =>
      ((script.tables.lookup table).getD (.ok []), script)
  | .loadSelection key =>
      match script.loadFailure with
      | some failure => (.error failure, script)
      | none => (.ok (script.selections.get key), script)
  | .storeSelection key selection =>
      match script.storeFailure with
      | some failure => (.error failure, script)
      | none =>
          (.ok (), { script with
            selections := script.selections.put key selection })

/-- The questions asked so far, the first one first. -/
def questions (script : Script) : List Query :=
  script.asked.reverse

end Script

end DataGrid
