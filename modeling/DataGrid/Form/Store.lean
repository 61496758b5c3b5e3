import DataGrid.Engine.Program
import DataGrid.Source.Statements
import DataGrid.Table

/-!
# Rows behind forms

Looking up the row that a form shows, and writing what was submitted.  Only the
fields that a form declares are written, and every value is bound.
-/

namespace DataGrid

/-- What became of submitted data. -/
inductive StoreOutcome
  | updated (id : String)
  | inserted
deriving DecidableEq, Repr

namespace RowIdentity

/-- The columns and values that identify a row.  The names are written into a
statement, so they have to be identifiers. -/
def conditions : RowIdentity → Except Error (List (String × Sql.Value))
  | single id => .ok [("id", .ofRowId id)]
  | fields [] => .error (.protocol .rowidWithoutFields)
  | fields pairs =>
      pairs.mapM fun pair =>
        if Text.isIdentifier pair.1 then .ok (pair.1, .ofRowId pair.2)
        else .error (.protocol (.invalidRowidField pair.1))

end RowIdentity

namespace Table

def formStem : String := "form"

/-- The row with an identity, when the table's own query returns it. -/
def fetchRow (table : Table) (identity : RowIdentity) :
    Program (Option Row) := do
  let conditions ← identity.conditions
  let statement ← table.source.rowStatement conditions
  let rows ← Program.perform (.fetch statement 0 (some 1))
  pure rows.getLast?

/-- The values that a form writes, by the columns they are written to. -/
def writtenValues (form : Form) (data : Row) : List (String × Sql.Value) :=
  ((form.declared data).filter (·.1 != "id")).map fun field =>
    (field.1, .ofJson field.2)

/-- Submitted fields of the form's row selector may not differ from the stored
row. -/
def checkSelector (form : Form) (id : String) (stored data : Row) :
    List String → Except Error Unit
  | [] => .ok ()
  | field :: rest =>
      match Json.Fields.get? data field with
      | some submitted =>
          if submitted.plain = stored.cellText field then
            checkSelector form id stored data rest
          else .error (.permission (.fieldFixed field id))
      | none => checkSelector form id stored data rest

/-- Look up the stored row and check the form's row selector, when it has
one. -/
def checkRow (table : Table) (form : Form) (id : String) (data : Row) :
    Program Unit := do
  if form.rowSelector.isEmpty then pure ()
  else
    match ← table.fetchRow (.single id) with
    | some stored => checkSelector form id stored data form.rowSelector
    | none => Program.fail (.permission (.rowNotFound id))

/-- Write the change of columns in the row with an id. -/
def writeUpdate (physical id : String) (values : List (String × Sql.Value)) :
    StateM Sql.Sink String := do
  let assignments ← Sql.Sink.equations values
  let place ← modifyGet (·.bind (.ofRowId id))
  let assigned := Text.join ", " assignments
  pure s!"UPDATE {physical} SET {assigned} WHERE id = {place}"

/-- Write the addition of a row with the values of some columns. -/
def writeInsert (physical : String) (values : List (String × Sql.Value)) :
    StateM Sql.Sink String :=
  match values with
  | [] => pure s!"INSERT INTO {physical} DEFAULT VALUES"
  | values => do
      let columns := Text.join ", " (values.map (·.1))
      let places ← modifyGet (·.bindList (values.map (·.2)))
      let written := Text.join ", " places
      pure s!"INSERT INTO {physical} ({columns}) VALUES ({written})"

/-- Write the removal of the row with an id. -/
def writeDelete (physical id : String) : StateM Sql.Sink String := do
  let place ← modifyGet (·.bind (.ofRowId id))
  pure s!"DELETE FROM {physical} WHERE id = {place}"

/-- Execute a statement that is written in the source's style. -/
def execute (table : Table) (write : StateM Sql.Sink String) : Program Nat :=
  Program.perform (.execute
    (Sql.Sink.statement table.source.style formStem write))

/-- Write submitted data.  Data with an id changes that row, unless there is
nothing to write; data without one adds a row. -/
def storeRow (table : Table) (form : Form) (data : Row) :
    Program StoreOutcome := do
  let physical ← table.source.physicalTable
  let values := writtenValues form data
  match data.id? with
  | some id =>
      table.checkRow form id data
      if values.isEmpty then pure (.updated id)
      else
        let _ ← table.execute (writeUpdate physical id values)
        pure (.updated id)
  | none =>
      let _ ← table.execute (writeInsert physical values)
      pure .inserted

/-- Remove a row; the answer is the number of rows removed. -/
def removeRow (table : Table) (id : String) : Program Nat := do
  let physical ← table.source.physicalTable
  table.execute (writeDelete physical id)

end Table

end DataGrid
