import DataGrid.Proofs.Form.Save
import DataGrid.Proofs.Json.Fields

/-!
# Rows that agree

Fields are kept in the order in which they came, but forms look at submitted
data by name.  Rows that hold the same fields in different orders are checked,
stored and shown alike.
-/

namespace DataGrid

namespace Json.Fields

/-- Two lists of fields hold the same under every name. -/
def Agrees (fields other : Fields) : Prop :=
  ∀ name, get? fields name = get? other name

theorem Agrees.symm {fields other : Fields} (agrees : fields.Agrees other) :
    other.Agrees fields :=
  fun name => (agrees name).symm

/-- Setting the same fields leaves the same fields. -/
theorem Agrees.insertAll {more others : Fields} (agrees : more.Agrees others)
    (nodup : more.names.Nodup) (nodupOthers : others.names.Nodup)
    (fields : Fields) :
    (fields.insertAll more).Agrees (fields.insertAll others) := by
  intro name
  rw [get?_insertAll nodup, get?_insertAll nodupOthers, agrees name]

end Json.Fields

open Json.Fields

variable {data other : Row}

theorem Row.cellText_eq_of_agrees (agrees : Agrees data other)
    (name : String) : data.cellText name = other.cellText name := by
  rw [cellText, cellText, agrees name]

theorem Row.id?_eq_of_agrees (agrees : Agrees data other) :
    data.id? = other.id? := by
  rw [id?, id?, agrees "id"]

theorem Form.validate_eq_of_agrees (agrees : Agrees data other)
    (form : Form) : form.validate data = form.validate other := by
  simp only [validate, Row.cellText_eq_of_agrees agrees]

theorem Form.declared_eq_of_agrees (agrees : Agrees data other)
    (form : Form) : form.declared data = form.declared other := by
  simp only [declared, agrees _]

namespace Table

theorem checkSelector_eq_of_agrees (agrees : Agrees data other)
    (form : Form) (id : String) (stored : Row) (fields : List String) :
    checkSelector form id stored data fields =
      checkSelector form id stored other fields := by
  induction fields with
  | nil => rfl
  | cons field rest ih => rw [checkSelector, checkSelector, agrees field, ih]

theorem checkRow_eq_of_agrees (agrees : Agrees data other) (table : Table)
    (form : Form) (id : String) :
    table.checkRow form id data = table.checkRow form id other := by
  simp only [checkRow, checkSelector_eq_of_agrees agrees]

/-- Rows that agree are stored with the same questions. -/
theorem storeRow_eq_of_agrees (agrees : Agrees data other) (table : Table)
    (form : Form) : table.storeRow form data = table.storeRow form other := by
  have written : writtenValues form data = writtenValues form other := by
    rw [writtenValues, writtenValues, Form.declared_eq_of_agrees agrees]
  rw [storeRow, storeRow, Row.id?_eq_of_agrees agrees, written]
  simp only [checkRow_eq_of_agrees agrees]

end Table

/-- A renderer looks at the cells of a row by their names only. -/
def FormRenderer.ReadsByName (render : FormRenderer) : Prop :=
  ∀ form (row other : Row) errors, Agrees row other →
    render form row errors = render form other errors

theorem Form.render_readsByName : FormRenderer.ReadsByName Form.render := by
  intro form row other errors agrees
  have fields : fieldMarkup row errors = fieldMarkup other errors := by
    funext field
    simp only [fieldMarkup, Row.cellText_eq_of_agrees agrees]
  unfold render
  rw [fields]

namespace Grid

theorem rejected_eq_of_agrees {grid : Grid}
    (readsByName : grid.render.ReadsByName) (agrees : Agrees data other)
    (nodup : (names data).Nodup) (nodupOther : (names other).Nodup)
    (form : Form) (row : Row) :
    grid.rejected form row data = grid.rejected form row other := by
  have shown := agrees.insertAll nodup nodupOther row
  rw [rejected, rejected, shownForm, shownForm,
    Form.validate_eq_of_agrees agrees, readsByName _ _ _ _ shown]

/-- What a save does with its data depends on what they hold, and not on the
order in which they were submitted. -/
theorem concludeSave_eq_of_agrees {grid : Grid}
    (readsByName : grid.render.ReadsByName) (agrees : Agrees data other)
    (nodup : (names data).Nodup) (nodupOther : (names other).Nodup)
    (form : Form) (row : Row) :
    grid.concludeSave form row data = grid.concludeSave form row other := by
  rw [concludeSave, concludeSave, Form.validate_eq_of_agrees agrees,
    Table.storeRow_eq_of_agrees agrees,
    rejected_eq_of_agrees readsByName agrees nodup nodupOther]

end Grid

end DataGrid
