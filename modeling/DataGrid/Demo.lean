import DataGrid.Table

/-!
# A table of people

A table that shows everything a grid can do: filters, a selection, a form,
deletion that depends on the row, and a download.
-/

namespace DataGrid.Demo

/-- The id of the table, and the name of its rows' table in the database. -/
def tableId : String := "grid_demo"

def mailClick (row : Row) : Option OnClick :=
  let address := row.cellText "email"
  some (.snippet s!"window.location = 'mailto:{address}'")

/-- Only people who are not active can be deleted. -/
def protectActive : RowHook := fun row actions =>
  let active := row.cellText "active" == "1"
  actions.map fun action =>
    if action.kind = .delete then { action with disabled := active }
    else action

def personForm : Form where
  id := "person"
  title := "Edit person"
  fields := [
    { name := "name", label := "Name", required := true,
      maxLength := some 100 },
    { name := "email", label := "E-Mail", required := true },
    { name := "age", label := "Age", kind := .number }]

def columns : List Column := [
  { key := "id", header := "ID", dataType := some .number },
  { key := "name", header := "Name" },
  { key := "email", header := "E-Mail" },
  { key := "age", header := "Age" },
  { key := "active", header := "Status",
    options := [⟨"1", "Active"⟩, ⟨"0", "Inactive"⟩] },
  { key := "timecreated", header := "Created" }]

def draft (pageSize : Int) : TableDraft where
  id := tableId
  source := { Source.ofClauses
    "p.id, p.name, p.email, p.age, p.active, p.timecreated" "grid_demo p" ""
    default with table := some tableId }
  columns := columns
  actions := [
    { kind := .edit, url := "#", form := some { formId := "person" } },
    { kind := .delete, url := "#" },
    { kind := .other, id := "mail", label := "Mail",
      handler := some (.perRow mailClick) }]
  hook := some protectActive
  detailPanel := some fun row => "Age: " ++ row.cellText "age"
  fullText := ["p.email"]
  forms := [personForm]
  sortDefault := some ⟨"name", .ascending⟩
  pageSize := pageSize
  flags := { rowSelection := true, downloadable := true, detailPanel := true }

def table (pageSize : Int) : Except Error Table :=
  (draft pageSize).build

end DataGrid.Demo
