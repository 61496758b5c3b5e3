import DataGrid.Proofs.Form.Store
import DataGrid.Proofs.Json.Fields

/-!
# The statements that forms write

The columns of a statement are the declared fields that the data have, each of
them once and in the form's order, and the placeholder of a column is bound to
the value of that column.
-/

namespace DataGrid

open Sql

/-- It does not matter whether repeated names are dropped before or after
others are left out. -/
theorem filter_eraseDups (keep : String → Bool) (names : List String) :
    names.eraseDups.filter keep = (names.filter keep).eraseDups := by
  match names with
  | [] => rfl
  | name :: rest =>
      have ih := filter_eraseDups keep (rest.filter fun other => !other == name)
      rw [List.eraseDups_cons, List.filter_cons, List.filter_cons, ih]
      cases kept : keep name with
      | true =>
          simp only [if_true, List.eraseDups_cons, List.filter_filter,
            Bool.and_comm]
      | false =>
          simp only [Bool.false_eq_true, if_false, List.filter_filter]
          congr 1
          apply List.filter_congr
          intro other _
          by_cases same : other = name
          · simp [same, kept]
          · simp [same]
termination_by names.length
decreasing_by exact Nat.lt_succ_of_le (List.length_filter_le _ _)

/-- The names of a form's fields, besides the id, that data have: each of them
once, in the form's order. -/
def Form.presentNames (form : Form) (data : Row) : List String :=
  ((form.fields.map FormField.name).filter fun name =>
    name != "id" && (Json.Fields.get? data name).isSome).eraseDups

/-- The value that data hold under a name, as it is bound. -/
def Row.boundValue (data : Row) (name : String) : Value :=
  .ofJson ((Json.Fields.get? data name).getD .null)

theorem Form.declared_eq (form : Form) (data : Row) :
    form.declared data =
      Json.Fields.ofNames (fun name => (Json.Fields.get? data name).getD .null)
        ((form.fields.map FormField.name).filter fun name =>
          (Json.Fields.get? data name).isSome).eraseDups := by
  rw [declared, ← Json.Fields.ofPairs_ofNames]
  congr 1
  induction form.fields with
  | nil => rfl
  | cons field rest ih =>
      cases found : Json.Fields.get? data field.name with
      | none => simp [found, ih]
      | some value => simp [found, ih, Json.Fields.ofNames]

/-- A form writes the declared fields that the data have, besides the id. -/
theorem Table.writtenValues_eq (form : Form) (data : Row) :
    writtenValues form data = (form.presentNames data).map fun name =>
      (name, data.boundValue name) := by
  rw [writtenValues, Form.declared_eq, Json.Fields.ofNames, List.filter_map,
    List.map_map, filter_eraseDups, List.filter_filter, Form.presentNames]
  rfl

/-- An id is neither null nor the empty text, and it is taken as text. -/
theorem Row.id?_eq_some_iff (data : Row) (id : String) :
    data.id? = some id ↔
      ∃ value, Json.Fields.get? data "id" = some value ∧ value ≠ .null ∧
        value ≠ .text "" ∧ value.plain = id := by
  rw [id?, Option.bind_eq_some_iff]
  apply exists_congr
  intro value
  apply and_congr_right
  intro _
  unfold Json.rowId?
  split <;> simp_all

namespace Table

/-- The text that changes columns of the row with an id. -/
def updateText (physical : String) (names : List String) (style : Style) :
    String :=
  let assigned := Text.join ", " (names.zipIdx.map fun (name, number) =>
    s!"{name} = {placeholder style formStem number}")
  let id := placeholder style formStem names.length
  s!"UPDATE {physical} SET {assigned} WHERE id = {id}"

/-- The text that adds a row with some columns. -/
def insertText (physical : String) (names : List String) (style : Style) :
    String :=
  match names with
  | [] => s!"INSERT INTO {physical} DEFAULT VALUES"
  | names =>
      let columns := Text.join ", " names
      let written := Text.join ", " ((List.range names.length).map
        (placeholder style formStem))
      s!"INSERT INTO {physical} ({columns}) VALUES ({written})"

/-- A change is written with its columns numbered as they stand, and with the
id behind them. -/
theorem statement_updateFragment (physical id : String)
    (values : List (String × Value)) (style : Style) :
    (updateFragment physical id values).statement style formStem =
      ⟨updateText physical (values.map Prod.fst) style,
        .number style formStem (values.map Prod.snd ++ [.ofRowId id])⟩ := by
  have bound := Fragment.length_values_join_map ", " Fragment.equation
    (fun _ => rfl) values
  have assigned := Fragment.texts_join_map style formStem ", "
    Fragment.equation (fun _ => rfl) 0 values
  rw [Fragment.statement, Fragment.params, values_updateFragment]
  congr 1
  rw [updateFragment, Fragment.write, Fragment.texts,
    Fragment.texts_append, String.join_cons, String.join_append, assigned,
    bound]
  simp [Fragment.equation, updateText, Fragment.texts, List.zipIdx_map,
    Function.comp_def, String.append_assoc, toString]

theorem statement_insertFragment (physical : String)
    (values : List (String × Value)) (style : Style) :
    (insertFragment physical values).statement style formStem =
      ⟨insertText physical (values.map Prod.fst) style,
        .number style formStem (values.map Prod.snd)⟩ := by
  rw [Fragment.statement, Fragment.params, values_insertFragment]
  congr 1
  cases values with
  | nil =>
      simp [insertFragment, insertText, Fragment.write, Fragment.texts,
        Fragment.ofText]
  | cons field rest =>
      rw [insertFragment, Fragment.write_between, Fragment.write_values]
      · simp [insertText, String.append_assoc, toString]
      · simp

/-- The statement that changes the declared fields of the row with an id. -/
def updateStatement (table : Table) (physical : String) (form : Form)
    (data : Row) (id : String) : Statement where
  sql := updateText physical (form.presentNames data) table.source.style
  params := .number table.source.style formStem
    ((form.presentNames data).map data.boundValue ++ [.ofRowId id])

/-- The statement that adds a row with the declared fields. -/
def insertStatement (table : Table) (physical : String) (form : Form)
    (data : Row) : Statement where
  sql := insertText physical (form.presentNames data) table.source.style
  params := .number table.source.style formStem
    ((form.presentNames data).map data.boundValue)

theorem statement_update (table : Table) (physical : String) (form : Form)
    (data : Row) (id : String) :
    (updateFragment physical id (writtenValues form data)).statement
      table.source.style formStem =
        table.updateStatement physical form data id := by
  rw [statement_updateFragment, writtenValues_eq]
  simp [updateStatement, Function.comp_def]

theorem statement_insert (table : Table) (physical : String) (form : Form)
    (data : Row) :
    (insertFragment physical (writtenValues form data)).statement
      table.source.style formStem =
        table.insertStatement physical form data := by
  rw [statement_insertFragment, writtenValues_eq]
  simp [insertStatement, Function.comp_def]

theorem writtenValues_eq_nil_iff (form : Form) (data : Row) :
    writtenValues form data = [] ↔ form.presentNames data = [] := by
  rw [writtenValues_eq, List.map_eq_nil_iff]

end Table

end DataGrid
