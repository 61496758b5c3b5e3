import DataGrid.Proofs.Json.Fields
import DataGrid.Proofs.Outcome
import DataGrid.Row.Cells

/-!
# Ids of shown rows

A row is shown with its own id, whether a column shows it or it comes along
without one, as long as the id is not shown as a moment in time.
-/

namespace DataGrid.Row

variable {localTime : Time.LocalTime} {types : ColumnTypes}
  {format timezone : String}

/-- The cell of a column is what becomes of the value under its key. -/
theorem get?_formatColumns {raw shown : Row} {columns : Columns}
    (formats :
      formatColumns localTime raw types format timezone columns = .ok shown)
    (key : String) :
    match columns.get? key with
    | none => Json.Fields.get? shown key = none
    | some column => ∃ cell, Json.Fields.get? shown key = some cell ∧
        formatCell localTime types format timezone column
          ((Json.Fields.get? raw key).getD .null) = .ok cell := by
  induction columns generalizing shown with
  | nil =>
      obtain rfl := Except.ok.inj formats
      rfl
  | cons column rest ih =>
      obtain ⟨cell, first, formats⟩ := (bind_eq_ok_iff _ _ _).mp formats
      obtain ⟨others, later, formats⟩ := (bind_eq_ok_iff _ _ _).mp formats
      obtain rfl := Except.ok.inj formats
      have behind := ih later
      unfold Columns.get? at behind ⊢
      rw [List.find?_cons, Json.Fields.get?_cons]
      by_cases found : column.key = key
      · simp only [found, beq_self_eq_true, if_true]
        exact ⟨cell, rfl, found ▸ first⟩
      · simpa only [beq_eq_false_iff_ne.mpr found, if_neg found] using behind

/-- The column of the ids shows them as they are. -/
theorem formatCell_id {column : Column} (key_eq : column.key = "id")
    (plain : column.effectiveType types ≠ .timestamp) (value : Json) :
    formatCell localTime types format timezone column value = .ok value := by
  have noMoment : isMoment column types value = false := by
    simp [isMoment, plain, key_eq, Text.begins]
  rw [formatCell, noMoment]
  rfl

theorem id?_eq_cellText {row : Row} (named : row.cellText "id" ≠ "") :
    row.id? = some (row.cellText "id") := by
  unfold id?
  unfold cellText at named ⊢
  cases given : Json.Fields.get? row "id" with
  | none => simp [given] at named
  | some value =>
      simp only [given, Option.map_some, Option.getD_some,
        Option.bind_some] at named ⊢
      unfold Json.rowId?
      split
      · simp [Json.plain] at named
      · simp [Json.plain] at named
      · rfl

/-- A row whose id has a text is shown with that id. -/
theorem id?_format {columns : Columns} {raw shown : Row}
    (plain : ∀ column ∈ columns.get? "id",
      column.effectiveType types ≠ .timestamp)
    (named : raw.cellText "id" ≠ "")
    (formats :
      Row.format localTime columns raw types format timezone = .ok shown) :
    shown.id? = raw.id? := by
  obtain ⟨cells, formatted, formats⟩ := (bind_eq_ok_iff _ _ _).mp formats
  have cell := get?_formatColumns formatted "id"
  cases column? : columns.get? "id" with
  | some column =>
      simp only [column?] at cell formats
      obtain rfl := Except.ok.inj formats
      obtain ⟨value, shown_eq, cell_eq⟩ := cell
      have key_eq : column.key = "id" := by
        simpa using List.find?_some column?
      rw [formatCell_id key_eq (plain column column?)] at cell_eq
      obtain rfl := Except.ok.inj cell_eq
      unfold id?
      rw [shown_eq]
      cases given : Json.Fields.get? raw "id" with
      | none => simp [cellText, given] at named
      | some id => rfl
  | none =>
      simp only [column?, Option.isSome_none, Bool.false_eq_true,
        if_false] at cell formats
      cases given : Json.Fields.get? raw "id" with
      | none => simp [cellText, given] at named
      | some id =>
          have text : id.plain.isEmpty = false := by
            simpa [cellText, given] using named
          rw [given] at formats
          simp only [text, Bool.false_eq_true, if_false] at formats
          obtain rfl := Except.ok.inj formats
          unfold id?
          rw [Json.Fields.get?_append, cell, given]
          rfl

end DataGrid.Row
