import DataGrid.Proofs.Outcome
import DataGrid.Proofs.Text.Trim
import DataGrid.Proofs.Text.Words
import DataGrid.Request

/-!
# Lists of row ids

Row ids are sent as one text with commas between them.  Reading it drops the
white space around every id, and then the ids of which nothing is left.  So a
list comes back as it was sent exactly when none of its ids is empty, holds a
comma or has white space around it, and what any text is read as comes back.
-/

namespace DataGrid

namespace Row

/-- An id that can stand in a list: it is not empty, holds no comma and has no
white space around it. -/
structure Listable (id : String) : Prop where
  nonempty : id ≠ ""
  noComma : ',' ∉ id.toList
  trimmed : Text.Trimmed id

/-- Whatever is read as an id can stand in a list. -/
theorem listable_of_mem_splitIds {text id : String}
    (member : id ∈ splitIds text) : Listable id := by
  obtain ⟨trimmed, nonempty⟩ := List.mem_filter.mp member
  obtain ⟨piece, found, rfl⟩ := List.mem_map.mp trimmed
  exact {
    nonempty := by simpa using nonempty
    noComma := fun comma => Text.notMem_of_mem_splitAt found
      ((Text.trim_infix piece).subset comma)
    trimmed := Text.trimmed_trim piece }

theorem splitIds_join {ids : List String}
    (listable : ∀ id ∈ ids, Listable id) :
    splitIds (Text.join "," ids) = ids := by
  by_cases nonempty : ids = []
  · rw [nonempty]
    rfl
  · have pieces : Text.splitAt ',' (Text.join "," ids) = ids :=
      Text.splitAt_join nonempty fun id member => (listable id member).noComma
    have trimmed : ids.map Text.trim = ids :=
      (List.map_congr_left fun id member =>
        Text.trim_eq_self (listable id member).trimmed).trans (List.map_id ids)
    rw [splitIds, pieces, trimmed, List.filter_eq_self]
    intro id member
    simpa using (listable id member).nonempty

theorem splitIds_join_eq_iff (ids : List String) :
    splitIds (Text.join "," ids) = ids ↔ ∀ id ∈ ids, Listable id := by
  constructor
  · intro same id member
    rw [← same] at member
    exact listable_of_mem_splitIds member
  · exact splitIds_join

/-- A list of ids comes back exactly when all of its ids can stand in a list,
and the ids that any text is read as do. -/
theorem ids_survive_joining :
    (∀ ids : List String,
      splitIds (Text.join "," ids) = ids ↔ ∀ id ∈ ids, Listable id) ∧
    ∀ text : String,
      splitIds (Text.join "," (splitIds text)) = splitIds text :=
  ⟨splitIds_join_eq_iff, fun _ =>
    splitIds_join fun _ => listable_of_mem_splitIds⟩

/-- Entries that are empty are lost, and the white space around the others. -/
example : splitIds "1,, 3" = ["1", "3"] := by decide +kernel

end Row

namespace Request

/-- The ids that a request selects and unselects are those of two lists among
its parameters. -/
theorem selection_of_ofParameters {parameters : Parameters} {request : Request}
    (read : ofParameters parameters = .ok request) :
    request.selected =
        (parameters.lookup "row_ids_selected").map Row.splitIds ∧
      request.unselected =
        (parameters.lookup "row_ids_unselected").map Row.splitIds := by
  unfold ofParameters at read
  obtain ⟨action, -, read⟩ := (bind_eq_ok_iff _ _ _).mp read
  obtain ⟨filters, -, read⟩ := (bind_eq_ok_iff _ _ _).mp read
  obtain ⟨page, -, read⟩ := (bind_eq_ok_iff _ _ _).mp read
  obtain ⟨pageSize, -, read⟩ := (bind_eq_ok_iff _ _ _).mp read
  obtain rfl := Except.ok.inj read
  exact ⟨rfl, rfl⟩

/-- The ids that were sent are those that a request selects, or unselects,
exactly when all of them can stand in a list. -/
theorem selection_eq_iff {parameters : Parameters} {request : Request}
    (read : ofParameters parameters = .ok request) {ids others : List String}
    (sent : parameters.lookup "row_ids_selected" = some (Text.join "," ids))
    (sentOthers : parameters.lookup "row_ids_unselected" =
      some (Text.join "," others)) :
    (request.selected = some ids ↔ ∀ id ∈ ids, Row.Listable id) ∧
      (request.unselected = some others ↔
        ∀ id ∈ others, Row.Listable id) := by
  obtain ⟨selected_eq, unselected_eq⟩ := selection_of_ofParameters read
  rw [selected_eq, unselected_eq, sent, sentOthers, Option.map_some,
    Option.map_some, Option.some_inj, Option.some_inj,
    Row.splitIds_join_eq_iff, Row.splitIds_join_eq_iff]
  exact ⟨Iff.rfl, Iff.rfl⟩

end Request

end DataGrid
