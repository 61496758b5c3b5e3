import DataGrid.Action.Difference
import DataGrid.Proofs.Json.Equality

/-!
# Equality of actions

A rendered action equals itself, as does everything that it is made of, and its
wire form has eight fields of different names.
-/

namespace DataGrid

@[simp]
theorem Argument.same_refl (argument : Argument) :
    argument.same argument = true := by
  cases argument <;> simp [same]

namespace OnClick

theorem sameArguments_refl (arguments : List Argument) :
    sameArguments arguments arguments = true := by
  induction arguments with
  | nil => rfl
  | cons argument rest ih => simp [sameArguments, ih]

@[simp]
theorem same_refl (onClick : OnClick) : onClick.same onClick = true := by
  cases onClick <;> simp [same, sameArguments_refl]

end OnClick

namespace RenderedAction

/-- The names of the fields of the wire form. -/
def fieldNames : List String :=
  ["id", "type", "label", "url", "icon", "disabled", "onclick", "target"]

@[simp]
theorem names_toFields (action : RenderedAction) :
    Json.Fields.names action.toFields = fieldNames :=
  rfl

theorem nodup_names_toFields (action : RenderedAction) :
    (Json.Fields.names action.toFields).Nodup := by
  rw [names_toFields]
  decide

theorem insertAll_toFields (action : RenderedAction) :
    Json.Fields.insertAll [] action.toFields = action.toFields :=
  Json.Fields.ofPairs_of_nodup (nodup_names_toFields action)

@[simp]
theorem same_refl (action : RenderedAction) : action.same action = true := by
  have click : sameOnClick action.onClick action.onClick = true := by
    cases action.onClick <;> simp [sameOnClick]
  simp [same, click]

theorem sameList_refl (actions : List RenderedAction) :
    sameList actions actions = true := by
  induction actions with
  | nil => rfl
  | cons action rest ih => simp [sameList, ih]

end RenderedAction

end DataGrid
