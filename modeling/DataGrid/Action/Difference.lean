import DataGrid.Action.Render

/-!
# What differs from the base

The client knows the base actions.  For a row it is sent only the fields in
which an action differs from the base action of the same id, and overlays them
again.
-/

namespace DataGrid

/-- An action's id together with the fields that are to be overlaid. -/
abbrev PartialAction := Json.Fields

namespace RenderedAction

def withId? (actions : List RenderedAction) (id : String) :
    Option RenderedAction :=
  actions.find? (·.id == id)

/-- A field is missing among others, or has another value there. -/
def differs (others : Json.Fields) (field : String × Json) : Bool :=
  match Json.Fields.get? others field.1 with
  | some value => !value.same field.2
  | none => true

/-- An action's id and the fields in which it differs from its base action;
all of its fields when it has no base action. -/
def difference (base : List RenderedAction) (action : RenderedAction) :
    PartialAction :=
  match withId? base action.id with
  | some baseAction =>
      action.toFields.filter fun field =>
        field.1 == "id" || differs baseAction.toFields field
  | none => action.toFields

def differences (base actions : List RenderedAction) : List PartialAction :=
  actions.map (difference base)

/-- The fields of an action after those that are sent have been overlaid on
its base action. -/
def overlaid (base : List RenderedAction) (sent : PartialAction) :
    Json.Fields :=
  let id :=
    match Json.Fields.get? sent "id" with
    | some (.text id) => id
    | _ => ""
  let fields := ((withId? base id).map toFields).getD []
  Json.Fields.insertAll fields sent

/-- Rebuild an action from what is sent. -/
def overlay (base : List RenderedAction) (sent : PartialAction) :
    Except Error RenderedAction :=
  match ofFields? (overlaid base sent) with
  | some action => .ok action
  | none =>
      let id :=
        match Json.Fields.get? sent "id" with
        | some (.text id) => id
        | _ => ""
      .error (.protocol (.invalidRowAction id))

def overlays (base : List RenderedAction) (sent : List PartialAction) :
    Except Error (List RenderedAction) :=
  sent.mapM (overlay base)

end RenderedAction

namespace Table

/-- What a row's actions are sent as, or none when the base actions will do:
when nothing can change from row to row, and when the row's actions need no row
and are the base actions. -/
def actionsPayload (table : Table) (base : List RenderedAction) (row : Row) :
    Option (List PartialAction) :=
  if !table.customizesActions then none
  else
    let rendered := table.renderedFor row
    if !(table.actionsFor row).any RowAction.needsRow &&
        RenderedAction.sameList rendered base then none
    else some (RenderedAction.differences base rendered)

end Table

end DataGrid
