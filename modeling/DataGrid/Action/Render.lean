import DataGrid.Action.Address
import DataGrid.Table

/-!
# Rendering actions

A table's actions are rendered once as its base actions, which the client gets
with the configuration, and once for each row.
-/

namespace DataGrid

def formModule : String := "sqlgrid/form"

def formFunction : String := "loadModal"

namespace RowAction

def rendered (action : RowAction) (url : String) (onClick : Option OnClick) :
    RenderedAction where
  id := action.id
  kind := action.kind
  label := action.label
  url := url
  icon := action.icon
  disabled := action.disabled
  onClick := onClick
  target := action.target

end RowAction

namespace Table

/-- What identifies the row to a form: its id, or those of the key fields that
have a value. -/
def formRowId (link : FormLink) (row : Row) : Json :=
  match link.rowIdFields with
  | [] => (Json.Fields.get? row "id").getD .null
  | names =>
      .object (Json.Fields.ofPairs (names.filterMap fun name =>
        ((Json.Fields.get? row name).filter fun value =>
          !value.plain.isEmpty).map (name, ·)))

def formClick (table : Table) (link : FormLink) (row : Row) : OnClick :=
  .call formModule formFunction
    [.expression "e.target",
      .value (.object [
        ("showfields", .list (link.showFields.map .text)),
        ("xhrdata", .object [
          ("uniqueid", .text table.id),
          ("formid", .text link.formId),
          ("rowid", formRowId link row)])])]

/-- An action without a row.  What depends on the row is left out. -/
def renderBase (action : RowAction) : RenderedAction :=
  let onClick :=
    match action.handler with
    | some (.fixed onClick) =>
        if action.disabled || action.form.isSome then none else some onClick
    | _ => none
  action.rendered action.url onClick

def baseActions (table : Table) : List RenderedAction :=
  table.actions.map renderBase

/-- The actions of a row: those of the table, as the hook changes them. -/
def actionsFor (table : Table) (row : Row) : List RowAction :=
  match table.hook with
  | some hook => hook row table.actions
  | none => table.actions

/-- What a click on a row's action does.  A disabled action does nothing, and
opening a form comes before any handler. -/
def clickFor (table : Table) (action : RowAction) (row : Row) :
    Option OnClick :=
  if action.disabled then none
  else
    match action.form, action.handler with
    | some link, _ => some (table.formClick link row)
    | none, some (.fixed onClick) => some onClick
    | none, some (.perRow rule) => rule row
    | none, none => none

def renderFor (table : Table) (row : Row) (action : RowAction) :
    RenderedAction :=
  let url :=
    if table.flags.expandActionUrls then row.expandAddress action.url
    else action.url
  action.rendered url (table.clickFor action row)

def renderedFor (table : Table) (row : Row) : List RenderedAction :=
  (table.actionsFor row).map (table.renderFor row)

end Table

end DataGrid
