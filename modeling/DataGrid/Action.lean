import DataGrid.Action.Click
import DataGrid.Row

/-!
# Row actions

What a client can do with a row: edit it, delete it, or anything else.  A table
describes its actions once; for each row they are rendered into the form in
which they travel.
-/

namespace DataGrid

/-- What an action does to its row. -/
inductive ActionKind
  | edit
  | delete
  | other
deriving DecidableEq, Repr

namespace ActionKind

def name : ActionKind → String
  | edit => "edit"
  | delete => "delete"
  | other => "other"

def ofName? : String → Option ActionKind
  | "edit" => some edit
  | "delete" => some delete
  | "other" => some other
  | _ => none

/-- Read a kind: its name, or an object whose only field has that name and
holds nothing. -/
def ofJson? : Json → Option ActionKind
  | .text name => ofName? name
  | .object [(name, .null)] => ofName? name
  | _ => none

end ActionKind

/-- How an action answers a click: the same way on every row, or by a rule that
looks at the row. -/
inductive Handler
  | fixed (onClick : OnClick)
  | perRow (rule : Row → Option OnClick)

/-- The form that an action opens for its row. -/
structure FormLink where
  formId : String
  /-- Fields that identify the row; without any the row's id does. -/
  rowIdFields : List String := []
  showFields : List String := []
deriving DecidableEq, Repr

/-- An action as its table describes it. -/
structure RowAction where
  kind : ActionKind
  id : String := ""
  label : String := ""
  /-- The address, in which a field's name in braces stands for its value. -/
  url : String := ""
  icon : String := ""
  target : String := ""
  disabled : Bool := false
  handler : Option Handler := none
  form : Option FormLink := none

def RowAction.needsRow (action : RowAction) : Bool :=
  action.form.isSome ||
    match action.handler with
    | some (.perRow _) => true
    | _ => false

/-- An action as it travels to the client. -/
structure RenderedAction where
  id : String
  kind : ActionKind
  label : String
  url : String
  icon : String
  disabled : Bool
  onClick : Option OnClick
  target : String

namespace RenderedAction

def toFields (action : RenderedAction) : Json.Fields :=
  [("id", .text action.id), ("type", .text action.kind.name),
    ("label", .text action.label), ("url", .text action.url),
    ("icon", .text action.icon), ("disabled", .bool action.disabled),
    ("onclick", (action.onClick.map OnClick.toJson).getD .null),
    ("target", .text action.target)]

def toJson (action : RenderedAction) : Json :=
  .object action.toFields

def onClickOfJson? : Json → Option (Option OnClick)
  | .null => some none
  | value => (OnClick.ofJson? value).map some

def ofValues? (id kind label url icon disabled onClick target : Json) :
    Option RenderedAction :=
  match id, label, url, icon, disabled, target with
  | .text id, .text label, .text url, .text icon, .bool disabled,
      .text target => do
      let kind ← ActionKind.ofJson? kind
      let onClick ← onClickOfJson? onClick
      pure { id, kind, label, url, icon, disabled, onClick, target }
  | _, _, _, _, _, _ => none

/-- Read an action from its fields, of which only the handler may be missing;
fields of other names do not matter. -/
def ofFields? (fields : Json.Fields) : Option RenderedAction := do
  let field := Json.Fields.get? fields
  ofValues? (← field "id") (← field "type") (← field "label") (← field "url")
    (← field "icon") (← field "disabled") ((field "onclick").getD .null)
    (← field "target")

/-- Read an action from an object, or from the list of its eight values. -/
def ofJson? : Json → Option RenderedAction
  | .object fields => ofFields? fields
  | .list [id, kind, label, url, icon, disabled, onClick, target] =>
      ofValues? id kind label url icon disabled onClick target
  | _ => none

def sameOnClick : Option OnClick → Option OnClick → Bool
  | none, none => true
  | some first, some second => first.same second
  | _, _ => false

/-- Equality of actions, the order of fields in arguments left aside. -/
def same (first second : RenderedAction) : Bool :=
  first.id == second.id && first.kind == second.kind &&
    first.label == second.label && first.url == second.url &&
    first.icon == second.icon && first.disabled == second.disabled &&
    sameOnClick first.onClick second.onClick && first.target == second.target

def sameList : List RenderedAction → List RenderedAction → Bool
  | [], [] => true
  | first :: firsts, second :: seconds =>
      first.same second && sameList firsts seconds
  | _, _ => false

end RenderedAction

end DataGrid
