import DataGrid.Action
import DataGrid.Column
import DataGrid.Form
import DataGrid.Sorting

/-!
# Tables

A table as its author describes it, and the checks that make the description
fit for use.
-/

namespace DataGrid

/-- What a table offers. -/
structure TableFlags where
  sortable : Bool := true
  rowSelection : Bool := false
  downloadable : Bool := false
  detailPanel : Bool := false
  pageSizeSelector : Bool := true
  /-- Without a setting there is a search when the table can be sorted. -/
  globalFilter : Option Bool := none
  /-- Without a setting there are filters when a column can be filtered. -/
  columnFilters : Option Bool := none
  actionsAsMenu : Option Bool := none
  actionsAsStickyColumn : Option Bool := none
  expandActionUrls : Bool := false
deriving DecidableEq, Repr

abbrev RowHook := Row → List RowAction → List RowAction

/-- A table that is fit for use. -/
structure Table where
  id : String
  source : Source
  columns : Columns
  actions : List RowAction
  hook : Option RowHook
  detailPanel : Option (Row → String)
  fullText : List String
  /-- The forms, sorted by their ids. -/
  forms : List Form
  sortDefault : SortOrder
  pageSize : Int
  pageSizeOptions : List Int
  initialPage : Int
  baseUrl : String
  dateFormat : Option String
  flags : TableFlags

namespace Table

def form (table : Table) (id : String) : Except Error Form :=
  match table.forms.find? (·.id == id) with
  | some form => .ok form
  | none => .error (.protocol (.unknownForm id))

/-- The actions may look different from row to row. -/
def customizesActions (table : Table) : Bool :=
  table.hook.isSome || table.flags.expandActionUrls ||
    table.actions.any RowAction.needsRow

end Table

/-- A description of a table that has not been checked. -/
structure TableDraft where
  id : String
  source : Source
  columns : List Column := []
  actions : List RowAction := []
  hook : Option RowHook := none
  detailPanel : Option (Row → String) := none
  fullText : List String := []
  forms : List Form := []
  sortDefault : Option SortOrder := none
  pageSize : Int := 50
  pageSizeOptions : List Int := []
  initialPage : Int := 0
  baseUrl : String := ""
  dateFormat : Option String := none
  flags : TableFlags := {}

namespace TableDraft

def addFormAction (draft : TableDraft) (kind : ActionKind) (label : String)
    (form : FormLink) : TableDraft :=
  let action : RowAction := { kind, label, url := "#", form := some form }
  { draft with actions := draft.actions ++ [action] }

/-- The default order: by the first column, the latest first when that is a
time. -/
def defaultSort (first : Column) : SortOrder where
  column := first.key
  direction :=
    if Text.occurs "time".toList first.key.toList then .descending
    else .ascending

/-- The order that is set, whose column has to exist, or the default one. -/
def checkedSort (draft : TableDraft) (columns : Columns) (first : Column) :
    Except Error SortOrder :=
  match draft.sortDefault with
  | some sort =>
      if (columns.get? sort.column).isSome then .ok sort
      else .error (.table (.sortColumnMissing sort.column))
  | none => .ok (defaultSort first)

def insertForm (form : Form) : List Form → List Form
  | [] => [form]
  | other :: rest =>
      if form.id < other.id then form :: other :: rest
      else other :: insertForm form rest

/-- Check forms one after another, and sort them by their ids. -/
def checkedForms (forms : List Form) : List Form → Except Error (List Form)
  | [] => .ok forms
  | form :: rest => do
      form.check
      if forms.any (·.id == form.id) then
        throw (.table (.formTwice form.id))
      checkedForms (insertForm form forms) rest

def defaultUrl (baseUrl : String) (kind : ActionKind) : String :=
  let separator := if baseUrl.toList.contains '?' then "&" else "?"
  match kind with
  | .edit => baseUrl ++ separator ++ "action=edit&id=\x7bid\x7d"
  | .delete => baseUrl ++ separator ++ "action=delete&id=\x7bid\x7d"
  | .other => ""

def defaultLabel : ActionKind → String
  | .edit => "Edit"
  | .delete => "Delete"
  | .other => ""

/-- An action with its defaults; an action without an id is named for its
place among the actions, counted from one. -/
def completeAction (baseUrl : String) (number : Nat) (action : RowAction) :
    RowAction :=
  { action with
    id := if action.id.isEmpty then s!"action-{number}" else action.id
    url := if action.url.isEmpty then defaultUrl baseUrl action.kind
      else action.url
    label := if action.label.isEmpty then defaultLabel action.kind
      else action.label }

/-- Complete and check actions one after another: ids may not come twice, and
the forms that are opened have to exist. -/
def checkedActions (baseUrl : String) (forms : List Form)
    (actions : List RowAction) : List RowAction → Except Error (List RowAction)
  | [] => .ok actions
  | action :: rest => do
      let action := completeAction baseUrl (actions.length + 1) action
      if actions.any (·.id == action.id) then
        throw (.table (.actionTwice action.id))
      match action.form with
      | some link =>
          if !forms.any (·.id == link.formId) then
            throw (.table (.unknownForm link.formId))
      | none => pure ()
      checkedActions baseUrl forms (actions ++ [action]) rest

/-- Check a description and complete it. -/
def build (draft : TableDraft) : Except Error Table := do
  if Text.allBlank draft.id then throw (.table .tableIdEmpty)
  if draft.pageSize ≤ 0 then throw (.table .pageSizeTooSmall)
  let columns ← Columns.pushAll [] draft.columns
  match columns.head? with
  | none => throw (.table .noColumns)
  | some first =>
      let sortDefault ← draft.checkedSort columns first
      let forms ← checkedForms [] draft.forms
      let actions ← checkedActions draft.baseUrl forms [] draft.actions
      pure {
        id := draft.id
        source := draft.source
        columns
        actions
        hook := draft.hook
        detailPanel := draft.detailPanel
        fullText := draft.fullText
        forms
        sortDefault
        pageSize := draft.pageSize
        pageSizeOptions := draft.pageSizeOptions
        initialPage := max draft.initialPage 0
        baseUrl := draft.baseUrl
        dateFormat := draft.dateFormat
        flags := draft.flags }

end TableDraft

end DataGrid
