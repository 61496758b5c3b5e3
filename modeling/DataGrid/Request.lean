import DataGrid.Decimal.Integer
import DataGrid.Filter
import DataGrid.Json.Object
import DataGrid.Json.Reader
import DataGrid.Sorting

/-!
# Requests

A request is a set of named texts.  Some names have a meaning in the protocol;
everything else is data submitted with a form.
-/

namespace DataGrid

/-- What a request asks for. -/
inductive RequestAction
  | getConfig
  | list
  | setSelected
  | selectAll
  | selectNone
  | formShow
  | formSave
  | deleteRow
  | download
deriving DecidableEq, Repr

namespace RequestAction

def name : RequestAction → String
  | getConfig => "get_config"
  | list => "list"
  | setSelected => "set_selected"
  | selectAll => "select_all"
  | selectNone => "select_none"
  | formShow => "form_show"
  | formSave => "form_save"
  | deleteRow => "delete_row"
  | download => "download"

def all : List RequestAction :=
  [getConfig, list, setSelected, selectAll, selectNone, formShow, formSave,
    deleteRow, download]

def ofName (name : String) : Except Error RequestAction :=
  match all.find? (·.name == name) with
  | some action => .ok action
  | none => .error (.protocol (.unknownAction name))

end RequestAction

/-- The parameters of a request by their names, no name twice. -/
abbrev Parameters := List (String × String)

/-- A request. -/
structure Request where
  action : RequestAction
  /-- The table that the request is meant for. -/
  table : Option String
  filters : List Filter
  search : String
  sortColumn : Option String
  sortDirection : Option Direction
  page : Int
  /-- Zero stands for the table's own page size. -/
  pageSize : Int
  selected : Option (List String)
  unselected : Option (List String)
  row : Option RowIdentity
  form : Option String
  formData : Json.Object
  downloadSelected : Bool

namespace Request

/-- The names that have a meaning in the protocol. -/
def reserved : List String :=
  ["table_sql_action", "uniqueid", "filters", "s", "tsort", "tdir", "page",
    "page_size", "row_ids_selected", "row_ids_unselected", "rowid", "formid",
    "download_selected", "session", "pretty"]

/-- A parameter without the blanks around it, when it is not blank. -/
def text? (parameters : Parameters) (name : String) : Option String :=
  ((parameters.lookup name).map Text.trim).filter (!·.isEmpty)

/-- A parameter that is an integer; a missing or blank one is zero. -/
def integer (parameters : Parameters) (name : String) : Except Error Int :=
  match text? parameters name with
  | none => .ok 0
  | some value =>
      match Decimal.readInteger value with
      | some number => .ok number
      | none => .error (.protocol (.notAnInteger name value))

/-- The filters in a JSON text.  No text and values that are not lists hold no
filters. -/
def filtersOf (raw : String) : Except Error (List Filter) :=
  if Text.allBlank raw then .ok []
  else
    match Json.read? raw with
    | none => .error (.protocol .filtersNotJson)
    | some (.list items) =>
        match Filter.listOfJson? items with
        | some filters => .ok filters
        | none => .error (.protocol .invalidFilter)
    | some _ => .ok []

/-- The key field whose value a parameter holds: its name stands in brackets
behind `rowid`. -/
def keyField? (name : String) : Option String :=
  let opening := "rowid[".toList
  let characters := name.toList
  if opening.isPrefixOf characters then
    match (characters.drop opening.length).reverse with
    | ']' :: field => some (String.ofList field.reverse)
    | _ => none
  else none

/-- Put a field into a list that is sorted by names, in place of one of the
same name. -/
def insertField (name value : String) :
    List (String × String) → List (String × String)
  | [] => [(name, value)]
  | field :: rest =>
      if field.1 == name then (name, value) :: rest
      else if name < field.1 then (name, value) :: field :: rest
      else field :: insertField name value rest

/-- The key fields among the parameters that have a value, sorted by name. -/
def keyFields (parameters : Parameters) : List (String × String) :=
  parameters.foldl (fun fields parameter =>
    match keyField? parameter.1 with
    | some field =>
        if parameter.2.isEmpty then fields
        else insertField field parameter.2 fields
    | none => fields) []

def identity? (parameters : Parameters) : Option RowIdentity :=
  match text? parameters "rowid", keyFields parameters with
  | some id, _ => some (.single id)
  | none, [] => none
  | none, fields => some (.fields fields)

/-- The submitted data: the parameters without a meaning of their own. -/
def dataOf (parameters : Parameters) : Json.Object :=
  .ofPairs (parameters.filterMap fun parameter =>
    if (keyField? parameter.1).isSome || reserved.contains parameter.1 then none
    else some (parameter.1, .text parameter.2))

def ofParameters (parameters : Parameters) : Except Error Request := do
  let action ← RequestAction.ofName
    ((parameters.lookup "table_sql_action").getD "")
  let filters ← filtersOf ((parameters.lookup "filters").getD "")
  let page ← integer parameters "page"
  let pageSize ← integer parameters "page_size"
  pure {
    action
    table := text? parameters "uniqueid"
    filters
    search := (parameters.lookup "s").getD ""
    sortColumn := text? parameters "tsort"
    sortDirection := ((text? parameters "tdir").bind Decimal.readInteger).bind
      Direction.ofCode?
    page
    pageSize
    selected := (parameters.lookup "row_ids_selected").map Row.splitIds
    unselected := (parameters.lookup "row_ids_unselected").map Row.splitIds
    row := identity? parameters
    form := text? parameters "formid"
    formData := dataOf parameters
    downloadSelected :=
      match text? parameters "download_selected" with
      | some answer => ["1", "true", "on"].contains answer
      | none => false }

end Request

end DataGrid
