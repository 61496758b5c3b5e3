import DataGrid.Action.Difference
import DataGrid.Column.Inference
import DataGrid.Csv
import DataGrid.Envelope
import DataGrid.Filter.Compile
import DataGrid.Form.Markup
import DataGrid.Form.Store
import DataGrid.Paging
import DataGrid.Request
import DataGrid.Row.Cells
import DataGrid.Selection.Service
import DataGrid.Table.Config

/-!
# Answering requests

A grid is a table together with everything that its answers depend on besides
the database and the stored selections.  `respond` answers one request of one
session.
-/

namespace DataGrid

/-- How moments are shown and which page sizes are offered. -/
structure GridSettings where
  dateFormat : String := "%d.%m.%Y %H:%M"
  timezone : String := "UTC"
  pageSizeOptions : List Int := defaultPageSizes
deriving DecidableEq, Repr

/-- A table that is being served. -/
structure Grid where
  table : Table
  dialect : Sql.Dialect
  render : FormRenderer
  settings : GridSettings
  /-- The time of changes. -/
  now : Instant
  localTime : Time.LocalTime := .universal

/-- What a request is answered with. -/
inductive Response
  | envelope (envelope : Envelope)
  | csv (filename : String) (body : String)

namespace Grid

def columnTypes (grid : Grid) : Program ColumnTypes :=
  grid.table.columns.types grid.table.source

def dateFormat (grid : Grid) : String :=
  grid.table.dateFormat.getD grid.settings.dateFormat

def context (grid : Grid) (types : ColumnTypes) : Filter.Context where
  columns := grid.table.columns
  source := grid.table.source
  types := types
  fullText := grid.table.fullText
  dialect := grid.dialect
  style := grid.table.source.style
  dateFormat := grid.dateFormat
  timezone := grid.settings.timezone

def condition (grid : Grid) (types : ColumnTypes) (request : Request) :
    Except Error Sql.Statement :=
  Filter.compile (grid.context types) request.filters request.search

def orderBy (grid : Grid) (request : Request) : String :=
  (SortOrder.requested grid.table.sortDefault request.sortColumn
    request.sortDirection).orderBy grid.table.columns grid.table.source
    grid.table.flags.sortable

def selectionKey (grid : Grid) (session : String) : SelectionKey where
  table := grid.table.id
  session := session

def selectionMeta (count : Nat) : Envelope :=
  .ofMeta (.object [("selected_rows_count", .ofInt count)])

def getConfig (grid : Grid) : Program Envelope := do
  let types ← grid.columnTypes
  pure (.ofData (grid.table.config types grid.settings.pageSizeOptions
    grid.settings.timezone).toJson)

def cells (grid : Grid) (types : ColumnTypes) (raw : Row) : Except Error Row :=
  Row.format grid.localTime grid.table.columns raw types grid.dateFormat
    grid.settings.timezone

/-- What is sent along with a row besides its cells: whether it is selected,
its details, and how its actions differ from the base actions. -/
def rowData (grid : Grid) (selection : Selection)
    (base : List RenderedAction) (raw shown : Row) : Json.Fields :=
  let selected := shown.id?.any selection.contains
  let actions := (grid.table.actionsPayload base raw).map fun partials =>
    Json.list (partials.map .object)
  (if grid.table.flags.rowSelection then [("selected", .bool selected)]
    else []) ++
    Envelope.optional "detail_panel_content"
      (grid.table.detailPanel.map fun panel => .text (panel raw)) ++
    Envelope.optional "row_actions" actions

def listRow (grid : Grid) (types : ColumnTypes) (selection : Selection)
    (base : List RenderedAction) (raw : Row) : Except Error Row := do
  let shown ← grid.cells types raw
  let data := grid.rowData selection base raw shown
  pure (if data.isEmpty then shown
    else Json.Fields.insert shown "_data" (.object data))

def list (grid : Grid) (key : SelectionKey) (request : Request) :
    Program Envelope := do
  let table := grid.table
  let types ← grid.columnTypes
  let condition ← grid.condition types request
  let pageSize :=
    if 0 < request.pageSize then request.pageSize else table.pageSize
  let page ← Page.of request.page pageSize
  let total ← Program.perform
    (.count (← table.source.countStatement condition))
  let statement ← table.source.pageStatement condition (grid.orderBy request)
  let raw ← Program.perform (.fetch statement page.offset (some page.limit))
  let selection ← Selection.load key
  let rows ← Program.ofExcept
    (raw.mapM (grid.listRow types selection table.baseActions))
  pure (.success (some (.list (rows.map .object))) (some (.object [
    ("total", .ofInt total),
    ("page_size", .ofInt pageSize),
    ("current_page", .ofInt page.index),
    ("selected_rows_count", .ofInt selection.count)])))

/-- A parameter that has to be there. -/
def required {α : Type} (value : Option α) (name : String) : Except Error α :=
  match value with
  | some value => .ok value
  | none => .error (.protocol (.missingParameter name))

def setSelected (grid : Grid) (key : SelectionKey) (request : Request) :
    Program Envelope := do
  let selected ← required request.selected "row_ids_selected"
  let unselected ← required request.unselected "row_ids_unselected"
  let selection ← Selection.setSelected key selected unselected grid.now
  pure (selectionMeta selection.count)

/-- Select all rows that satisfy the filters and the search. -/
def selectAll (grid : Grid) (key : SelectionKey) (request : Request) :
    Program Envelope := do
  let types ← grid.columnTypes
  let condition ← grid.condition types request
  let statement ← grid.table.source.pageStatement condition ""
  let rows ← Program.perform (.fetch statement 0 none)
  let selection ← Selection.selectAll key (rows.filterMap Row.id?) grid.now
  pure (selectionMeta selection.count)

def selectNone (grid : Grid) (key : SelectionKey) : Program Envelope := do
  let _ ← Selection.selectNone key grid.now
  pure (selectionMeta 0)

def windowTitle (form : Form) : String :=
  if form.title.isEmpty then "Edit" else form.title

def shownForm (grid : Grid) (form : Form) (row : Row) (errors : FieldErrors)
    (messages : Json) : Envelope :=
  let rendered := grid.render form row errors
  .ofData (.object [
    ("colreplace", .text ""),
    ("errors", messages),
    ("form", .text rendered.markup),
    ("pageendcode", .text rendered.script),
    ("modal_title", .text (windowTitle form))])

/-- The row that a request names, which the table's own query has to return; no
cells when it names none. -/
def formRow (grid : Grid) (identity : Option RowIdentity) : Program Row :=
  match identity with
  | none => pure []
  | some identity => do
      match ← grid.table.fetchRow identity with
      | some row => pure row
      | none => Program.fail (.permission .formRowNotFound)

/-- The form that a request names, filled with the row that it names. -/
def formShow (grid : Grid) (request : Request) : Program Envelope := do
  let form ← grid.table.form (← required request.form "formid")
  let row ← grid.formRow request.row
  pure (grid.shownForm form row [] (.text ""))

/-- Write the submitted data, or show the form again with what is wrong. -/
def formSave (grid : Grid) (request : Request) : Program Envelope := do
  let form ← grid.table.form (← required request.form "formid")
  let stored ← grid.formRow request.row
  let identity := (request.row.map RowIdentity.toRow).getD []
  let data := Json.Fields.insertAll identity request.formData.fields
  let errors := form.validate data
  if errors.isEmpty then
    let outcome ← grid.table.storeRow form data
    let (refresh, rowid) :=
      match outcome with
      | .updated id => ("row", Json.text id)
      | .inserted => ("table", Json.null)
    pure (.ofData (.object [("saved", .bool true), ("refresh", .text refresh),
      ("rowid", rowid)]))
  else
    let messages := errors.map fun error => (error.1, Json.text error.2)
    pure (grid.shownForm form (Json.Fields.insertAll stored data) errors
      (.object messages))

def permitsDelete (action : RowAction) : Bool :=
  action.kind == .delete && !action.disabled

/-- Delete the row that a request names, when the row's own actions permit
it. -/
def deleteRow (grid : Grid) (request : Request) : Program Envelope := do
  let identity ← required request.row "rowid"
  match identity.id? with
  | none => Program.fail (.protocol .rowidWithoutId)
  | some id =>
      match ← grid.table.fetchRow (.single id) with
      | none => Program.fail (.permission (.rowNotFound id))
      | some row =>
          if (grid.table.actionsFor row).any permitsDelete then
            let _ ← grid.table.removeRow id
            pure (.ofData (.object [("success", .bool true)]))
          else Program.fail (.permission (.deleteForbidden id))

/-- The selection that a download is restricted to; empty when the request does
not ask for the selected rows. -/
def downloadSelection (key : SelectionKey) (request : Request) :
    Program Selection :=
  if request.downloadSelected then Selection.load key else pure {}

/-- The rows that satisfy the filters and the search, or the selected ones, as
comma-separated values. -/
def download (grid : Grid) (key : SelectionKey) (request : Request) :
    Program Response := do
  let table := grid.table
  if !table.flags.downloadable then
    Program.fail (.permission .downloadsDisabled)
  else
    let types ← grid.columnTypes
    let selection ← downloadSelection key request
    let condition ←
      if selection.isEmpty then
        Program.ofExcept (grid.condition types request)
      else
        pure (Filter.compileSelection (grid.context types) selection.ids)
    let statement ← table.source.pageStatement condition (grid.orderBy request)
    let raw ← Program.perform (.fetch statement 0 none)
    let rows ← Program.ofExcept (raw.mapM (grid.cells types))
    pure (.csv (table.id ++ ".csv") (Csv.ofRows table.columns rows))

def checkTable (grid : Grid) (request : Request) : Except Error Unit :=
  match request.table with
  | some requested =>
      if requested = grid.table.id then .ok ()
      else .error (.protocol (.otherTable requested grid.table.id))
  | none => .ok ()

/-- Do what a request asks for. -/
def handle (grid : Grid) (session : String) (request : Request) :
    Program Response := do
  grid.checkTable request
  let key := grid.selectionKey session
  match request.action with
  | .getConfig => return .envelope (← grid.getConfig)
  | .list => return .envelope (← grid.list key request)
  | .setSelected => return .envelope (← grid.setSelected key request)
  | .selectAll => return .envelope (← grid.selectAll key request)
  | .selectNone => return .envelope (← grid.selectNone key)
  | .formShow => return .envelope (← grid.formShow request)
  | .formSave => return .envelope (← grid.formSave request)
  | .deleteRow => return .envelope (← grid.deleteRow request)
  | .download => grid.download key request

/-- Answer a request.  Every failure becomes an envelope. -/
def respond (grid : Grid) (session : String) (parameters : Parameters)
    (privileged : Bool) : Program Response :=
  Program.recover
    (do grid.handle session (← Request.ofParameters parameters))
    fun error => .done (.envelope (.ofError error privileged))

def selectedIds (grid : Grid) (session : String) : Program (List String) := do
  pure (← Selection.load (grid.selectionKey session)).ids

def selectedRows (grid : Grid) (session : String) : Program (List Row) := do
  let ids ← grid.selectedIds session
  let types ← grid.columnTypes
  let statement ← grid.table.source.pageStatement
    (Filter.compileSelection (grid.context types) ids) ""
  Program.perform (.fetch statement 0 none)

def clearSelection (grid : Grid) (session : String) : Program Unit := do
  let _ ← Selection.selectNone (grid.selectionKey session) grid.now

end Grid

end DataGrid
