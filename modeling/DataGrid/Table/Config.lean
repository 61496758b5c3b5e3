import DataGrid.Action.Render

/-!
# The configuration of a table

What a client has to know about a table before it asks for rows.
-/

namespace DataGrid

/-- The page sizes that are offered when a table names none. -/
def defaultPageSizes : List Int := [10, 20, 50, 100, 1000]

/-- The width of labels at which actions go into a menu. -/
def menuWidth : Nat := 22

/-- The number of actions that are shown side by side. -/
def inlineActions : Nat := 5

/-- The width that a button with an icon takes. -/
def iconWidth : Nat := 3

/-- How a column is shown and what a client may do with it. -/
structure ColumnConfig where
  key : String
  header : String
  dataType : DataType
  sorting : Bool
  filter : Bool
  internal : Bool
  visible : Bool
  onClick : Option OnClick
  options : List SelectOption

/-- What a client knows about a table. -/
structure TableConfig where
  id : String
  url : String
  pageSize : Int
  initialPage : Int
  rowSelection : Bool
  sortable : Bool
  sortDefault : SortOrder
  columns : List ColumnConfig
  actions : List RenderedAction
  actionsAsMenu : Bool
  actionsAsStickyColumn : Bool
  globalFilter : Bool
  columnFilters : Bool
  pageSizeSelector : Bool
  pageSizeOptions : List Int
  detailPanel : Bool
  download : Bool
  timezone : String

namespace RowAction

/-- The width of an action's button; labels count by the bytes of their
UTF-8 form. -/
def width (action : RowAction) : Nat :=
  if action.kind ≠ .other || !action.icon.isEmpty then iconWidth
  else action.label.utf8ByteSize

/-- Whether actions go into a menu, and whether their column stays in place
while the table is scrolled.  Settings come before the rule of width. -/
def display (actions : List RowAction) (asMenu asSticky : Option Bool) :
    Bool × Bool :=
  let total := actions.foldl (fun sum action => sum + action.width) 0
  let tooWide := menuWidth ≤ total
  let tooMany := inlineActions < actions.length
  let menu := asMenu.getD (tooMany || tooWide)
  let sticky := asSticky.getD
    (if menu then true else if tooMany then false else !tooWide)
  (menu, sticky)

end RowAction

namespace Table

def insertSize (size : Int) : List Int → List Int
  | [] => [size]
  | other :: rest =>
      if size ≤ other then size :: other :: rest
      else other :: insertSize size rest

/-- The page sizes to choose from: none without a selector, else the table's
own, else the default ones with the table's page size among them in order. -/
def offeredSizes (table : Table) (defaults : List Int) : List Int :=
  if !table.flags.pageSizeSelector then []
  else if !table.pageSizeOptions.isEmpty then table.pageSizeOptions
  else if defaults.contains table.pageSize then defaults
  else (defaults ++ [table.pageSize]).foldr insertSize []

/-- What a client knows about a column. -/
def columnConfig (table : Table) (types : ColumnTypes) (column : Column) :
    ColumnConfig where
  key := column.key
  header := column.header
  dataType := column.effectiveType types
  sorting := table.flags.sortable && column.canSort
  filter := column.canFilter
  internal := column.internal
  visible := column.visible
  onClick := column.onClick
  options := column.options

/-- What a client knows about a table. -/
def config (table : Table) (types : ColumnTypes) (defaultSizes : List Int)
    (timezone : String) : TableConfig :=
  let columns := table.columns.map (table.columnConfig types)
  let (asMenu, asSticky) := RowAction.display table.actions
    table.flags.actionsAsMenu table.flags.actionsAsStickyColumn
  { id := table.id
    url := table.baseUrl
    pageSize := table.pageSize
    initialPage := table.initialPage
    rowSelection := table.flags.rowSelection
    sortable := table.flags.sortable
    sortDefault := table.sortDefault
    columns
    actions := table.baseActions
    actionsAsMenu := asMenu
    actionsAsStickyColumn := asSticky
    globalFilter := table.flags.globalFilter.getD table.flags.sortable
    columnFilters := table.flags.columnFilters.getD (columns.any (·.filter))
    pageSizeSelector := table.flags.pageSizeSelector
    pageSizeOptions := table.offeredSizes defaultSizes
    detailPanel := table.flags.detailPanel
    download := table.flags.downloadable
    timezone }

end Table

def SelectOption.toJson (option : SelectOption) : Json :=
  .object [("value", .text option.value), ("label", .text option.label)]

namespace ColumnConfig

def filterOptions (column : ColumnConfig) : Json :=
  match column.options with
  | [] => .object []
  | options =>
      .object [("filterVariant", .text "multi-select"),
        ("filterSelectOptions", .list (options.map SelectOption.toJson))]

def toJson (column : ColumnConfig) : Json :=
  .object [
    ("key", .text column.key),
    ("header", .text column.header),
    ("data_type", .text column.dataType.name),
    ("sorting", .bool column.sorting),
    ("filter", .bool column.filter),
    ("internal", .bool column.internal),
    ("visible", .bool column.visible),
    ("onclick", (column.onClick.map OnClick.toJson).getD .null),
    ("mrtOptions", column.filterOptions)]

end ColumnConfig

def TableConfig.toJson (config : TableConfig) : Json :=
  .object [
    ("uniqueid", .text config.id),
    ("url", .text config.url),
    ("pagesize", .ofInt config.pageSize),
    ("initial_page_index", .ofInt config.initialPage),
    ("enable_row_selection", .bool config.rowSelection),
    ("is_sortable", .bool config.sortable),
    ("sort_default_column", .text config.sortDefault.column),
    ("sort_default_order", .text config.sortDefault.direction.name),
    ("columns", .list (config.columns.map ColumnConfig.toJson)),
    ("row_actions", .list (config.actions.map RenderedAction.toJson)),
    ("row_actions_display_as_menu", .bool config.actionsAsMenu),
    ("row_actions_display_as_sticky_column",
      .bool config.actionsAsStickyColumn),
    ("enable_global_filter", .bool config.globalFilter),
    ("enable_column_filters", .bool config.columnFilters),
    ("enable_page_size_selector", .bool config.pageSizeSelector),
    ("page_size_options", .list (config.pageSizeOptions.map .ofInt)),
    ("enable_detail_panel", .bool config.detailPanel),
    ("enable_download", .bool config.download),
    ("user_timezone", .text config.timezone)]

end DataGrid
