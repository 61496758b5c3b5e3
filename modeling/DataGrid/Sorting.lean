import DataGrid.Source.Resolve

/-!
# Order of rows

The column and the direction by which a table is sorted.
-/

namespace DataGrid

/-- A direction of sorting. -/
inductive Direction
  | ascending
  | descending
deriving DecidableEq, Repr

namespace Direction

def ofCode? : Int → Option Direction
  | 3 => some descending
  | 4 => some ascending
  | _ => none

def code : Direction → Int
  | descending => 3
  | ascending => 4

def keyword : Direction → String
  | ascending => "ASC"
  | descending => "DESC"

def name : Direction → String
  | ascending => "asc"
  | descending => "desc"

end Direction

/-- A column to sort by. -/
structure SortOrder where
  column : String
  direction : Direction
deriving DecidableEq, Repr

namespace SortOrder

/-- The order that a request asks for.  Without a column the table's own order
is taken, in the requested direction if there is one. -/
def requested (standard : SortOrder) (column : Option String)
    (direction : Option Direction) : SortOrder :=
  match (column.map Text.trim).filter (!·.isEmpty) with
  | some column => { column, direction := direction.getD .ascending }
  | none =>
      { column := standard.column
        direction := direction.getD standard.direction }

/-- The ORDER BY clause, empty when the table or the column cannot be
sorted. -/
def orderBy (sort : SortOrder) (columns : Columns) (source : Source)
    (sortable : Bool) : String :=
  match (columns.get? sort.column).filter Column.canSort with
  | some column =>
      if sortable then
        s!"ORDER BY {source.resolve column} {sort.direction.keyword}"
      else ""
  | none => ""

end SortOrder

end DataGrid
