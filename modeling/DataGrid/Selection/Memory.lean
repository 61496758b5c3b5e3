import DataGrid.Selection

/-!
# Selections in memory

The selections of all tables and sessions.  One that was never stored is empty.
-/

namespace DataGrid

abbrev SelectionMap := List (SelectionKey × Selection)

namespace SelectionMap

def get (map : SelectionMap) (key : SelectionKey) : Selection :=
  (map.lookup key).getD {}

/-- Store a selection under a key, in place of the one that is there. -/
def put (map : SelectionMap) (key : SelectionKey) (selection : Selection) :
    SelectionMap :=
  match map with
  | [] => [(key, selection)]
  | entry :: rest =>
      if entry.1 == key then (key, selection) :: rest
      else entry :: put rest key selection

end SelectionMap

end DataGrid
