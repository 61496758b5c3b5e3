import DataGrid.Time.Instant

/-!
# Selections

The rows that a session has selected in a table: a set of row ids, kept as a
list that is sorted and holds no id twice, and the time of the last change.
-/

namespace DataGrid

/-- Whose selection it is. -/
structure SelectionKey where
  table : String
  session : String
deriving DecidableEq, Repr

/-- A selection. -/
structure Selection where
  ids : List String := []
  changed : Option Instant := none
deriving DecidableEq, Repr

namespace Selection

def insertId (id : String) : List String → List String
  | [] => [id]
  | other :: rest =>
      if id < other then id :: other :: rest
      else if id == other then other :: rest
      else other :: insertId id rest

def insertIds (ids : List String) (more : List String) : List String :=
  more.foldl (fun ids id => insertId id ids) ids

/-- Select some rows and unselect others.  A row that is named twice ends
unselected. -/
def change (selection : Selection) (selected unselected : List String)
    (now : Instant) : Selection where
  ids := (insertIds selection.ids selected).filter (!unselected.contains ·)
  changed := some now

def extend (selection : Selection) (ids : List String) (now : Instant) :
    Selection where
  ids := insertIds selection.ids ids
  changed := some now

def clear (_ : Selection) (now : Instant) : Selection where
  ids := []
  changed := some now

def contains (selection : Selection) (id : String) : Bool :=
  selection.ids.contains id

def count (selection : Selection) : Nat :=
  selection.ids.length

def isEmpty (selection : Selection) : Bool :=
  selection.ids.isEmpty

end Selection

end DataGrid
