import DataGrid.Database
import DataGrid.Engine.Program
import DataGrid.Selection.Stored

/-!
# A database at a path

The file that a server works with: it holds the tables of the application and a
table of stored selections.  Until it has been created nothing can be asked of
it.
-/

namespace DataGrid

abbrev StoredSelections := List (SelectionKey × StoredSelection)

/-- The contents of a database file. -/
structure Storage.Contents where
  database : Database := {}
  /-- The stored selections, when their table has been created. -/
  selections : Option StoredSelections := none

/-- A place for a database file, and what the file holds if it exists. -/
structure Storage where
  path : String
  contents : Option Storage.Contents := none

namespace Storage

def selectionTable : List ColumnDeclaration :=
  [⟨"table_id", "TEXT"⟩, ⟨"session_id", "TEXT"⟩, ⟨"row_ids", "TEXT"⟩,
    ⟨"last_changed_at", "TEXT"⟩]

def selectionTableName : String := "grid_selection"

/-- Create what is missing of the file and of the table of selections. -/
def create (storage : Storage) : Storage :=
  let contents := storage.contents.getD {}
  { storage with contents := some { contents with
      selections := some (contents.selections.getD []) } }

/-- What is said of a file that cannot be opened. -/
def unopened (storage : Storage) (kind : EngineFailure.Kind) :
    EngineFailure where
  kind := kind
  message := s!"failed to open db: {storage.path}"

/-- The tables of the application. -/
def database (storage : Storage) : Except EngineFailure Database :=
  match storage.contents with
  | some contents => .ok contents.database
  | none => .error (storage.unopened .connection)

/-- The stored selections; the message says what they are needed for. -/
def selections (storage : Storage) (message : String) :
    Except EngineFailure StoredSelections :=
  match storage.contents with
  | none => .error (storage.unopened .query)
  | some { selections := none, .. } => .error { kind := .query, message }
  | some { selections := some stored, .. } => .ok stored

def declarations (storage : Storage) (table : String) :
    Except EngineFailure (List ColumnDeclaration) := do
  let database ← storage.database
  pure (if storage.contents.any (·.selections.isSome) &&
      Text.sameLetters table selectionTableName then selectionTable
    else database.declarations table)

def load (storage : Storage) (key : SelectionKey) :
    Except EngineFailure Selection := do
  let stored ← storage.selections "failed to load selection"
  match stored.lookup key with
  | some selection => selection.toSelection
  | none => pure {}

/-- Store texts under a key, in place of those that are there. -/
def write (storage : Storage) (key : SelectionKey)
    (selection : StoredSelection) : Except EngineFailure Storage := do
  let stored ← storage.selections "failed to upsert selection"
  let changed := (key, selection) :: stored.filter (·.1 != key)
  pure { storage with contents := storage.contents.map fun contents =>
    { contents with selections := some changed } }

def keep {α : Type} (storage : Storage)
    (result : Except EngineFailure (α × Storage)) :
    Except EngineFailure α × Storage :=
  match result with
  | .ok (answer, changed) => (.ok answer, changed)
  | .error failure => (.error failure, storage)

def execute (storage : Storage) (statement : Sql.Statement) :
    Except EngineFailure (Nat × Storage) := do
  let (count, database) ← (← storage.database).execute statement
  pure (count, { storage with contents := storage.contents.map fun contents =>
    { contents with database } })

/-- Answer a question from the file. -/
def answer : Program.Handler Storage := fun query storage =>
  match query with
  | .count statement =>
      (storage.database.bind (·.count statement), storage)
  | .fetch statement offset limit =>
      (storage.database.bind (·.fetch statement offset limit), storage)
  | .execute statement => storage.keep (storage.execute statement)
  | .declarations table => (storage.declarations table, storage)
  | .loadSelection key => (storage.load key, storage)
  | .storeSelection key selection =>
      storage.keep ((storage.write key (.ofSelection selection)).map ((), ·))

end Storage

end DataGrid
