import DataGrid.Error
import DataGrid.Json.Reader
import DataGrid.Json.Writer
import DataGrid.Selection

/-!
# Selections as stored texts

A database keeps a selection as two texts: its ids as a JSON list of texts, and
the time of the last change, when there was one.
-/

namespace DataGrid

/-- A selection as it is stored. -/
structure StoredSelection where
  ids : String
  changed : Option String
deriving DecidableEq, Repr

namespace StoredSelection

def ofSelection (selection : Selection) : StoredSelection where
  ids := Json.toText (.list (selection.ids.map .text))
  changed := selection.changed.map Instant.toText

def idOfJson? : Json → Option String
  | .text id => some id
  | _ => none

def readIds (text : String) : Except EngineFailure (List String) :=
  match Json.read? text with
  | some (.list items) =>
      match items.mapM idOfJson? with
      | some ids => .ok (Selection.insertIds [] ids)
      | none => .error { kind := .query, message := undecodable }
  | _ => .error { kind := .query, message := undecodable }
where
  /-- What is said of a text that is no list of ids. -/
  undecodable : String := "failed to decode selected row ids"

def readChanged :
    Option String → Except EngineFailure (Option Instant)
  | none => .ok none
  | some text =>
      match Instant.ofText? text with
      | some instant => .ok (some instant)
      | none => .error
          { kind := .query, message := s!"invalid selection timestamp: {text}" }

/-- The selection that texts stand for.  The ids are read first. -/
def toSelection (stored : StoredSelection) :
    Except EngineFailure Selection := do
  let ids ← readIds stored.ids
  let changed ← readChanged stored.changed
  pure { ids, changed }

end StoredSelection

end DataGrid
