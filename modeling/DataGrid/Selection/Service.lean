import DataGrid.Engine.Program

/-!
# Changing selections

Each change reads the stored selection, changes it and stores it, so a request
never leaves half a change behind.
-/

namespace DataGrid.Selection

def load (key : SelectionKey) : Program Selection :=
  Program.perform (.loadSelection key)

/-- Change a stored selection; the value is what is stored then. -/
def modify (key : SelectionKey) (change : Selection → Selection) :
    Program Selection := do
  let selection := change (← load key)
  let _ ← Program.perform (.storeSelection key selection)
  pure selection

def setSelected (key : SelectionKey) (selected unselected : List String)
    (now : Instant) : Program Selection :=
  modify key (·.change selected unselected now)

def selectAll (key : SelectionKey) (ids : List String) (now : Instant) :
    Program Selection :=
  modify key (·.extend ids now)

def selectNone (key : SelectionKey) (now : Instant) : Program Selection :=
  modify key (·.clear now)

end DataGrid.Selection
