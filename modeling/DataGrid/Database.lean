import DataGrid.Column.Typing
import DataGrid.Database.Grammar
import DataGrid.Row

/-!
# A database in memory

Tables whose rows are numbered by an integer key.  A statement is prepared
before it is run: its names are checked against the tables, and what remains
depends only on the values of its placeholders.
-/

namespace DataGrid

namespace Database

/-- A column of a table besides its key. -/
structure Field where
  name : String
  sqlType : String
  default : Sql.Value := .null
deriving DecidableEq, Repr

/-- A table.  Its rows are in the order of their keys, and no key is chosen for
a new row twice as long as the table exists. -/
structure StoredTable where
  name : String
  /-- The name of the key. -/
  key : String
  fields : List Field
  rows : List (Int × List Sql.Value) := []
  /-- The greatest key that a row has been added with. -/
  lastKey : Int := 0
deriving DecidableEq, Repr

abbrev Heading := List (String × Affinity)

/-- A query whose names have been checked: the names of its results, the place
of its key, when it is a table, and its rows for any values of its
placeholders. -/
structure Prepared where
  heading : Heading
  key : Option Slot := none
  rows : Scope → List (List Sql.Value)

/-- The names by which the key of every table goes besides its own. -/
def keyNames : List String := ["rowid", "oid", "_rowid_"]

namespace StoredTable

def keyType : String := "INTEGER"

def heading (table : StoredTable) : Heading :=
  (table.key, .ofDeclaration keyType) ::
    table.fields.map fun field => (field.name, .ofDeclaration field.sqlType)

def declarations (table : StoredTable) : List ColumnDeclaration :=
  ⟨table.key, keyType⟩ ::
    table.fields.map fun field => ⟨field.name, field.sqlType⟩

/-- The places of a row, its key first. -/
def places (row : Int × List Sql.Value) : List Sql.Value :=
  .integer row.1 :: row.2

def keySlot : Slot := ⟨0, .ofDeclaration keyType⟩

def prepared (table : StoredTable) : Prepared where
  heading := table.heading
  key := some keySlot
  rows := fun _ => table.rows.map places

/-- The name is one of a column besides the key. -/
def hasField (table : StoredTable) (name : String) : Bool :=
  table.fields.any (·.name == name)

def isKey (table : StoredTable) (name : String) : Bool :=
  name == table.key || keyNames.contains name && !table.hasField name

def hasColumns (table : StoredTable) (names : List String) : Bool :=
  names.all fun name => table.hasField name || table.isKey name

def isUsed (table : StoredTable) (key : Int) : Bool :=
  table.rows.any (·.1 == key)

/-- The key that follows all others, unless they have come to an end. -/
def nextKey? (table : StoredTable) : Option Int :=
  let last := table.rows.foldl (fun last row => max last row.1) table.lastKey
  if last < Decimal.greatest then some (last + 1) else none

/-- The key that values ask for, the last one counting; it has to be an
integer. -/
def wantedKey? (table : StoredTable) (values : List (String × Sql.Value)) :
    Option (Option Int) :=
  match values.reverse.find? (table.isKey ·.1) with
  | none => some none
  | some (_, value) =>
      match value.toNumeric with
      | .integer key => some (some key)
      | _ => none

/-- Put a row at the place of its key. -/
def insertRow (row : Int × List Sql.Value) :
    List (Int × List Sql.Value) → List (Int × List Sql.Value)
  | [] => [row]
  | other :: rest =>
      if row.1 < other.1 then row :: other :: rest
      else other :: insertRow row rest

/-- Add a row, under the next key unless the values name another one that is
not used.  Columns without a value get their defaults; of a column that comes
twice the first value counts. -/
def insert (table : StoredTable) (values : List (String × Sql.Value)) :
    Option StoredTable := do
  let wanted ← table.wantedKey? values
  let key ←
    match wanted with
    | some key => if table.isUsed key then none else some key
    | none => table.nextKey?
  let row := table.fields.map fun field =>
    match values.lookup field.name with
    | some value => value.store (.ofDeclaration field.sqlType)
    | none => field.default
  pure { table with
    rows := insertRow (key, row) table.rows
    lastKey := max table.lastKey key }

/-- Put values into a row, and the row under another key when they name one
that is not used.  Of a column that comes twice the last value counts. -/
def change (table : StoredTable) (values : List (String × Sql.Value))
    (row : Int × List Sql.Value) : Option StoredTable := do
  let key := (← table.wantedKey? values).getD row.1
  guard (key == row.1 || !table.isUsed key)
  let fields := (table.fields.zip row.2).map fun (field, old) =>
    match values.reverse.lookup field.name with
    | some value => value.store (.ofDeclaration field.sqlType)
    | none => old
  pure { table with
    rows := insertRow (key, fields) (table.rows.filter (·.1 != row.1)) }

end StoredTable

def Prepared.findColumn (read : Prepared) (qualifier : Option String)
    (column : ColumnName) : Option Slot := do
  guard (column.qualifier.isNone || column.qualifier == qualifier)
  match read.heading.findIdx? (·.1 == column.name) with
  | some position =>
      let place ← read.heading[position]?
      pure ⟨position, place.2⟩
  | none => if keyNames.contains column.name then read.key else none

/-- Sort rows by a key; rows with equal keys stay in order. -/
def sortRows (key : List Sql.Value → Sql.Value) (direction : Direction)
    (rows : List (List Sql.Value)) : List (List Sql.Value) :=
  rows.mergeSort fun first second =>
    let order := (key first).order (key second)
    match direction with
    | .ascending => order != .gt
    | .descending => order != .lt

def countName : String := "COUNT(1)"

/-- Sort rows when a query asks for an order. -/
def prepareOrder (find : ColumnName → Option Slot) :
    Option (Written × Direction) →
      Option (Scope → List (List Sql.Value) → List (List Sql.Value))
  | none => some fun _ rows => rows
  | some (key, direction) => do
      let key ← key.resolve find
      pure fun scope rows =>
        sortRows (fun row => key.value scope row) direction rows

def prepareClauses (clauses : Clauses) (qualifier : Option String)
    (read : Prepared) : Option Prepared := do
  let find := read.findColumn qualifier
  let condition ← clauses.condition.resolve find
  let sort ← prepareOrder find clauses.order
  let rows (scope : Scope) : List (List Sql.Value) :=
    sort scope ((read.rows scope).filter (condition.holds scope ·))
  match clauses.outputs with
  | .all => pure { heading := read.heading, rows }
  | .count =>
      pure {
        heading := [(countName, .none)]
        rows := fun scope => [[.integer (rows scope).length]] }
  | .columns names =>
      let slots ← names.mapM find
      pure {
        heading := slots.filterMap (read.heading[·.position]?)
        rows := fun scope => (rows scope).map fun row =>
          slots.map fun slot => row.getD slot.position .null }

end Database

/-- A database: its tables, and the local time of the server that it is on. -/
structure Database where
  tables : List Database.StoredTable := []
  localTime : Time.LocalTime := .universal

namespace Database

/-- The table of a given name in small letters. -/
def table? (database : Database) (name : String) : Option StoredTable :=
  database.tables.find? fun table => Text.lower table.name == name

def replace (database : Database) (table : StoredTable) : Database :=
  { database with tables := database.tables.map fun other =>
      if other.name = table.name then table else other }

def prepareSelect (database : Database) : Select → Option Prepared
  | .ofTable name clauses => do
      let table ← database.table? name
      prepareClauses clauses (clauses.qualifier.or (some name)) table.prepared
  | .ofSelect inner clauses => do
      prepareClauses clauses clauses.qualifier (← database.prepareSelect inner)

def prepareChanges (find : ColumnName → Option Slot) :
    List (String × Written) → Option (List (String × Expression Slot))
  | [] => some []
  | (name, value) :: rest => do
      let value ← value.resolve find
      pure ((name, value) :: (← prepareChanges find rest))

def evaluateChanges (scope : Scope) (row : List Sql.Value)
    (changes : List (String × Expression Slot)) : List (String × Sql.Value) :=
  changes.map fun (name, value) => (name, value.value scope row)

/-- A statement that writes, prepared: for any values of its placeholders the
number of rows that it changes, and the database after it.  A statement that
fails has neither. -/
abbrev Write := Scope → Option (Nat × Database)

def prepareInsert (database : Database) (name : String)
    (values : List (String × Written)) : Option Write := do
  let table ← database.table? name
  guard (table.hasColumns (values.map (·.1)))
  let values ← prepareChanges (fun _ => none) values
  pure fun scope => do
    let table ← table.insert (evaluateChanges scope [] values)
    pure (1, database.replace table)

def prepareUpdate (database : Database) (name : String)
    (changes : List (String × Written)) (condition : Written) :
    Option Write := do
  let table ← database.table? name
  guard (table.hasColumns (changes.map (·.1)))
  let find := table.prepared.findColumn (some name)
  let changes ← prepareChanges find changes
  let condition ← condition.resolve find
  pure fun scope => do
    let chosen := table.rows.filter fun row =>
      condition.holds scope (StoredTable.places row)
    let table ← chosen.foldlM (fun table row => table.change
      (evaluateChanges scope (StoredTable.places row) changes) row) table
    pure (chosen.length, database.replace table)

def prepareDelete (database : Database) (name : String)
    (condition : Written) : Option Write := do
  let table ← database.table? name
  let condition ← condition.resolve (table.prepared.findColumn (some name))
  pure fun scope =>
    let chosen (row : Int × List Sql.Value) : Bool :=
      condition.holds scope (StoredTable.places row)
    some ((table.rows.filter chosen).length,
      database.replace { table with rows := table.rows.filter (!chosen ·) })

def prepareDrop (database : Database) (name : String) : Option Write := do
  let table ← database.table? name
  pure fun _ =>
    some (0, { database with
      tables := database.tables.filter (·.name != table.name) })

def prepareWrite (database : Database) : Command → Option Write
  | .select _ => none
  | .insert table values => database.prepareInsert table values
  | .update table changes condition =>
      database.prepareUpdate table changes condition
  | .delete table condition => database.prepareDelete table condition
  | .drop table => database.prepareDrop table

/-- The declared columns of a table; none when there is no such table. -/
def declarations (database : Database) (name : String) :
    List ColumnDeclaration :=
  ((database.table? (Text.lower name)).map StoredTable.declarations).getD []

/-- Give values to placeholders.  Those without a value are null; a value
without a placeholder is refused. -/
def bind (placeholders : Placeholders) :
    Sql.Params → Except EngineFailure (Array Sql.Value)
  | .positional values =>
      if values.length ≤ placeholders.count then
        .ok (values.toArray ++
          Array.replicate (placeholders.count - values.length) .null)
      else .error { kind := .query, message :=
        s!"failed to bind parameter {placeholders.count + 1}" }
  | .named values =>
      values.foldlM (fun arguments (name, value) =>
        match placeholders.numbers[name]? with
        | some number => .ok (arguments.setIfInBounds number value)
        | none => .error { kind := .query, message :=
            s!"statement has no parameter :{name}" })
        (Array.replicate placeholders.count .null)

/-- What expressions are evaluated with once the placeholders of a statement
have their values. -/
def scope (database : Database) (placeholders : Placeholders)
    (params : Sql.Params) : Except EngineFailure Scope := do
  pure { arguments := ← bind placeholders params
         localTime := database.localTime }

/-- Prepare the query in a text; the message says what it is for. -/
def prepareQuery (database : Database) (sql message : String) :
    Except EngineFailure (Prepared × Placeholders) :=
  let prepared := do
    match ← Command.read? sql with
    | (.select query, placeholders) =>
        pure (← database.prepareSelect query, placeholders)
    | _ => none
  match prepared with
  | some prepared => .ok prepared
  | none => .error { kind := .query, message }

def count (database : Database) (statement : Sql.Statement) :
    Except EngineFailure Int := do
  let (prepared, placeholders) ←
    database.prepareQuery statement.sql "failed to prepare count query"
  let scope ← database.scope placeholders statement.params
  match prepared.rows scope with
  | (.integer value :: _) :: _ => pure value
  | _ => throw { kind := .query, message := "failed to read row count" }

/-- A row of an answer: of a name that comes twice the later value counts. -/
def answerRow (heading : Heading) (row : List Sql.Value) : Row :=
  Json.Fields.ofPairs
    ((heading.zip row).map fun (place, value) => (place.1, value.toJson))

/-- The rows of a query, from a position on and up to a number of them. -/
def fetch (database : Database) (statement : Sql.Statement) (offset : Int)
    (limit : Option Int) : Except EngineFailure (List Row) := do
  let (prepared, placeholders) ←
    database.prepareQuery statement.sql "failed to prepare page query"
  let scope ← database.scope placeholders statement.params
  let rows := (prepared.rows scope).drop offset.toNat
  let page :=
    match limit.filter (0 ≤ ·) with
    | some limit => rows.take limit.toNat
    | none => rows
  pure (page.map (answerRow prepared.heading))

def execute (database : Database) (statement : Sql.Statement) :
    Except EngineFailure (Nat × Database) :=
  let prepared : Option (Write × Placeholders) := do
    let (command, placeholders) ← Command.read? statement.sql
    pure (← database.prepareWrite command, placeholders)
  match prepared with
  | none => .error
      { kind := .query, message := "failed to prepare statement" }
  | some (write, placeholders) => do
      let scope ← database.scope placeholders statement.params
      match write scope with
      | some outcome => pure outcome
      | none => throw { kind := .query, message :=
          "failed to execute statement" }

end Database

end DataGrid
