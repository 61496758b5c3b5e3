import DataGrid.Database.Storage
import DataGrid.Demo

/-!
# The people of the table of people

What the demonstration has in its database: a table of people, filled once.
-/

namespace DataGrid.Demo

def emptyPeople : Database.StoredTable where
  name := tableId
  key := "id"
  fields := [
    { name := "name", sqlType := "TEXT", default := .text "" },
    { name := "email", sqlType := "TEXT", default := .text "" },
    { name := "age", sqlType := "INTEGER" },
    { name := "active", sqlType := "INTEGER", default := .integer 1 },
    { name := "timecreated", sqlType := "INTEGER", default := .integer 0 }]

/-- A person. -/
structure Person where
  name : String
  email : String
  age : Int
  active : Int
  created : Int
deriving DecidableEq, Repr

def people : List Person := [
  ⟨"Ann Archer", "ann@example.org", 34, 1, 1707400800⟩,
  ⟨"Bob Baker", "bob@example.org", 17, 1, 1707487200⟩,
  ⟨"Cy Carter", "cy@example.org", 52, 0, 1700000000⟩,
  ⟨"Dee Dalton", "dee@example.org", 41, 1, 0⟩,
  ⟨"Eve Evans", "eve@example.org", 28, 0, 1710000000⟩]

def Person.values (person : Person) : List (String × Sql.Value) :=
  [("name", .text person.name), ("email", .text person.email),
    ("age", .integer person.age), ("active", .integer person.active),
    ("timecreated", .integer person.created)]

def fill (table : Database.StoredTable) : Database.StoredTable :=
  if table.rows.isEmpty then
    people.foldl (fun table person =>
      (table.insert person.values).getD table) table
  else table

/-- Create the table of people when it is missing, and fill it when it has no
rows. -/
def seedDatabase (database : Database) : Database :=
  let tables :=
    if (database.table? tableId).isSome then database.tables
    else database.tables ++ [emptyPeople]
  { database with tables := tables.map fun table =>
      if table.name = tableId then fill table else table }

def seed (storage : Storage) : Option Storage :=
  storage.contents.map fun contents =>
    { storage with contents := some { contents with
        database := seedDatabase contents.database } }

end DataGrid.Demo
