import DataGrid.Row

/-!
# Filters

A filter names a column, a function and a value.  Clients send filters as JSON.
-/

namespace DataGrid

/-- What a filter asks of a column. -/
inductive FilterFunction
  | contains
  | equals
  | notEquals
  | startsWith
  | endsWith
  | greaterThan
  | greaterThanOrEqualTo
  | lessThan
  | lessThanOrEqualTo
  | empty
  | notEmpty
  | between
deriving DecidableEq, Repr

namespace FilterFunction

def name : FilterFunction → String
  | contains => "contains"
  | equals => "equals"
  | notEquals => "notEquals"
  | startsWith => "startsWith"
  | endsWith => "endsWith"
  | greaterThan => "greaterThan"
  | greaterThanOrEqualTo => "greaterThanOrEqualTo"
  | lessThan => "lessThan"
  | lessThanOrEqualTo => "lessThanOrEqualTo"
  | empty => "empty"
  | notEmpty => "notEmpty"
  | between => "between"

def all : List FilterFunction :=
  [contains, equals, notEquals, startsWith, endsWith, greaterThan,
    greaterThanOrEqualTo, lessThan, lessThanOrEqualTo, empty, notEmpty, between]

/-- The function of a given name.  No name means `contains`, and a second name
of `between` says only that its bounds are inclusive, as they always are. -/
def ofName? (name : Option String) : Option FilterFunction :=
  match name.getD "" with
  | "" => some contains
  | "betweenInclusive" => some between
  | name => all.find? (·.name == name)

end FilterFunction

/-- The value of a filter: one text or several. -/
inductive FilterValue
  | scalar (text : String)
  | list (texts : List String)
deriving DecidableEq, Repr

namespace FilterValue

/-- The value that JSON gives: the texts of a list's items, or the text of
anything else. -/
def ofJson : Json → FilterValue
  | .list items => .list (items.map Json.plain)
  | value => .scalar value.plain

def text : FilterValue → String
  | scalar text => text
  | list texts => Text.join " " texts

/-- A bound of a range, the lower one first; a missing bound is empty. -/
def bound : FilterValue → Nat → String
  | scalar text, 0 => text
  | scalar _, _ => ""
  | list texts, index => texts.getD index ""

def map (change : String → String) : FilterValue → FilterValue
  | scalar text => .scalar (change text)
  | list texts => .list (texts.map change)

end FilterValue

/-- A filter as a client sends it. -/
structure Filter where
  column : String
  function : Option String := none
  value : FilterValue := .scalar ""
deriving DecidableEq, Repr

namespace Filter

def functionOfJson? : Json → Option (Option String)
  | .null => some none
  | .text name => some (some name)
  | _ => none

/-- Read a filter: an object with the column under `column` or `id` but not
under both, or a list of column, function and value, of which the later ones
may be missing. -/
def ofJson? : Json → Option Filter
  | .object fields => do
      let field := Json.Fields.get? fields
      let column ←
        match field "column", field "id" with
        | some (.text column), none => some column
        | none, some (.text column) => some column
        | _, _ => none
      let function ← functionOfJson? ((field "fn").getD .null)
      pure { column, function,
             value := .ofJson ((field "value").getD .null) }
  | .list [.text column] => some { column }
  | .list [.text column, function] => do
      pure { column, function := ← functionOfJson? function }
  | .list [.text column, function, value] => do
      pure { column, function := ← functionOfJson? function,
             value := .ofJson value }
  | _ => none

/-- Read a list of filters, all of which have to be readable. -/
def listOfJson? : List Json → Option (List Filter)
  | items => items.mapM ofJson?

end Filter

end DataGrid
