import DataGrid.Decimal.Numeral
import DataGrid.Error
import DataGrid.Row
import DataGrid.Text.Ascii

/-!
# Forms

A form edits a row of a table.  Its fields say what a client may submit and
what of it is acceptable.
-/

namespace DataGrid

/-- How a field is shown, and for numbers what it accepts. -/
inductive FieldKind
  | text
  | textarea
  | number
  | hidden
deriving DecidableEq, Repr

/-- A field of a form. -/
structure FormField where
  name : String
  label : String
  kind : FieldKind := .text
  required : Bool := false
  maxLength : Option Nat := none
deriving DecidableEq, Repr

/-- A form. -/
structure Form where
  id : String
  title : String
  fields : List FormField := []
  /-- Fields whose stored values a client may not change. -/
  rowSelector : List String := []
deriving DecidableEq, Repr

abbrev FieldErrors := List (String × String)

namespace FieldErrors

def insert (errors : FieldErrors) (name message : String) : FieldErrors :=
  match errors with
  | [] => [(name, message)]
  | error :: rest =>
      if error.1 == name then (name, message) :: rest
      else if name < error.1 then (name, message) :: error :: rest
      else error :: insert rest name message

end FieldErrors

namespace FormField

/-- What is wrong with a submitted text, if anything. -/
def complaint? (field : FormField) (value : String) : Option String :=
  let trimmed := Text.trim value
  if trimmed.isEmpty then
    if field.required then some "Required" else none
  else if field.kind = .number && !Decimal.namesNumber trimmed then
    some "You must enter a number here"
  else
    match field.maxLength with
    | some limit =>
        if limit < value.length then some s!"Maximum of {limit} characters"
        else none
    | none => none

end FormField

namespace Form

/-- The names of all fields have to be identifiers, because they stand in
statements. -/
def check (form : Form) : Except Error Unit :=
  match form.fields.find? fun field => !Text.isIdentifier field.name with
  | some field => .error (.table (.invalidFieldName form.id field.name))
  | none => .ok ()

/-- The messages on submitted data; without any the data is acceptable. -/
def validate (form : Form) (data : Row) : FieldErrors :=
  form.fields.foldl (fun errors field =>
    match field.complaint? (data.cellText field.name) with
    | some message => errors.insert field.name message
    | none => errors) []

/-- The submitted data of the form's own fields, in the form's order. -/
def declared (form : Form) (data : Row) : Row :=
  Json.Fields.ofPairs (form.fields.filterMap fun field =>
    (Json.Fields.get? data field.name).map (field.name, ·))

end Form

end DataGrid
