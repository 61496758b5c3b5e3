import DataGrid.Form
import DataGrid.Text.Markup

/-!
# Forms as markup

A plain rendering of a form, its values and the messages on them.
-/

namespace DataGrid

/-- A form ready to be shown: its markup, and a script to run after it. -/
structure RenderedForm where
  markup : String
  script : String
deriving DecidableEq, Repr

abbrev FormRenderer := Form → Row → FieldErrors → RenderedForm

namespace Form

def input (field : FormField) (value : String) : String :=
  let name := Text.escapeMarkup field.name
  let shown := Text.escapeMarkup value
  let required := if field.required then " required" else ""
  match field.kind with
  | .textarea => s!"<textarea name=\"{name}\"{required}>{shown}</textarea>"
  | .hidden => s!"<input type=\"hidden\" name=\"{name}\" value=\"{shown}\">"
  | .number =>
      s!"<input type=\"number\" name=\"{name}\" value=\"{shown}\"{required}>"
  | .text =>
      s!"<input type=\"text\" name=\"{name}\" value=\"{shown}\"{required}>"

def messageMarkup (field : FormField) (errors : FieldErrors) : String :=
  match errors.lookup field.name with
  | some message =>
      let name := Text.escapeMarkup field.name
      let shown := Text.escapeMarkup message
      s!"<span class=\"error\" data-field=\"{name}\">{shown}</span>"
  | none => ""

/-- A field with its label and the message on it.  A hidden field has
neither. -/
def fieldMarkup (row : Row) (errors : FieldErrors) (field : FormField) :
    String :=
  let entered := input field (row.cellText field.name)
  match field.kind with
  | .hidden => entered
  | _ =>
      s!"<label>{Text.escapeMarkup field.label}{entered}</label>" ++
        messageMarkup field errors

def render : FormRenderer := fun form row errors =>
  let opening :=
    s!"<form class=\"sqlgrid-form\" data-formid=\"" ++
      Text.escapeMarkup form.id ++ "\">"
  { markup := opening ++
      String.join (form.fields.map (fieldMarkup row errors)) ++ "</form>"
    script := "" }

end Form

end DataGrid
