import DataGrid.Form.Markup
import DataGrid.Proofs.Text.Markup

/-!
# The markup around values

A form shows the values of a row between pieces of markup that do not depend on
the row.  Whatever the values are, a reader of the markup finds the same
elements with the same attributes.
-/

namespace DataGrid.Form

/-- Texts with values between them, in turn. -/
def interleave : List String → List String → String
  | piece :: pieces, value :: values =>
      piece ++ value ++ interleave pieces values
  | pieces, _ => String.join pieces

/-- The markup of a field in front of its value. -/
def beforeValue (field : FormField) : String :=
  let name := Text.escapeMarkup field.name
  let label := "<label>" ++ Text.escapeMarkup field.label
  let required := if field.required then " required" else ""
  match field.kind with
  | .textarea => label ++ "<textarea name=\"" ++ name ++ "\"" ++ required ++ ">"
  | .hidden => "<input type=\"hidden\" name=\"" ++ name ++ "\" value=\""
  | .number =>
      label ++ "<input type=\"number\" name=\"" ++ name ++ "\" value=\""
  | .text => label ++ "<input type=\"text\" name=\"" ++ name ++ "\" value=\""

/-- The markup of a field behind its value, with the message on it. -/
def behindValue (errors : FieldErrors) (field : FormField) : String :=
  let required := if field.required then " required" else ""
  let message := "</label>" ++ messageMarkup field errors
  match field.kind with
  | .textarea => "</textarea>" ++ message
  | .hidden => "\">"
  | .number | .text => "\"" ++ required ++ ">" ++ message

/-- The pieces of a form from some text on, the fields in their order. -/
def piecesFrom (errors : FieldErrors) (front : String) :
    List FormField → List String
  | [] => [front ++ "</form>"]
  | field :: rest =>
      (front ++ beforeValue field) ::
        piecesFrom errors (behindValue errors field) rest

/-- The values that a form shows of a row, as they are written. -/
def shownValues (form : Form) (row : Row) : List String :=
  form.fields.map fun field => Text.escapeMarkup (row.cellText field.name)

theorem fieldMarkup_eq (row : Row) (errors : FieldErrors)
    (field : FormField) :
    fieldMarkup row errors field =
      beforeValue field ++ Text.escapeMarkup (row.cellText field.name) ++
        behindValue errors field := by
  unfold fieldMarkup input beforeValue behindValue
  cases field.kind <;> simp only [toString, String.append_assoc]

theorem length_piecesFrom (errors : FieldErrors) (front : String)
    (fields : List FormField) :
    (piecesFrom errors front fields).length = fields.length + 1 := by
  induction fields generalizing front with
  | nil => rfl
  | cons field rest ih => rw [piecesFrom, List.length_cons, ih]; rfl

/-- The values stand between the pieces. -/
theorem interleave_piecesFrom (row : Row) (errors : FieldErrors)
    (front : String) (fields : List FormField) :
    interleave (piecesFrom errors front fields)
        (fields.map fun field =>
          Text.escapeMarkup (row.cellText field.name)) =
      front ++ String.join (fields.map (fieldMarkup row errors)) ++
        "</form>" := by
  induction fields generalizing front with
  | nil => simp [interleave, piecesFrom]
  | cons field rest ih =>
      rw [piecesFrom, List.map_cons, interleave, ih, List.map_cons,
        String.join_cons, fieldMarkup_eq]
      simp only [String.append_assoc]

/-- A form is shown as pieces of markup, which depend on the form and on the
messages only, with the values of the row between them.  A value is written
without a character that ends a text or an attribute, every ampersand in it
begins one of the five entities, and it is read back as it was. -/
theorem markup_render_eq_interleave (form : Form) (errors : FieldErrors) :
    (∃ pieces : List String, pieces.length = form.fields.length + 1 ∧
      ∀ row, (render form row errors).markup =
        interleave pieces (form.shownValues row)) ∧
    ∀ text : String,
      (∀ mark ∈ ['<', '>', '"', '\''],
        mark ∉ (Text.escapeMarkup text).toList) ∧
      (∀ after, '&' :: after <:+ (Text.escapeMarkup text).toList →
        ∃ character ∈ Text.markupCharacters,
          Text.entity character <+: '&' :: after) ∧
      Text.readMarkup (Text.escapeMarkup text).toList = text.toList := by
  constructor
  · let front := "<form class=\"sqlgrid-form\" data-formid=\"" ++
      Text.escapeMarkup form.id ++ "\">"
    refine ⟨piecesFrom errors front form.fields, length_piecesFrom _ _ _, ?_⟩
    intro row
    exact (interleave_piecesFrom row errors front form.fields).symm
  · intro text
    exact ⟨Text.notMem_escapeMarkup text,
      fun _ => Text.entity_prefix_of_suffix, Text.readMarkup_escapeMarkup text⟩

end DataGrid.Form
