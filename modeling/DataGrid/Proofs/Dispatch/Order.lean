import DataGrid.Engine.Script
import DataGrid.Proofs.Request.Order

/-!
# Answers to parameters in any order

Parameters come without an order of their own.  Whichever they are given in, a
request is answered alike: it asks the same questions, and leaves the same
behind.
-/

namespace DataGrid

open Program

namespace Request.Agrees

variable {request other : Request}

theorem row_eq (agrees : request.Agrees other) : other.row = request.row := by
  rw [agrees.rest]

theorem form_eq (agrees : request.Agrees other) :
    other.form = request.form := by
  rw [agrees.rest]

theorem saved (agrees : request.Agrees other) :
    request.saved.Agrees other.saved := by
  rw [Request.saved, Request.saved, agrees.row_eq]
  exact agrees.data.insertAll request.formData.nodup other.formData.nodup _

theorem nodup_saved (agrees : request.Agrees other) :
    (Json.Fields.names request.saved).Nodup := by
  rw [Request.saved]
  apply Json.Fields.nodup_names_insertAll
  cases named : request.row with
  | none => simp
  | some identity => exact agrees.keys identity named

theorem symm (agrees : request.Agrees other) : other.Agrees request where
  rest := by rw [agrees.rest]
  data := agrees.data.symm
  keys := agrees.row_eq ▸ agrees.keys

end Request.Agrees

namespace Grid

variable {grid : Grid} {request other : Request}

theorem formSave_eq_of_agrees (readsByName : grid.render.ReadsByName)
    (agrees : request.Agrees other) :
    grid.formSave request = grid.formSave other := by
  have concludes (form : Form) (row : Row) :=
    concludeSave_eq_of_agrees readsByName agrees.saved agrees.nodup_saved
      agrees.symm.nodup_saved form row
  simp only [formSave_eq, agrees.form_eq, agrees.row_eq, concludes]

/-- Nothing but a save looks at the submitted data. -/
theorem handle_eq_of_agrees (readsByName : grid.render.ReadsByName)
    (agrees : request.Agrees other) (session : String) :
    grid.handle session request = grid.handle session other := by
  have saves := formSave_eq_of_agrees readsByName agrees
  rw [agrees.rest] at saves ⊢
  unfold handle
  simp only
  cases request.action with
  | formSave => rw [saves]; rfl
  | _ => rfl

theorem respond_eq_of_perm (readsByName : grid.render.ReadsByName)
    {parameters permuted : Parameters} (perm : parameters.Perm permuted)
    (nodup : (parameters.map Prod.fst).Nodup) (session : String)
    (privileged : Bool) :
    grid.respond session parameters privileged =
      grid.respond session permuted privileged := by
  rw [respond, respond]
  rcases Request.ofParameters_of_perm perm nodup with
    ⟨error, refused, alike⟩ | ⟨request, other, read, alike, agrees⟩
  · rw [refused, alike]
  · rw [read, alike]
    exact congrArg (fun program => Program.recover program _)
      (handle_eq_of_agrees readsByName agrees session)

/-- The order of the parameters does not matter: whoever answers the questions
is asked the same ones, with the same statements and values and in the same
order, and keeps the same state, and the response is the same. -/
theorem respond_ignores_order (readsByName : grid.render.ReadsByName)
    (session : String) (privileged : Bool)
    {parameters permuted : Parameters} (perm : parameters.Perm permuted)
    (nodup : (parameters.map Prod.fst).Nodup) {σ : Type}
    (handler : Program.Handler σ) (state : σ) :
    (grid.respond session parameters privileged).run handler state =
        (grid.respond session permuted privileged).run handler state ∧
      (grid.respond session parameters privileged).transcript handler state =
        (grid.respond session permuted privileged).transcript handler
          state := by
  rw [respond_eq_of_perm readsByName perm nodup]
  exact ⟨rfl, rfl⟩

end Grid

namespace Demo

/-- Parameters that save a name and submit a note that no field is for. -/
def noteParameters : Parameters :=
  [("note", "new"), ("formid", "person"), ("name", "Ghost"), ("rowid", "1"),
    ("table_sql_action", "form_save")]

/-- Answers that find the first person. -/
def annScript : Script where
  pages := [.ok [[("id", .ofInt 1), ("name", .text "Ann")]]]

/-- A name is saved with the same questions when its parameters are turned
around. -/
theorem note_ignores_order :
    (directoryGrid.respond "session" noteParameters false).run
        Script.answer annScript =
      (directoryGrid.respond "session" noteParameters.reverse false).run
        Script.answer annScript ∧
    (directoryGrid.respond "session" noteParameters false).transcript
        Script.answer annScript =
      (directoryGrid.respond "session" noteParameters.reverse
        false).transcript Script.answer annScript := by
  have readsByName : directoryGrid.render.ReadsByName :=
    Form.render_readsByName
  exact Grid.respond_ignores_order readsByName "session" false
    (List.reverse_perm noteParameters).symm (by decide) Script.answer annScript

end Demo

end DataGrid
