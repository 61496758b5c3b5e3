import DataGrid.Dispatch
import DataGrid.Proofs.Form.Store

/-!
# Saving forms

A request that saves a form names a row in two ways: by its own identity, which
is looked up, and by the id among the data, which is written to.  Submitted
data win over the identity, so the two need not be the same.
-/

namespace DataGrid

open Program Sql

/-- The data that a request saves: what was submitted, over the request's own
identity. -/
def Request.saved (request : Request) : Row :=
  Json.Fields.insertAll ((request.row.map RowIdentity.toRow).getD [])
    request.formData.fields

namespace Grid

/-- The row that a request names is looked up, if it names one. -/
theorem runs_formRow_ok {grid : Grid} {identity? : Option RowIdentity}
    {events : List Event} {row : Row}
    (runs : Runs (grid.formRow identity?) events (.ok row)) :
    (identity? = none ∧ events = []) ∨
      ∃ identity event, identity? = some identity ∧ events = [event] ∧
        event.Finds grid.table identity row := by
  cases identity? with
  | none =>
      obtain ⟨rfl, -⟩ := (runs_pure_iff _ _ _).mp runs
      exact .inl ⟨rfl, rfl⟩
  | some identity =>
      right
      rcases (runs_bind_iff _ _ _ _).mp runs with
        ⟨error, -, fails⟩ | ⟨found, first, rest, rfl, fetches, ends⟩
      · simp at fails
      · cases found with
        | none => simp [runs_fail_iff] at ends
        | some stored =>
            obtain ⟨event, rfl, finds⟩ :=
              Table.finds_of_runs_fetchRow fetches
            obtain ⟨rfl, same⟩ := (runs_pure_iff _ _ _).mp ends
            obtain rfl := Except.ok.inj same
            exact ⟨identity, event, rfl, rfl, finds⟩

theorem runs_formRow_of_finds {grid : Grid} {identity : RowIdentity}
    {event : Event} {row : Row}
    (finds : event.Finds grid.table identity row) :
    Runs (grid.formRow (some identity)) [event] (.ok row) := by
  refine (runs_bind_iff _ _ _ _).mpr (.inr ⟨some row, [event], [], rfl,
    Table.runs_fetchRow_of_finds finds, ?_⟩)
  exact (runs_pure_iff _ _ _).mpr ⟨rfl, rfl⟩

theorem asks_formRow {permitted : Query → Prop} (grid : Grid)
    (identity? : Option RowIdentity)
    (lookups : ∀ statement, permitted (.fetch statement 0 (some 1))) :
    Asks permitted (grid.formRow identity?) := by
  cases identity? with
  | none => exact asks_pure _ _
  | some identity =>
      refine asks_bind (grid.table.asks_fetchRow _ lookups) fun found => ?_
      cases found with
      | none => exact asks_fail _ _
      | some row => exact asks_pure _ _

/-- What a client is told of a row that has been changed. -/
def savedRow (id : String) : Envelope :=
  .ofData (.object [("saved", .bool true), ("refresh", .text "row"),
    ("rowid", .text id)])

/-- What a client is told of a row that has been added. -/
def addedRow : Envelope :=
  .ofData (.object [("saved", .bool true), ("refresh", .text "table"),
    ("rowid", .null)])

/-- What a client is told of data that have been stored. -/
def stored : StoreOutcome → Envelope
  | .updated id => savedRow id
  | .inserted => addedRow

/-- What a client is told of data that are not acceptable: the form again, with
what is wrong. -/
def rejected (grid : Grid) (form : Form) (row data : Row) : Envelope :=
  let errors := form.validate data
  grid.shownForm form (Json.Fields.insertAll row data) errors
    (.object (errors.map fun error => (error.1, .text error.2)))

/-- What a save does once its form and the row that the request names are
found: it stores the data if they are acceptable. -/
def concludeSave (grid : Grid) (form : Form) (row data : Row) :
    Program Envelope :=
  if form.validate data = [] then
    grid.table.storeRow form data >>= fun result => pure (stored result)
  else pure (grid.rejected form row data)

theorem formSave_eq (grid : Grid) (request : Request) :
    grid.formSave request =
      liftM (required request.form "formid" >>= grid.table.form) >>=
        fun form => grid.formRow request.row >>= fun row =>
          grid.concludeSave form row request.saved := by
  unfold formSave
  cases required request.form "formid" with
  | error error => rfl
  | ok formId =>
      change ofExcept (grid.table.form formId) >>= _ =
        ofExcept (grid.table.form formId) >>= _
      refine bind_congr fun form => bind_congr fun row => ?_
      rw [concludeSave]
      by_cases acceptable : form.validate request.saved = []
      · have empty := List.isEmpty_iff.mpr acceptable
        rw [if_pos acceptable]
        refine (if_pos empty).trans (bind_congr fun result => ?_)
        cases result <;> rfl
      · have given := List.isEmpty_iff.not.mpr acceptable
        rw [if_neg acceptable]
        exact if_neg given

theorem runs_concludeSave_iff (grid : Grid) (form : Form) (row data : Row)
    (events : List Event) (outcome : Except Error Envelope) :
    Runs (grid.concludeSave form row data) events outcome ↔
      if form.validate data = [] then
        ∃ result, Runs (grid.table.storeRow form data) events result ∧
          outcome = result.map stored
      else events = [] ∧ outcome = .ok (grid.rejected form row data) := by
  rw [concludeSave]
  split
  · exact runs_bind_pure_iff _ _ _ _
  · exact runs_pure_iff _ _ _

/-- A save finds its form and the row that the request names, and concludes with
what is submitted. -/
theorem runs_formSave_iff (grid : Grid) (request : Request)
    (events : List Event) (outcome : Except Error Envelope) :
    Runs (grid.formSave request) events outcome ↔
      (∃ error, (required request.form "formid" >>= grid.table.form) =
          .error error ∧ events = [] ∧ outcome = .error error) ∨
      ∃ form, (required request.form "formid" >>= grid.table.form) =
          .ok form ∧
        ((∃ error, Runs (grid.formRow request.row) events (.error error) ∧
          outcome = .error error) ∨
        ∃ row looked rest, events = looked ++ rest ∧
          Runs (grid.formRow request.row) looked (.ok row) ∧
          Runs (grid.concludeSave form row request.saved) rest outcome) := by
  rw [formSave_eq, runs_liftM_bind_iff]
  simp only [runs_bind_iff _ _ events]

/-- A save changes the row whose id the saved data hold.  By then the row that
the request names has been looked up, and the form's row selector has been
checked. -/
theorem update_of_runs_formSave {grid : Grid} {request : Request}
    {before after : List Event} {event : Event}
    {outcome : Except Error Envelope} {value : Value}
    (runs : Runs (grid.formSave request) (before ++ event :: after) outcome)
    (updates : event.query.Updates value) :
    ∃ form id stored looked checked,
      (required request.form "formid" >>= grid.table.form) = .ok form ∧
      request.saved.id? = some id ∧ value = .ofRowId id ∧
      before = looked ++ checked ∧
      Runs (grid.formRow request.row) looked (.ok stored) ∧
      Runs (grid.table.checkRow form id request.saved) checked
        (.ok ()) := by
  rcases (runs_formSave_iff grid request _ _).mp runs with
    ⟨error, -, none, -⟩ | ⟨form, known, saves⟩
  · simp at none
  -- The first lookup writes nothing, so the change comes behind it.
  have reads : Asks Query.Reads (grid.formRow request.row) :=
    grid.asks_formRow request.row fun _ => trivial
  rcases saves with
    ⟨error, fails, -⟩ | ⟨row, looked, rest, split, looks, stores⟩
  · have read := reads _ _ fails event (by simp)
    exact absurd updates (Query.not_updates_of_reads read value)
  have notLooked : event ∉ looked := fun member =>
    Query.not_updates_of_reads (reads _ _ looks event member) value updates
  obtain ⟨between, rfl, rfl⟩ := Event.split_behind split.symm notLooked
  rw [runs_concludeSave_iff] at stores
  split at stores
  · obtain ⟨result, stores, -⟩ := stores
    obtain ⟨id, holds, written, checks⟩ :=
      Table.update_of_runs_storeRow stores updates
    exact ⟨form, id, row, looked, between, known, holds, written, rfl, looks,
      checks⟩
  · simp at stores

/-- Acceptable data with an id are saved as a change of that row, once the row
that the request names has been looked up. -/
theorem runs_formSave_update (grid : Grid) (request : Request) {form : Form}
    {physical id : String} {row : Row} {looked checked : List Event}
    (known : (required request.form "formid" >>= grid.table.form) = .ok form)
    (looks : Runs (grid.formRow request.row) looked (.ok row))
    (valid : form.validate request.saved = [])
    (writable : grid.table.source.physicalTable = .ok physical)
    (holds : request.saved.id? = some id)
    (checks : Runs (grid.table.checkRow form id request.saved) checked
      (.ok ()))
    (given : Table.writtenValues form request.saved ≠ [])
    (answer : Except EngineFailure Nat) :
    Runs (grid.formSave request)
      (looked ++ (checked ++ [⟨.execute ((Table.updateFragment physical id
        (Table.writtenValues form request.saved)).statement
          grid.table.source.style Table.formStem), answer⟩]))
      ((needed answer).map fun _ => savedRow id) := by
  have stores := Table.runs_storeRow_update writable holds checks given answer
  refine (runs_formSave_iff grid request _ _).mpr (.inr ⟨form, known, .inr
    ⟨row, looked, _, rfl, looks, ?_⟩⟩)
  rw [runs_concludeSave_iff, if_pos valid]
  refine ⟨_, stores, ?_⟩
  cases answer <;> rfl

/-- What a request is answered with, when its action is some program. -/
theorem runs_handle_iff {grid : Grid} {session : String} {request : Request}
    {program : Program Envelope}
    (performs : grid.handle session request =
      liftM (grid.checkTable request) >>= fun _ =>
        program >>= fun envelope => pure (.envelope envelope))
    (events : List Event) (outcome : Except Error Response) :
    Runs (grid.handle session request) events outcome ↔
      (∃ error, grid.checkTable request = .error error ∧ events = [] ∧
        outcome = .error error) ∨
      (grid.checkTable request = .ok () ∧
        ∃ result, Runs program events result ∧
          outcome = result.map .envelope) := by
  rw [performs, runs_liftM_bind_iff]
  simp only [runs_bind_pure_iff]
  constructor
  · rintro (refused | ⟨_, meant, answers⟩)
    · exact .inl refused
    · exact .inr ⟨meant, answers⟩
  · rintro (refused | ⟨meant, answers⟩)
    · exact .inl refused
    · exact .inr ⟨(), meant, answers⟩

/-- A request that saves a form and is meant for the table is answered by
saving the form. -/
theorem runs_handle_formSave_iff {grid : Grid} {session : String}
    {request : Request} (save : request.action = .formSave)
    (events : List Event) (outcome : Except Error Response) :
    Runs (grid.handle session request) events outcome ↔
      (∃ error, grid.checkTable request = .error error ∧ events = [] ∧
        outcome = .error error) ∨
      (grid.checkTable request = .ok () ∧
        ∃ result, Runs (grid.formSave request) events result ∧
          outcome = result.map .envelope) :=
  runs_handle_iff (by simp only [handle, save]) events outcome

end Grid

namespace Demo

def nameForm : Form where
  id := "person"
  title := "Person"
  fields := [{ name := "name", label := "name" }]

def directory : Table where
  id := "people"
  source := .ofClauses "*" "people" "" default
  columns := [{ key := "id", header := "id" },
    { key := "name", header := "name" }]
  actions := []
  hook := none
  detailPanel := none
  fullText := []
  forms := [Demo.nameForm]
  sortDefault := ⟨"id", .ascending⟩
  pageSize := 50
  pageSizeOptions := []
  initialPage := 0
  baseUrl := ""
  dateFormat := none
  flags := {}

def directoryGrid : Grid where
  table := directory
  dialect := .sqlite
  render := Form.render
  settings := {}
  now := ⟨0, 0⟩

/-- A request under the first person's identity, with an id among the data. -/
def saveRequest (id : String) : Request where
  action := .formSave
  table := none
  filters := []
  search := ""
  sortColumn := none
  sortDirection := none
  page := 0
  pageSize := 0
  selected := none
  unselected := none
  row := some (.single "1")
  form := some "person"
  formData := ⟨[("id", .text id), ("name", .text "Ghost")], by simp⟩
  downloadSelected := false

theorem saved_saveRequest (id : String) :
    (saveRequest id).saved = [("id", .text id), ("name", .text "Ghost")] :=
  rfl

theorem validate_saved (id : String) :
    nameForm.validate (saveRequest id).saved = [] := by
  simp [saved_saveRequest, Form.validate, nameForm, FormField.complaint?,
    Row.cellText, Json.Fields.get?]

theorem writtenValues_saved (id : String) :
    Table.writtenValues nameForm (saveRequest id).saved =
      [("name", .text "Ghost")] :=
  rfl

/-- The first person is looked up, and then the row with the id among the data
is changed. -/
theorem runs_saveRequest (id : String)
    (holds : (saveRequest id).saved.id? = some id) :
    ∃ lookup update outcome,
      Runs (directoryGrid.handle "session" (saveRequest id))
        [lookup, update] outcome ∧
      lookup.Finds directory (.single "1") [("id", .ofInt 1)] ∧
      update.query.Updates (.ofRowId id) := by
  have known : (Grid.required (some "person") "formid" >>=
      directory.form) = .ok nameForm :=
    rfl
  have writable : directory.source.physicalTable = .ok "people" := by
    decide +kernel
  have stated : ∃ statement,
      directory.lookup (.single "1") = .ok statement :=
    ⟨_, rfl⟩
  obtain ⟨statement, stated⟩ := stated
  have finds : Event.Finds directory (.single "1") [("id", .ofInt 1)]
      ⟨.fetch statement 0 (some 1), .ok [[("id", Json.ofInt 1)]]⟩ :=
    ⟨statement, _, stated, rfl, rfl⟩
  have looks : Runs (directoryGrid.formRow (saveRequest id).row)
      [⟨.fetch statement 0 (some 1), .ok [[("id", Json.ofInt 1)]]⟩]
      (.ok [("id", .ofInt 1)]) :=
    Grid.runs_formRow_of_finds finds
  have checks : Runs (directory.checkRow nameForm id (saveRequest id).saved)
      [] (.ok ()) :=
    (runs_pure_iff _ _ _).mpr ⟨rfl, rfl⟩
  have given : Table.writtenValues nameForm (saveRequest id).saved ≠ [] := by
    simp [writtenValues_saved]
  have saves := Grid.runs_formSave_update directoryGrid (saveRequest id)
    known looks (validate_saved id) writable holds checks given (.ok 1)
  refine ⟨_, _, _, (Grid.runs_handle_formSave_iff rfl _ _).mpr
    (.inr ⟨rfl, _, saves, rfl⟩), finds, ?_⟩
  exact (Table.updates_updateFragment_iff _ _ _ _ _).mpr rfl

end Demo

namespace Grid

/-- When a save changes a row, that row has been found through the table's own
query exactly if the request's identity names its id or the form has a row
selector. -/
theorem formSave_update_found_iff (grid : Grid) (session : String)
    (request : Request) (save : request.action = .formSave)
    {before after : List Event} {event : Event}
    {outcome : Except Error Response}
    (runs : Runs (grid.handle session request) (before ++ event :: after)
      outcome)
    {value : Value} (updates : event.query.Updates value) :
    ∃ form id,
      (required request.form "formid" >>= grid.table.form) = .ok form ∧
      request.saved.id? = some id ∧ value = .ofRowId id ∧
      ((∃ earlier ∈ before, earlier.FindsRow grid.table value) ↔
        (∃ identity ∈ request.row, identity.Names value) ∨
          form.rowSelector ≠ []) := by
  rcases (runs_handle_formSave_iff save _ _).mp runs with
    ⟨error, -, none, -⟩ | ⟨-, result, saves, -⟩
  · simp at none
  obtain ⟨form, id, stored, looked, checked, known, holds, rfl, rfl, looks,
    checks⟩ := update_of_runs_formSave saves updates
  refine ⟨form, id, known, holds, rfl, ?_⟩
  have selected := Table.runs_checkRow_ok checks
  constructor
  · rintro ⟨earlier, member, finds⟩
    rcases List.mem_append.mp member with inLooked | inChecked
    · rcases runs_formRow_ok looks with
        ⟨-, rfl⟩ | ⟨identity, only, named, rfl, found⟩
      · simp at inLooked
      · obtain rfl := List.mem_singleton.mp inLooked
        exact .inl ⟨identity, named, (found.findsRow_iff _).mp finds⟩
    · rcases selected with ⟨-, rfl⟩ | ⟨selector, -⟩
      · simp at inChecked
      · exact .inr selector
  · rintro (⟨identity, named, names⟩ | selector)
    · rcases runs_formRow_ok looks with
        ⟨unnamed, -⟩ | ⟨other, only, otherNamed, rfl, found⟩
      · simp [unnamed] at named
      · obtain rfl := Option.some.inj (named.symm.trans otherNamed)
        exact ⟨only, by simp, (found.findsRow_iff _).mpr names⟩
    · rcases selected with ⟨none, -⟩ | ⟨-, only, row, rfl, found, -⟩
      · exact absurd none selector
      · refine ⟨only, by simp, (found.findsRow_iff _).mpr ?_⟩
        exact (RowIdentity.names_single_iff _ _).mpr rfl

/-- The first person's name is saved under the first person's id, and has been
looked up under it. -/
theorem found_saveRequest_one :
    ∃ before event outcome,
      (Demo.saveRequest "1").action = .formSave ∧
      Runs (Demo.directoryGrid.handle "session" (Demo.saveRequest "1"))
        (before ++ [event]) outcome ∧
      event.query.Updates (.ofRowId "1") ∧
      ∃ form id,
        (required (Demo.saveRequest "1").form "formid" >>=
          Demo.directoryGrid.table.form) = .ok form ∧
        (Demo.saveRequest "1").saved.id? = some id ∧
        Value.ofRowId "1" = .ofRowId id ∧
        ((∃ earlier ∈ before,
            earlier.FindsRow Demo.directoryGrid.table (.ofRowId "1")) ↔
          (∃ identity ∈ (Demo.saveRequest "1").row,
            identity.Names (.ofRowId "1")) ∨
          form.rowSelector ≠ []) := by
  obtain ⟨lookup, update, outcome, runs, -, updates⟩ :=
    Demo.runs_saveRequest "1" rfl
  have run : Runs (Demo.directoryGrid.handle "session"
      (Demo.saveRequest "1")) ([lookup] ++ [update]) outcome :=
    runs
  exact ⟨[lookup], update, outcome, rfl, run, updates,
    formSave_update_found_iff Demo.directoryGrid "session"
      (Demo.saveRequest "1") rfl run updates⟩

/-- A save may change a row that has not been looked up: under the identity of
the first person, the row with another id among the data is changed. -/
theorem not_forall_formSave_update_found :
    ¬ ∀ (grid : Grid) (session : String) (request : Request),
      request.action = .formSave →
      ∀ (before after : List Event) (event : Event)
        (outcome : Except Error Response) (value : Value),
      Runs (grid.handle session request) (before ++ event :: after) outcome →
      event.query.Updates value →
      ∃ earlier ∈ before, earlier.FindsRow grid.table value := by
  intro always
  obtain ⟨lookup, update, outcome, runs, found, updates⟩ :=
    Demo.runs_saveRequest "99" rfl
  obtain ⟨earlier, member, finds⟩ := always Demo.directoryGrid "session"
    (Demo.saveRequest "99") rfl [lookup] [] update outcome (.ofRowId "99")
    runs updates
  obtain rfl := List.mem_singleton.mp member
  have names := (found.findsRow_iff _).mp finds
  have equal : Value.ofRowId "99" = .ofRowId "1" :=
    (RowIdentity.names_single_iff _ _).mp names
  exact absurd equal (by decide +kernel)

end Grid

end DataGrid
