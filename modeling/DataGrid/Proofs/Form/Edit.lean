import DataGrid.Proofs.Engine.Writes
import DataGrid.Proofs.Form.Save
import DataGrid.Proofs.Json.Fields

/-!
# Saving an opened row

Whether a save changes a row or adds one does not depend on the row that was
looked up, but on the id that the request goes by: the submitted one, or that of
its own identity.  An identity of other key fields is good for a lookup only.
-/

namespace DataGrid

open Program Sql

/-- The question is to add a row. -/
def Query.Inserts : Query → Prop
  | .execute statement => "INSERT ".toList <+: statement.sql.toList
  | _ => False

theorem Query.not_inserts_of_reads {query : Query} (reads : query.Reads) :
    ¬ query.Inserts := by
  cases query with
  | execute statement => exact reads.elim
  | _ => exact id

/-- The id that a request goes by: the submitted one and, when none is
submitted, that of its own identity.  Nothing goes by an empty id. -/
def Request.savedId? (request : Request) : Option String :=
  match Json.Fields.get? request.formData.fields "id" with
  | some submitted => submitted.rowId?
  | none => (request.row.bind RowIdentity.id?).filter (· ≠ "")

theorem Query.Reads.not_executes {query : Query} (reads : query.Reads) :
    ¬ query.Executes := by
  cases query with
  | execute statement => exact reads.elim
  | _ => exact id

theorem RowIdentity.get?_toRow (identity : RowIdentity) :
    Json.Fields.get? identity.toRow "id" = identity.id?.map .text := by
  cases identity with
  | single id => rfl
  | fields pairs =>
      induction pairs with
      | nil => rfl
      | cons pair rest ih =>
          obtain ⟨name, value⟩ := pair
          rw [toRow, List.map_cons, Json.Fields.get?_cons]
          by_cases here : name = "id"
          · simp [id?, here]
          · have other : ("id" == name) = false := by
              simpa using Ne.symm here
            rw [if_neg here, id?, List.lookup_cons, other]
            exact ih

theorem Json.rowId?_text (value : String) :
    (Json.text value).rowId? = if value = "" then none else some value := by
  split
  · subst_vars
    rfl
  · rename_i given
    unfold rowId?
    split <;> simp_all [plain]

/-- The saved data hold the id that the request goes by. -/
theorem Request.id?_saved (request : Request) :
    request.saved.id? = request.savedId? := by
  rw [Row.id?, saved, Json.Fields.get?_insertAll request.formData.nodup,
    savedId?]
  cases Json.Fields.get? request.formData.fields "id" with
  | some submitted => rfl
  | none =>
      cases request.row with
      | none => rfl
      | some identity =>
          simp only [Option.none_or, Option.map_some, Option.getD_some,
            identity.get?_toRow, Option.bind_some]
          cases identity.id? with
          | none => rfl
          | some id => simp [Json.rowId?_text, Option.filter]

namespace Table

/-- The statement that changes a row adds none. -/
theorem not_inserts_updateFragment (physical id : String)
    (values : List (String × Value)) (style : Style) :
    ¬ (Query.execute ((updateFragment physical id values).statement style
      formStem)).Inserts := by
  intro inserting
  rcases List.prefix_or_prefix_of_prefix inserting
      (opens_updateFragment physical id values style) with
    inside | outside
  · exact absurd inside (by decide)
  · exact absurd outside (by decide)

/-- Data with an id are never added, and are stored as a change if at all. -/
theorem updates_of_runs_storeRow {table : Table} {form : Form} {data : Row}
    {id : String} (holds : data.id? = some id) {events : List Event}
    {outcome : Except Error StoreOutcome}
    (runs : Runs (table.storeRow form data) events outcome) :
    (∀ event ∈ events, ¬ event.query.Inserts) ∧
      ∀ result, outcome = .ok result → result = .updated id := by
  have looks {checked : List Event} {result : Except Error Unit}
      (checks : Runs (table.checkRow form id data) checked result) :
      ∀ event ∈ checked, ¬ event.query.Inserts := fun event member =>
    Query.not_inserts_of_reads
      (table.asks_checkRow form id data (fun _ => trivial) _ _ checks event
        member)
  cases writable : table.source.physicalTable with
  | error error =>
      obtain ⟨rfl, rfl⟩ := (runs_storeRow_unknown_iff writable _ _).mp runs
      simp
  | ok physical =>
      by_cases given : writtenValues form data = []
      · obtain ⟨result, checks, rfl⟩ :=
          (runs_storeRow_unchanged_iff writable holds given _ _).mp runs
        refine ⟨looks checks, fun stored ends => ?_⟩
        obtain ⟨_, -, same⟩ := (map_eq_ok_iff _ _ _).mp ends
        exact same.symm
      · rcases (runs_storeRow_update_iff writable holds given _ _).mp runs with
          ⟨error, fails, rfl⟩ | ⟨checked, answer, rfl, checks, rfl⟩
        · exact ⟨looks fails, by simp⟩
        · constructor
          · intro event member
            rcases List.mem_append.mp member with early | last
            · exact looks checks event early
            · obtain rfl := List.mem_singleton.mp last
              exact not_inserts_updateFragment _ _ _ _
          · intro stored ends
            obtain ⟨_, -, same⟩ := (map_eq_ok_iff _ _ _).mp ends
            exact same.symm

/-- Data without an id change no row, and are stored as a new one if at
all. -/
theorem inserts_of_runs_storeRow {table : Table} {form : Form} {data : Row}
    (absent : data.id? = none) {events : List Event}
    {outcome : Except Error StoreOutcome}
    (runs : Runs (table.storeRow form data) events outcome) :
    (∀ event ∈ events, ∀ value, ¬ event.query.Updates value) ∧
      ∀ result, outcome = .ok result → result = .inserted := by
  cases writable : table.source.physicalTable with
  | error error =>
      obtain ⟨rfl, rfl⟩ := (runs_storeRow_unknown_iff writable _ _).mp runs
      simp
  | ok physical =>
      obtain ⟨answer, rfl, rfl⟩ :=
        (runs_storeRow_insert_iff writable absent _ _).mp runs
      constructor
      · intro event member value
        obtain rfl := List.mem_singleton.mp member
        exact not_updates_insertFragment _ _ _ _
      · intro stored ends
        obtain ⟨_, -, same⟩ := (map_eq_ok_iff _ _ _).mp ends
        exact same.symm

end Table

/-- The client is told that the data have been saved. -/
def Envelope.Saves : Envelope → Prop
  | .success (some (.object fields)) _ =>
      Json.Fields.get? fields "saved" = some (.bool true)
  | _ => False

namespace Grid

theorem not_saves_rejected (grid : Grid) (form : Form) (row data : Row) :
    ¬ (grid.rejected form row data).Saves := by
  simp [rejected, shownForm, Envelope.ofData, Envelope.Saves,
    Json.Fields.get?]

/-- What a save executes, and what it is reported as, comes from storing the
saved data once the row that the request names is found. -/
theorem stores_of_runs_formSave {grid : Grid} {request : Request}
    {events : List Event} {outcome : Except Error Envelope}
    (runs : Runs (grid.formSave request) events outcome) :
    (∃ form looked rest result, events = looked ++ rest ∧
      (∀ event ∈ looked, event.query.Reads) ∧
      (∀ identity, request.row = some identity →
        ∃ event ∈ looked, ∃ row, event.Finds grid.table identity row) ∧
      Runs (grid.table.storeRow form request.saved) rest result ∧
      outcome = result.map stored) ∨
    ((∀ event ∈ events, event.query.Reads) ∧
      ∀ envelope, outcome = .ok envelope → ¬ envelope.Saves) := by
  rcases (runs_formSave_iff grid request _ _).mp runs with
    ⟨error, -, rfl, rfl⟩ | ⟨form, -, ⟨error, fails, rfl⟩ |
      ⟨row, looked, rest, rfl, looks, concludes⟩⟩
  · exact .inr (by simp)
  · exact .inr ⟨grid.asks_formRow _ (fun _ => trivial) _ _ fails, by simp⟩
  have reads : ∀ event ∈ looked, event.query.Reads :=
    grid.asks_formRow _ (fun _ => trivial) _ _ looks
  rw [runs_concludeSave_iff] at concludes
  split at concludes
  · obtain ⟨result, stores, rfl⟩ := concludes
    refine .inl ⟨form, looked, rest, result, rfl, reads, ?_, stores, rfl⟩
    intro identity named
    rcases runs_formRow_ok looks with
      ⟨unnamed, -⟩ | ⟨other, event, otherNamed, rfl, finds⟩
    · simp [unnamed] at named
    · obtain rfl := Option.some.inj (named.symm.trans otherNamed)
      exact ⟨event, by simp, row, finds⟩
  · obtain ⟨rfl, rfl⟩ := concludes
    refine .inr ⟨by simpa using reads, ?_⟩
    rintro _ ⟨⟩
    exact grid.not_saves_rejected form row _

/-- Nothing is executed before the row that the request names is found. -/
theorem found_of_runs_formSave {grid : Grid} {request : Request}
    {before after : List Event} {event : Event}
    {outcome : Except Error Envelope}
    (runs : Runs (grid.formSave request) (before ++ event :: after) outcome)
    {identity : RowIdentity} (named : request.row = some identity)
    (executes : event.query.Executes) :
    ∃ lookup ∈ before, ∃ row, lookup.Finds grid.table identity row := by
  rcases stores_of_runs_formSave runs with
    ⟨form, looked, rest, result, split, reads, found, -, -⟩ | ⟨reads, -⟩
  · have notLooked : event ∉ looked := fun member =>
      (reads event member).not_executes executes
    obtain ⟨between, rfl, -⟩ := Event.split_behind split.symm notLooked
    obtain ⟨lookup, early, finds⟩ := found identity named
    exact ⟨lookup, List.mem_append_left _ early, finds⟩
  · exact absurd executes (reads event (by simp)).not_executes

/-- A save under an id adds no row. -/
theorem updates_of_runs_formSave {grid : Grid} {request : Request}
    {events : List Event} {outcome : Except Error Envelope} {id : String}
    (runs : Runs (grid.formSave request) events outcome)
    (holds : request.saved.id? = some id) :
    (∀ event ∈ events, ¬ event.query.Inserts ∧
      ∀ value, event.query.Updates value → value = .ofRowId id) ∧
    ∀ envelope, outcome = .ok envelope → envelope.Saves →
      envelope = savedRow id := by
  have bound (event : Event) (member : event ∈ events) (value : Value)
      (updates : event.query.Updates value) : value = .ofRowId id := by
    obtain ⟨before, after, rfl⟩ := List.append_of_mem member
    obtain ⟨form, other, row, looked, checked, -, otherHolds, rfl, -⟩ :=
      update_of_runs_formSave runs updates
    rw [Option.some.inj (holds.symm.trans otherHolds)]
  rcases stores_of_runs_formSave runs with
    ⟨form, looked, rest, result, rfl, reads, -, stores, rfl⟩ | ⟨reads, ends⟩
  · obtain ⟨adds, changed⟩ := Table.updates_of_runs_storeRow holds stores
    refine ⟨fun event member => ⟨?_, bound event member⟩, ?_⟩
    · rcases List.mem_append.mp member with early | late
      · exact Query.not_inserts_of_reads (reads event early)
      · exact adds event late
    · intro envelope told _
      obtain ⟨result, rfl, rfl⟩ := (map_eq_ok_iff _ _ _).mp told
      obtain rfl := changed result rfl
      rfl
  · exact ⟨fun event member => ⟨Query.not_inserts_of_reads
      (reads event member), bound event member⟩,
      fun envelope told saves => absurd saves (ends envelope told)⟩

/-- A save without an id changes no row. -/
theorem inserts_of_runs_formSave {grid : Grid} {request : Request}
    {events : List Event} {outcome : Except Error Envelope}
    (runs : Runs (grid.formSave request) events outcome)
    (absent : request.saved.id? = none) :
    (∀ event ∈ events, ∀ value, ¬ event.query.Updates value) ∧
    ∀ envelope, outcome = .ok envelope → envelope.Saves →
      envelope = addedRow := by
  rcases stores_of_runs_formSave runs with
    ⟨form, looked, rest, result, rfl, reads, -, stores, rfl⟩ | ⟨reads, ends⟩
  · obtain ⟨changes, added⟩ := Table.inserts_of_runs_storeRow absent stores
    constructor
    · intro event member
      rcases List.mem_append.mp member with early | late
      · exact Query.not_updates_of_reads (reads event early)
      · exact changes event late
    · intro envelope told _
      obtain ⟨result, rfl, rfl⟩ := (map_eq_ok_iff _ _ _).mp told
      obtain rfl := added result rfl
      rfl
  · exact ⟨fun event member => Query.not_updates_of_reads
      (reads event member),
      fun envelope told saves => absurd saves (ends envelope told)⟩

end Grid

namespace Demo

/-- A request that names a person by the name, and changes the name. -/
def keyParameters : Parameters :=
  [("table_sql_action", "form_save"), ("formid", "person"),
    ("rowid[name]", "Ann"), ("name", "Ghost")]

def keyRequest : Request :=
  { saveRequest "" with
    row := some (.fields [("name", "Ann")])
    formData := ⟨[("name", .text "Ghost")], by decide⟩ }

theorem ofParameters_keyParameters :
    Request.ofParameters keyParameters = .ok keyRequest :=
  rfl

/-- The person with the name is looked up and found, and then another person is
added. -/
theorem runs_keyRequest :
    ∃ lookup insert,
      Runs (directoryGrid.handle "session" keyRequest) [lookup, insert]
        (.ok (.envelope Grid.addedRow)) ∧
      lookup.Finds directory (.fields [("name", "Ann")])
        [("id", .ofInt 1), ("name", .text "Ann")] ∧
      insert.query.Inserts := by
  have writable : directory.source.physicalTable = .ok "people" := by
    decide +kernel
  obtain ⟨statement, stated⟩ : ∃ statement,
      directory.lookup (.fields [("name", "Ann")]) = .ok statement :=
    ⟨_, rfl⟩
  have finds : Event.Finds directory (.fields [("name", "Ann")])
      [("id", .ofInt 1), ("name", .text "Ann")]
      ⟨.fetch statement 0 (some 1),
        .ok [[("id", .ofInt 1), ("name", .text "Ann")]]⟩ :=
    ⟨statement, _, stated, rfl, rfl⟩
  have valid : nameForm.validate keyRequest.saved = [] := by
    decide +kernel
  have stores : Runs (directory.storeRow nameForm keyRequest.saved) _ _ :=
    (Table.runs_storeRow_insert_iff writable rfl _ _).mpr ⟨.ok 1, rfl, rfl⟩
  have concludes := (Grid.runs_concludeSave_iff directoryGrid nameForm
    [("id", .ofInt 1), ("name", .text "Ann")] keyRequest.saved _ _).mpr
      (by rw [if_pos valid]; exact ⟨_, stores, rfl⟩)
  have saves := (Grid.runs_formSave_iff directoryGrid keyRequest _ _).mpr
    (.inr ⟨nameForm, rfl, .inr ⟨_, _, _, rfl,
      Grid.runs_formRow_of_finds finds, concludes⟩⟩)
  refine ⟨_, _, (Grid.runs_handle_formSave_iff rfl _ _).mpr
    (.inr ⟨rfl, _, saves, rfl⟩), finds, ?_⟩
  exact Table.opens_insertFragment _ _ _

end Demo

namespace Grid

/-- Whether a save changes a row or adds one is decided by the id that the
request goes by.  Under an id it adds none, and is reported as a change of the
row with that id; without one it changes none, and is reported as a new row.
Nothing is executed before the row that the request names is found. -/
theorem formSave_goes_by_id (grid : Grid) (session : String)
    (request : Request) (save : request.action = .formSave)
    {events : List Event} {outcome : Except Error Response}
    (runs : Runs (grid.handle session request) events outcome) :
    (∀ identity, request.row = some identity →
      ∀ before event after, events = before ++ event :: after →
        event.query.Executes →
          ∃ lookup ∈ before, ∃ row,
            lookup.Finds grid.table identity row) ∧
    (∀ id, request.savedId? = some id →
      (∀ event ∈ events, ¬ event.query.Inserts ∧
        ∀ value, event.query.Updates value → value = .ofRowId id) ∧
      ∀ envelope, outcome = .ok (.envelope envelope) → envelope.Saves →
        envelope = savedRow id) ∧
    (request.savedId? = none →
      (∀ event ∈ events, ∀ value, ¬ event.query.Updates value) ∧
      ∀ envelope, outcome = .ok (.envelope envelope) → envelope.Saves →
        envelope = addedRow) := by
  rcases (runs_handle_formSave_iff save _ _).mp runs with
    ⟨error, -, rfl, rfl⟩ | ⟨-, result, saves, rfl⟩
  · simp
  have told (envelope : Envelope)
      (answered : result.map Response.envelope = .ok (.envelope envelope)) :
      result = .ok envelope := by
    obtain ⟨other, rfl, same⟩ := (map_eq_ok_iff _ _ _).mp answered
    rw [Response.envelope.inj same]
  rw [← request.id?_saved]
  refine ⟨?found, ?changes, ?adds⟩
  case found =>
    rintro identity named before event after rfl executes
    exact found_of_runs_formSave saves named executes
  case changes =>
    intro id holds
    obtain ⟨adds, changed⟩ := updates_of_runs_formSave saves holds
    exact ⟨adds, fun envelope answered =>
      changed envelope (told envelope answered)⟩
  case adds =>
    intro absent
    obtain ⟨changes, added⟩ := inserts_of_runs_formSave saves absent
    exact ⟨changes, fun envelope answered =>
      added envelope (told envelope answered)⟩

/-- The first person is changed under the submitted id, and the person with a
name is not changed at all. -/
theorem people_go_by_id :
    (∃ lookup update outcome,
      Runs (Demo.directoryGrid.handle "session" (Demo.saveRequest "1"))
        [lookup, update] outcome ∧ ¬ update.query.Inserts) ∧
    ∃ lookup insert outcome,
      Runs (Demo.directoryGrid.handle "session" Demo.keyRequest)
        [lookup, insert] outcome ∧ ∀ value, ¬ insert.query.Updates value := by
  obtain ⟨lookup, update, outcome, runs, -, -⟩ :=
    Demo.runs_saveRequest "1" rfl
  obtain ⟨other, insert, others, -, -⟩ := Demo.runs_keyRequest
  obtain ⟨-, changes, -⟩ := formSave_goes_by_id Demo.directoryGrid "session"
    (Demo.saveRequest "1") rfl runs
  obtain ⟨-, -, adds⟩ := formSave_goes_by_id Demo.directoryGrid "session"
    Demo.keyRequest rfl others
  exact ⟨⟨lookup, update, outcome, runs, ((changes "1" rfl).1 update
    (by simp)).1⟩, other, insert, _, others, (adds rfl).1 insert (by simp)⟩

/-- A row may be added under an identity whose row is found: a key field other
than the id finds a row, but no row is changed under it. -/
theorem not_forall_formSave_changes_found :
    ¬ ∀ (grid : Grid) (session : String) (parameters : Parameters)
      (request : Request) (identity : RowIdentity) (events : List Event)
      (outcome : Except Error Response),
      Request.ofParameters parameters = .ok request →
      request.action = .formSave → request.row = some identity →
      Runs (grid.handle session request) events outcome →
      (∃ event ∈ events, ∃ row, event.Finds grid.table identity row) →
      (∀ event ∈ events, ¬ event.query.Inserts) ∧
        ∀ envelope, outcome = .ok (.envelope envelope) → envelope.Saves →
          ∃ id, envelope = savedRow id := by
  intro always
  obtain ⟨lookup, insert, runs, finds, inserts⟩ := Demo.runs_keyRequest
  obtain ⟨adds, -⟩ := always Demo.directoryGrid "session" Demo.keyParameters
    Demo.keyRequest _ _ _ Demo.ofParameters_keyParameters rfl rfl runs
    ⟨lookup, by simp, _, finds⟩
  exact adds insert (by simp) inserts

end Grid

end DataGrid
