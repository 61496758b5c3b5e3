import DataGrid.Proofs.Form.Lookup

/-!
# Storing submitted data

Which statement a form writes for submitted data, and what has been looked up
by then.
-/

namespace DataGrid

open Sql Program

/-- The question is to change the row whose id is a value.  In the statements
that forms write, the condition on the id comes last. -/
def Query.Updates (value : Value) : Query → Prop
  | .execute statement =>
      "UPDATE ".toList <+: statement.sql.toList ∧
        statement.params.values.getLast? = some value
  | _ => False

/-- The question is not a statement that writes. -/
def Query.Reads : Query → Prop
  | .execute _ => False
  | _ => True

theorem Query.not_updates_of_reads {query : Query} (reads : query.Reads)
    (value : Value) : ¬ query.Updates value := by
  cases query with
  | execute statement => exact reads.elim
  | _ => exact id

namespace Table

/-- The change of columns in the row with an id, as one fragment. -/
def updateFragment (physical id : String) (values : List (String × Value)) :
    Fragment :=
  .text s!"UPDATE {physical} SET " ::
    (Fragment.join ", " (values.map Fragment.equation) ++
      [.text " WHERE id = ", .value (.ofRowId id)])

/-- The addition of a row with the values of some columns, as one fragment. -/
def insertFragment (physical : String) (values : List (String × Value)) :
    Fragment :=
  match values with
  | [] => .ofText s!"INSERT INTO {physical} DEFAULT VALUES"
  | values =>
      let columns := Text.join ", " (values.map (·.1))
      (Fragment.join ", " (values.map fun field => .ofValue field.2)).between
        s!"INSERT INTO {physical} ({columns}) VALUES (" ")"

/-- The removal of the row with an id, as one fragment. -/
def deleteFragment (physical id : String) : Fragment :=
  [.text s!"DELETE FROM {physical} WHERE id = ", .value (.ofRowId id)]

theorem puts_writeUpdate (physical id : String)
    (values : List (String × Value)) :
    Sink.Puts (writeUpdate physical id values)
      (updateFragment physical id values) := by
  intro sink
  rw [writeUpdate, StateT.run_bind, Id.run_bind, Sink.run_equations,
    updateFragment, Fragment.put_text, Fragment.put_append, Fragment.put_join]
  simp [toString, String.append_assoc]

theorem puts_writeInsert (physical : String)
    (values : List (String × Value)) :
    Sink.Puts (writeInsert physical values)
      (insertFragment physical values) := by
  intro sink
  cases values with
  | nil => simp [writeInsert, insertFragment, Fragment.ofText]
  | cons field rest =>
      simp [writeInsert, insertFragment, Fragment.put_join,
        Sink.bindList_eq_putAll, Function.comp_def, toString,
        String.append_assoc]

theorem puts_writeDelete (physical id : String) :
    Sink.Puts (writeDelete physical id) (deleteFragment physical id) := by
  intro sink
  simp [writeDelete, deleteFragment, toString]

/-- Executing what writes a fragment is executing its statement. -/
theorem execute_eq (table : Table) {write : StateM Sink String}
    {fragment : Fragment} (puts : Sink.Puts write fragment) :
    table.execute write = Program.perform
      (.execute (fragment.statement table.source.style formStem)) := by
  rw [execute, puts.statement_eq]

theorem values_updateFragment (physical id : String)
    (values : List (String × Value)) :
    (updateFragment physical id values).values =
      values.map Prod.snd ++ [.ofRowId id] := by
  rw [updateFragment, Fragment.values_text, Fragment.values_append,
    Fragment.values_join, Fragment.flatMap_values_equation]
  rfl

theorem values_insertFragment (physical : String)
    (values : List (String × Value)) :
    (insertFragment physical values).values = values.map Prod.snd := by
  cases values with
  | nil => rfl
  | cons field rest =>
      rw [insertFragment, Fragment.values_between, Fragment.values_join,
        List.flatMap_map, List.map_eq_flatMap]
      · rfl
      · simp

theorem opens_updateFragment (physical id : String)
    (values : List (String × Value)) (style : Style) :
    "UPDATE ".toList <+:
      ((updateFragment physical id values).write style formStem).toList := by
  simp [updateFragment, Fragment.write, Fragment.texts, toString]

theorem opens_insertFragment (physical : String)
    (values : List (String × Value)) (style : Style) :
    "INSERT ".toList <+:
      ((insertFragment physical values).write style formStem).toList := by
  cases values <;>
    simp [insertFragment, Fragment.ofText, Fragment.between, Fragment.write,
      Fragment.texts, toString]

/-- The statement that changes a row changes the row with its id. -/
theorem updates_updateFragment_iff (physical id : String)
    (values : List (String × Value)) (style : Style) (value : Value) :
    (Query.execute ((updateFragment physical id values).statement style
      formStem)).Updates value ↔ value = .ofRowId id := by
  have last : ((updateFragment physical id values).params style
      formStem).values.getLast? = some (.ofRowId id) := by
    rw [Fragment.params, Params.values_number, values_updateFragment]
    simp
  constructor
  · rintro ⟨-, bound⟩
    exact Option.some.inj (bound.symm.trans last)
  · rintro rfl
    exact ⟨opens_updateFragment physical id values style, last⟩

theorem updates_writeUpdate (physical id : String)
    (values : List (String × Value)) (style : Style) :
    (Query.execute (Sink.statement style formStem
      (writeUpdate physical id values))).Updates (.ofRowId id) := by
  rw [(puts_writeUpdate physical id values).statement_eq]
  exact (updates_updateFragment_iff _ _ _ _ _).mpr rfl

/-- The statement that adds a row changes none. -/
theorem not_updates_insertFragment (physical : String)
    (values : List (String × Value)) (style : Style) (value : Value) :
    ¬ (Query.execute ((insertFragment physical values).statement style
      formStem)).Updates value := by
  rintro ⟨updating, -⟩
  rcases List.prefix_or_prefix_of_prefix updating
      (opens_insertFragment physical values style) with
    inside | outside
  · exact absurd inside (by decide)
  · exact absurd outside (by decide)

/-- A form's row selector is checked against the row that is found under the
id, and against nothing when there is no selector. -/
theorem runs_checkRow_ok {table : Table} {form : Form} {id : String}
    {data : Row} {events : List Event}
    (runs : Runs (table.checkRow form id data) events (.ok ())) :
    (form.rowSelector = [] ∧ events = []) ∨
      (form.rowSelector ≠ [] ∧ ∃ event stored, events = [event] ∧
        event.Finds table (.single id) stored ∧
        checkSelector form id stored data form.rowSelector = .ok ()) := by
  unfold checkRow at runs
  split at runs
  · rename_i none
    obtain ⟨rfl, -⟩ := (runs_pure_iff _ _ _).mp runs
    exact .inl ⟨by simpa using none, rfl⟩
  · rename_i some
    right
    refine ⟨by simpa using some, ?_⟩
    rcases (runs_bind_iff _ _ _ _).mp runs with
      ⟨error, -, fails⟩ | ⟨found, first, rest, rfl, fetches, checks⟩
    · simp at fails
    · cases found with
      | none => simp [runs_fail_iff] at checks
      | some stored =>
          obtain ⟨event, rfl, finds⟩ := finds_of_runs_fetchRow fetches
          obtain ⟨rfl, passes⟩ := (runs_liftM_iff _ _ _).mp checks
          exact ⟨event, stored, rfl, finds, passes.symm⟩

theorem asks_checkRow {permitted : Query → Prop} (table : Table)
    (form : Form) (id : String) (data : Row)
    (lookups : ∀ statement, permitted (.fetch statement 0 (some 1))) :
    Asks permitted (table.checkRow form id data) := by
  unfold checkRow
  split
  · exact asks_pure _ _
  · refine asks_bind (table.asks_fetchRow _ lookups) fun found => ?_
    cases found with
    | none => exact asks_fail _ _
    | some stored => exact asks_liftM _ _

/-- Nothing is stored where the rows of a form have no table. -/
theorem runs_storeRow_unknown_iff {table : Table} {form : Form} {data : Row}
    {error : Error} (unknown : table.source.physicalTable = .error error)
    (events : List Event) (outcome : Except Error StoreOutcome) :
    Runs (table.storeRow form data) events outcome ↔
      events = [] ∧ outcome = .error error := by
  rw [storeRow, runs_liftM_bind_iff, unknown]
  simp

/-- Data without an id are stored as a new row. -/
theorem runs_storeRow_insert_iff {table : Table} {form : Form} {data : Row}
    {physical : String} (writable : table.source.physicalTable = .ok physical)
    (absent : data.id? = none) (events : List Event)
    (outcome : Except Error StoreOutcome) :
    Runs (table.storeRow form data) events outcome ↔
      ∃ answer, events = [⟨.execute ((insertFragment physical
          (writtenValues form data)).statement table.source.style formStem),
            answer⟩] ∧
        outcome = (needed answer).map fun _ => .inserted := by
  rw [storeRow, runs_liftM_bind_iff_of_ok writable]
  simp only [absent, table.execute_eq (puts_writeInsert _ _)]
  exact runs_perform_bind_pure_iff _ (fun _ => StoreOutcome.inserted) _ _

/-- Data with an id and nothing to write are checked, and that is all. -/
theorem runs_storeRow_unchanged_iff {table : Table} {form : Form}
    {data : Row} {physical id : String}
    (writable : table.source.physicalTable = .ok physical)
    (holds : data.id? = some id) (nothing : writtenValues form data = [])
    (events : List Event) (outcome : Except Error StoreOutcome) :
    Runs (table.storeRow form data) events outcome ↔
      ∃ result, Runs (table.checkRow form id data) events result ∧
        outcome = result.map fun _ => .updated id := by
  rw [storeRow, runs_liftM_bind_iff_of_ok writable]
  simp only [holds, nothing, List.isEmpty_nil, if_true]
  exact runs_bind_pure_iff _ (fun _ => StoreOutcome.updated id) _ _

/-- Data with an id are stored as a change of that row, once the row selector
has been checked, if a field of the form is among them. -/
theorem runs_storeRow_update_iff {table : Table} {form : Form} {data : Row}
    {physical id : String}
    (writable : table.source.physicalTable = .ok physical)
    (holds : data.id? = some id) (given : writtenValues form data ≠ [])
    (events : List Event) (outcome : Except Error StoreOutcome) :
    Runs (table.storeRow form data) events outcome ↔
      (∃ error, Runs (table.checkRow form id data) events (.error error) ∧
        outcome = .error error) ∨
      ∃ checked answer,
        events = checked ++ [⟨.execute ((updateFragment physical id
          (writtenValues form data)).statement table.source.style formStem),
            answer⟩] ∧
        Runs (table.checkRow form id data) checked (.ok ()) ∧
        outcome = (needed answer).map fun _ => .updated id := by
  have something : ¬ (writtenValues form data).isEmpty = true := by
    simpa using given
  rw [storeRow, runs_liftM_bind_iff_of_ok writable]
  simp only [holds, if_neg something, table.execute_eq (puts_writeUpdate _ _ _)]
  rw [runs_bind_iff]
  apply or_congr_right
  constructor
  · rintro ⟨_, checked, rest, rfl, checks, writes⟩
    obtain ⟨answer, rfl, ends⟩ := (runs_perform_bind_pure_iff _
      (fun _ => StoreOutcome.updated id) _ _).mp writes
    exact ⟨checked, answer, rfl, checks, ends⟩
  · rintro ⟨checked, answer, rfl, checks, ends⟩
    exact ⟨(), checked, _, rfl, checks, (runs_perform_bind_pure_iff _
      (fun _ => StoreOutcome.updated id) _ _).mpr ⟨answer, rfl, ends⟩⟩

/-- Storing data with an id asks for nothing but the row that is checked,
until it changes the row with that id. -/
theorem update_of_runs_storeRow_id {table : Table} {form : Form} {data : Row}
    {physical id : String} {before after : List Event} {event : Event}
    {outcome : Except Error StoreOutcome} {value : Value}
    (writable : table.source.physicalTable = .ok physical)
    (holds : data.id? = some id)
    (runs : Runs (table.storeRow form data) (before ++ event :: after)
      outcome) (updates : event.query.Updates value) :
    value = .ofRowId id ∧
      Runs (table.checkRow form id data) before (.ok ()) := by
  have reads : Asks Query.Reads (table.checkRow form id data) :=
    table.asks_checkRow form id data fun _ => trivial
  have unread {events : List Event} {result : Except Error Unit}
      (checks : Runs (table.checkRow form id data) events result) :
      event ∉ events := fun member =>
    Query.not_updates_of_reads (reads _ _ checks event member) value updates
  by_cases given : writtenValues form data = []
  · obtain ⟨result, checks, -⟩ :=
      (runs_storeRow_unchanged_iff writable holds given _ _).mp runs
    exact absurd (by simp) (unread checks)
  · rcases (runs_storeRow_update_iff writable holds given _ _).mp runs with
      ⟨error, fails, -⟩ | ⟨checked, answer, split, checks, -⟩
    · exact absurd (by simp) (unread fails)
    · obtain ⟨between, rfl, only⟩ :=
        Event.split_behind split.symm (unread checks)
      obtain ⟨rfl, rfl⟩ := Event.eq_of_split_singleton only.symm
      refine ⟨?_, by simpa using checks⟩
      exact (updates_updateFragment_iff _ _ _ _ _).mp updates

/-- Storing data changes the row whose id the data hold, after the row
selector has been checked for that id. -/
theorem update_of_runs_storeRow {table : Table} {form : Form} {data : Row}
    {before after : List Event} {event : Event}
    {outcome : Except Error StoreOutcome} {value : Value}
    (runs : Runs (table.storeRow form data) (before ++ event :: after)
      outcome) (updates : event.query.Updates value) :
    ∃ id, data.id? = some id ∧ value = .ofRowId id ∧
      Runs (table.checkRow form id data) before (.ok ()) := by
  cases writable : table.source.physicalTable with
  | error error =>
      obtain ⟨none, -⟩ :=
        (runs_storeRow_unknown_iff writable _ _).mp runs
      simp at none
  | ok physical =>
      cases holds : data.id? with
      | none =>
          obtain ⟨answer, split, -⟩ :=
            (runs_storeRow_insert_iff writable holds _ _).mp runs
          obtain ⟨-, rfl⟩ := Event.eq_of_split_singleton split
          exact absurd updates (not_updates_insertFragment _ _ _ _)
      | some id =>
          refine ⟨id, rfl, ?_⟩
          exact update_of_runs_storeRow_id writable holds runs updates

/-- Data with an id are stored as a change of that row, once the row selector
has been checked, if a field of the form is among them. -/
theorem runs_storeRow_update {table : Table} {form : Form} {data : Row}
    {physical id : String} {checked : List Event}
    (writable : table.source.physicalTable = .ok physical)
    (holds : data.id? = some id)
    (checks : Runs (table.checkRow form id data) checked (.ok ()))
    (given : writtenValues form data ≠ [])
    (answer : Except EngineFailure Nat) :
    Runs (table.storeRow form data)
      (checked ++ [⟨.execute ((updateFragment physical id
        (writtenValues form data)).statement table.source.style formStem),
          answer⟩])
      ((needed answer).map fun _ => .updated id) := by
  exact (runs_storeRow_update_iff writable holds given _ _).mpr
    (.inr ⟨checked, answer, rfl, checks, rfl⟩)

end Table

end DataGrid
