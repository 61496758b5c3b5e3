import DataGrid.Dispatch
import DataGrid.Engine.Script
import DataGrid.Proofs.Engine.Writes
import DataGrid.Proofs.Form.Save

/-!
# What requests write

Every action looks first and writes last, if it writes at all, so a request
that fails has changed nothing.  Which kind of write a request may ask for is
decided by its action.
-/

namespace DataGrid

open Program

namespace Columns

variable {permitted : Query → Prop}

theorem asks_declarationsOf
    (declared : ∀ table, permitted (.declarations table))
    (known : KnownTables) (table : String) :
    Asks permitted (declarationsOf known table) := by
  unfold declarationsOf
  split
  · exact asks_pure _ _
  · exact asks_bind (asks_attempt (declared table)) fun _ => asks_pure _ _

theorem asks_typeOf (declared : ∀ table, permitted (.declarations table))
    (source : Source) (known : KnownTables) (column : Column) :
    Asks permitted (typeOf source known column) := by
  unfold typeOf
  split
  · exact asks_pure _ _
  · exact asks_pure _ _
  · exact asks_bind (asks_declarationsOf declared _ _) fun _ => asks_pure _ _

/-- Finding the types of columns asks for declarations alone. -/
theorem asks_typesFrom (declared : ∀ table, permitted (.declarations table))
    (source : Source) (known : KnownTables) (columns : Columns) :
    Asks permitted (typesFrom source known columns) := by
  induction columns generalizing known with
  | nil => exact asks_pure _ _
  | cons column rest ih =>
      refine asks_bind (asks_typeOf declared source known column) ?_
      intro found
      exact asks_bind (ih found.2) fun _ => asks_pure _ _

end Columns

namespace Selection

theorem looks_load (key : SelectionKey) : Asks Query.Looks (load key) :=
  asks_perform ⟨id, id⟩

theorem writesLast_modify (key : SelectionKey)
    (change : Selection → Selection) :
    WritesLast Query.Stores (fun _ => True) (modify key change) :=
  writesLast_bind (looks_load key) fun _ =>
    writesLast_bind_pure (writesLast_perform trivial) fun _ _ => trivial

end Selection

namespace Table

theorem looks_fetchRow (table : Table) (identity : RowIdentity) :
    Asks Query.Looks (table.fetchRow identity) :=
  table.asks_fetchRow identity fun statement => Query.looks_fetch statement _ _

theorem looks_checkRow (table : Table) (form : Form) (id : String)
    (data : Row) : Asks Query.Looks (table.checkRow form id data) :=
  table.asks_checkRow form id data fun statement =>
    Query.looks_fetch statement _ _

theorem writesLast_execute (table : Table) (write : StateM Sql.Sink String) :
    WritesLast Query.Executes (fun _ => True) (table.execute write) := by
  have permits (statement : Sql.Statement) :
      (Query.execute statement).Executes :=
    trivial
  exact writesLast_perform (permits _)

theorem writesLast_storeRow (table : Table) (form : Form) (data : Row) :
    WritesLast Query.Executes (fun _ => True) (table.storeRow form data) := by
  refine writesLast_bind (asks_liftM _ _) fun physical => ?_
  cases data.id? with
  | none =>
      exact writesLast_bind_pure (table.writesLast_execute _)
        fun _ _ => trivial
  | some id =>
      refine writesLast_bind (table.looks_checkRow form id data) fun _ => ?_
      split
      · exact writesLast_pure trivial
      · exact writesLast_bind_pure (table.writesLast_execute _)
          fun _ _ => trivial

theorem writesLast_removeRow (table : Table) (id : String) :
    WritesLast Query.Executes (fun _ => True) (table.removeRow id) :=
  writesLast_bind (asks_liftM _ _) fun _ => table.writesLast_execute _

end Table

/-- The writes that an action may ask for. -/
def RequestAction.Writes : RequestAction → Query → Prop
  | .formSave | .deleteRow => Query.Executes
  | .setSelected | .selectAll | .selectNone => Query.Stores
  | .getConfig | .list | .formShow | .download => fun _ => False

theorem RequestAction.saves_or_deletes {action : RequestAction}
    {query : Query} (writes : action.Writes query)
    (executes : query.Executes) :
    action = .formSave ∨ action = .deleteRow := by
  cases action with
  | formSave => exact .inl rfl
  | deleteRow => exact .inr rfl
  | setSelected | selectAll | selectNone =>
      cases query with
      | execute statement => exact writes.elim
      | _ => exact executes.elim
  | getConfig | list | formShow | download => exact writes.elim

theorem RequestAction.selects {action : RequestAction} {query : Query}
    (writes : action.Writes query) (stores : query.Stores) :
    action = .setSelected ∨ action = .selectAll ∨ action = .selectNone := by
  cases action with
  | setSelected => exact .inl rfl
  | selectAll => exact .inr (.inl rfl)
  | selectNone => exact .inr (.inr rfl)
  | formSave | deleteRow =>
      cases query with
      | storeSelection key selection => exact writes.elim
      | _ => exact stores.elim
  | getConfig | list | formShow | download => exact writes.elim

/-- The response says that the request failed. -/
def Response.isFailure : Response → Bool
  | .envelope (.failure _ _ _) => true
  | _ => false

/-- The envelope holds what was asked for. -/
def Envelope.Succeeds (envelope : Envelope) : Prop :=
  (Response.envelope envelope).isFailure = false

namespace Grid

variable (grid : Grid) (key : SelectionKey) (request : Request)

theorem looks_columnTypes : Asks Query.Looks grid.columnTypes :=
  Columns.asks_typesFrom (fun _ => ⟨id, id⟩) _ _ _

theorem looks_formRow (identity : Option RowIdentity) :
    Asks Query.Looks (grid.formRow identity) :=
  grid.asks_formRow identity fun statement => Query.looks_fetch statement _ _

theorem looks_downloadSelection :
    Asks Query.Looks (downloadSelection key request) := by
  unfold downloadSelection
  split
  · exact Selection.looks_load key
  · exact asks_pure _ _

theorem writesLast_getConfig :
    WritesLast (fun _ => False) Envelope.Succeeds grid.getConfig :=
  writesLast_bind grid.looks_columnTypes fun _ => writesLast_pure rfl

theorem writesLast_list :
    WritesLast (fun _ => False) Envelope.Succeeds (grid.list key request) := by
  refine writesLast_bind grid.looks_columnTypes fun types => ?_
  refine writesLast_bind (asks_liftM _ _) fun condition => ?_
  refine writesLast_bind (asks_liftM _ _) fun page => ?_
  refine writesLast_bind (asks_liftM _ _) fun counted => ?_
  refine writesLast_bind (asks_perform ⟨id, id⟩) fun total => ?_
  refine writesLast_bind (asks_liftM _ _) fun statement => ?_
  refine writesLast_bind (asks_perform (Query.looks_fetch _ _ _)) fun raw => ?_
  refine writesLast_bind (Selection.looks_load key) fun selection => ?_
  exact writesLast_bind (asks_liftM _ _) fun rows => writesLast_pure rfl

theorem writesLast_setSelected :
    WritesLast Query.Stores Envelope.Succeeds
      (grid.setSelected key request) := by
  refine writesLast_bind (asks_liftM _ _) fun selected => ?_
  refine writesLast_bind (asks_liftM _ _) fun unselected => ?_
  exact writesLast_bind_pure (Selection.writesLast_modify key _)
    fun selection _ => rfl

theorem writesLast_selectAll :
    WritesLast Query.Stores Envelope.Succeeds
      (grid.selectAll key request) := by
  refine writesLast_bind grid.looks_columnTypes fun types => ?_
  refine writesLast_bind (asks_liftM _ _) fun condition => ?_
  refine writesLast_bind (asks_liftM _ _) fun statement => ?_
  refine writesLast_bind (asks_perform (Query.looks_fetch _ _ _))
    fun rows => ?_
  exact writesLast_bind_pure (Selection.writesLast_modify key _)
    fun selection _ => rfl

theorem writesLast_selectNone :
    WritesLast Query.Stores Envelope.Succeeds (grid.selectNone key) :=
  writesLast_bind_pure (Selection.writesLast_modify key _) fun _ _ => rfl

theorem writesLast_formShow :
    WritesLast (fun _ => False) Envelope.Succeeds
      (grid.formShow request) := by
  refine writesLast_bind (asks_liftM _ _) fun formId => ?_
  refine writesLast_bind (asks_liftM _ _) fun form => ?_
  exact writesLast_bind (grid.looks_formRow request.row) fun row =>
    writesLast_pure rfl

theorem writesLast_formSave :
    WritesLast Query.Executes Envelope.Succeeds (grid.formSave request) := by
  refine writesLast_bind (asks_liftM _ _) fun formId => ?_
  refine writesLast_bind (asks_liftM _ _) fun form => ?_
  refine writesLast_bind (grid.looks_formRow request.row) fun stored => ?_
  dsimp only
  split
  · exact writesLast_bind_pure (grid.table.writesLast_storeRow form _)
      fun outcome _ => rfl
  · exact writesLast_pure rfl

theorem writesLast_deleteRow :
    WritesLast Query.Executes Envelope.Succeeds (grid.deleteRow request) := by
  refine writesLast_bind (asks_liftM _ _) fun identity => ?_
  split
  · exact writesLast_fail _
  refine writesLast_bind (grid.table.looks_fetchRow _) fun found => ?_
  cases found with
  | none => exact writesLast_fail _
  | some row =>
      dsimp only
      split
      · exact writesLast_bind_pure (grid.table.writesLast_removeRow _)
          fun _ _ => rfl
      · exact writesLast_fail _

theorem writesLast_download :
    WritesLast (fun _ => False) (Response.isFailure · = false)
      (grid.download key request) := by
  unfold download
  dsimp only
  split
  · exact writesLast_fail _
  refine writesLast_bind grid.looks_columnTypes fun types => ?_
  refine writesLast_bind (looks_downloadSelection key request)
    fun selection => ?_
  -- Whichever condition applies, the rows are fetched and written down.
  have exports (condition : Sql.Statement) :
      WritesLast (fun _ => False) (Response.isFailure · = false) (do
        let statement ← grid.table.source.pageStatement condition
          (grid.orderBy request)
        let raw ← Program.perform (.fetch statement 0 none)
        let rows ← Program.ofExcept (raw.mapM (grid.cells types))
        pure (Response.csv (grid.table.id ++ ".csv")
          (Csv.ofRows grid.table.columns rows))) := by
    refine writesLast_bind (asks_liftM _ _) fun statement => ?_
    refine writesLast_bind (asks_perform (Query.looks_fetch _ _ _))
      fun raw => ?_
    exact writesLast_bind (asks_liftM _ _) fun rows => writesLast_pure rfl
  split
  · exact writesLast_bind (asks_liftM _ _) exports
  · exact writesLast_bind (asks_pure _ _) exports

/-- Whatever a request asks for, it looks first and writes last. -/
theorem writesLast_handle (session : String) :
    WritesLast request.action.Writes (Response.isFailure · = false)
      (grid.handle session request) := by
  refine writesLast_bind (asks_liftM _ _) fun _ => ?_
  dsimp only
  cases request.action with
  | getConfig =>
      exact writesLast_bind_pure grid.writesLast_getConfig fun _ => id
  | list => exact writesLast_bind_pure (grid.writesLast_list _ _) fun _ => id
  | setSelected =>
      exact writesLast_bind_pure (grid.writesLast_setSelected _ _) fun _ => id
  | selectAll =>
      exact writesLast_bind_pure (grid.writesLast_selectAll _ _) fun _ => id
  | selectNone =>
      exact writesLast_bind_pure (grid.writesLast_selectNone _) fun _ => id
  | formShow =>
      exact writesLast_bind_pure (grid.writesLast_formShow _) fun _ => id
  | formSave =>
      exact writesLast_bind_pure (grid.writesLast_formSave _) fun _ => id
  | deleteRow =>
      exact writesLast_bind_pure (grid.writesLast_deleteRow _) fun _ => id
  | download => exact grid.writesLast_download _ _

end Grid

/-- The name of an action is read as that action and as no other. -/
theorem RequestAction.eq_name_of_ofName {name : String}
    {action : RequestAction} (known : ofName name = .ok action) :
    name = action.name := by
  unfold ofName at known
  split at known
  · rename_i found
    obtain rfl := Except.ok.inj known
    have same := List.find?_some found
    exact (beq_iff_eq.mp same).symm
  · simp at known

/-- The parameters name an action. -/
def Request.Names (parameters : Parameters) (action : RequestAction) : Prop :=
  parameters.lookup "table_sql_action" = some action.name

/-- A request asks for the action that its parameters name, of the table that
they name. -/
theorem Request.names_of_ofParameters {parameters : Parameters}
    {request : Request} (read : ofParameters parameters = .ok request) :
    Names parameters request.action ∧
      request.table = text? parameters "uniqueid" := by
  unfold ofParameters at read
  obtain ⟨action, known, read⟩ := (bind_eq_ok_iff _ _ _).mp read
  obtain ⟨filters, -, read⟩ := (bind_eq_ok_iff _ _ _).mp read
  obtain ⟨page, -, read⟩ := (bind_eq_ok_iff _ _ _).mp read
  obtain ⟨pageSize, -, read⟩ := (bind_eq_ok_iff _ _ _).mp read
  obtain rfl := Except.ok.inj read
  refine ⟨?_, rfl⟩
  have named := RequestAction.eq_name_of_ofName known
  unfold Names
  cases given : parameters.lookup "table_sql_action" with
  | none =>
      rw [given] at named
      cases action <;> exact absurd named (by decide)
  | some name =>
      rw [given] at named
      exact congrArg some named

namespace Grid

/-- A request that names another table asks nothing. -/
theorem events_eq_nil_of_otherTable {grid : Grid} {session : String}
    {request : Request} {other : String} {events : List Event}
    {outcome : Except Error Response} (named : request.table = some other)
    (different : other ≠ grid.table.id)
    (runs : Runs (grid.handle session request) events outcome) :
    events = [] := by
  have refused : grid.checkTable request =
      .error (.protocol (.otherTable other grid.table.id)) := by
    simp [checkTable, named, different]
  rw [handle, refused, runs_liftM_bind_iff] at runs
  rcases runs with ⟨error, -, none, -⟩ | ⟨_, impossible, -⟩
  · exact none
  · simp at impossible

/-- The answer to a request is what handling it gives, where a failure is
answered with its envelope. -/
theorem runs_respond_iff (grid : Grid) (session : String)
    (parameters : Parameters) (privileged : Bool) (events : List Event)
    (outcome : Except Error Response) :
    Runs (grid.respond session parameters privileged) events outcome ↔
      (∃ error, Request.ofParameters parameters = .error error ∧
        events = [] ∧
        outcome = .ok (.envelope (.ofError error privileged))) ∨
      ∃ request result, Request.ofParameters parameters = .ok request ∧
        Runs (grid.handle session request) events result ∧
        outcome = .ok (recovered
          (fun error => .envelope (.ofError error privileged)) result) := by
  rw [respond, runs_recover_done_iff]
  simp only [runs_liftM_bind_iff]
  constructor
  · rintro ⟨result, ⟨error, fails, rfl, rfl⟩ | ⟨request, read, runs⟩, rfl⟩
    · exact .inl ⟨error, fails, rfl, rfl⟩
    · exact .inr ⟨request, result, read, runs, rfl⟩
  · rintro (⟨error, fails, rfl, rfl⟩ | ⟨request, result, read, runs, rfl⟩)
    · exact ⟨_, .inl ⟨error, fails, rfl, rfl⟩, rfl⟩
    · exact ⟨result, .inr ⟨request, read, runs⟩, rfl⟩

/-- A request that fails has changed nothing, and no request changes more than
one thing.  Only two actions execute statements that write, only three store
selections, and what is meant for another table is not looked at. -/
theorem respond_writes_last (grid : Grid) (session : String)
    (parameters : Parameters) (privileged : Bool) {events : List Event}
    {outcome : Except Error Response}
    (runs : Runs (grid.respond session parameters privileged) events
      outcome) :
    ∃ response, outcome = .ok response ∧
      writeCount events ≤ 1 ∧
      (response.isFailure = true → writeCount events = 0) ∧
      (∀ event ∈ events, event.query.Executes →
        Request.Names parameters .formSave ∨
          Request.Names parameters .deleteRow) ∧
      (∀ event ∈ events, event.query.Stores →
        Request.Names parameters .setSelected ∨
          Request.Names parameters .selectAll ∨
          Request.Names parameters .selectNone) ∧
      ∀ other, Request.text? parameters "uniqueid" = some other →
        other ≠ grid.table.id → events = [] := by
  rcases (grid.runs_respond_iff _ _ _ _ _).mp runs with
    ⟨error, -, rfl, rfl⟩ | ⟨request, result, read, handles, rfl⟩
  · exact ⟨_, rfl, Nat.zero_le 1, fun _ => rfl, by simp, by simp,
      fun _ _ _ => rfl⟩
  obtain ⟨named, table_eq⟩ := Request.names_of_ofParameters read
  have writes := grid.writesLast_handle request session
  refine ⟨_, rfl, writes.atMostOnce _ _ handles, ?_, ?_, ?_, ?_⟩
  · intro failed
    cases result with
    | ok response =>
        have succeeded := writes.yields _ _ handles
        simp [recovered, succeeded] at failed
    | error error => exact writes.nothing _ _ handles
  · intro event member executes
    rcases writes.asks _ _ handles event member with looks | permitted
    · exact absurd executes looks.1
    · rcases RequestAction.saves_or_deletes permitted executes with
        saves | deletes
      · exact .inl (saves ▸ named)
      · exact .inr (deletes ▸ named)
  · intro event member stores
    rcases writes.asks _ _ handles event member with looks | permitted
    · exact absurd stores looks.2
    · rcases RequestAction.selects permitted stores with
        some | all | none
      · exact .inl (some ▸ named)
      · exact .inr (.inl (all ▸ named))
      · exact .inr (.inr (none ▸ named))
  · intro other requested different
    exact events_eq_nil_of_otherTable (table_eq.trans requested) different
      handles

/-- Saving the first person's name when the database is full: the row is
found, the change is refused, and nothing has been written. -/
theorem directory_respond_writes_last :
    let script : Script := {
      pages := [.ok [[("id", .ofInt 1), ("name", .text "Ann")]]],
      executions := [.error { kind := .query, message := "disk full" }] }
    let program := Demo.directoryGrid.respond "session"
      [("table_sql_action", "form_save"), ("uniqueid", "people"),
        ("formid", "person"), ("rowid", "1"), ("name", "Anna")] false
    let events := program.transcript Script.answer script
    Runs program events (program.run Script.answer script).1 ∧
      events.length = 2 ∧
      ∃ response, (program.run Script.answer script).1 = .ok response ∧
        response.isFailure = true ∧ writeCount events = 0 := by
  intro script program events
  have runs := runs_transcript Script.answer program script
  have failed : (program.run Script.answer script).1.toOption.any
      Response.isFailure = true := by
    decide +kernel
  obtain ⟨response, ends, -, nothing, -⟩ :=
    respond_writes_last Demo.directoryGrid "session" _ false runs
  have told : response.isFailure = true := by
    simpa [ends, Except.toOption] using failed
  exact ⟨runs, by decide +kernel, response, ends, told, nothing told⟩

end Grid

end DataGrid
