import DataGrid.Dispatch
import DataGrid.Proofs.Dispatch.Writes
import DataGrid.Proofs.Filter.Compile
import DataGrid.Proofs.Source.Statements

/-!
# One restriction for all views

Listing a page, selecting all rows and downloading them are written as programs
of their own.  For the same types of the columns they compile the same
condition, so that the rows that are counted, shown, selected and downloaded are
those of one restriction, with the same values bound in it.
-/

namespace DataGrid

open Program

namespace Query

def hasStatement : Query → Bool
  | count _ | fetch _ _ _ | execute _ => true
  | declarations _ | loadSelection _ | storeSelection _ _ => false

end Query

/-- The questions with statements in them, in their order. -/
def asked (events : List Event) : List Query :=
  (events.map Event.query).filter Query.hasStatement

/-- The event does not load a selection, or it loads an empty one. -/
def Event.unselected : Event → Bool
  | ⟨.loadSelection _, .ok selection⟩ => selection.isEmpty
  | ⟨.loadSelection _, .error _⟩ => false
  | _ => true

theorem asked_eq_nil {α : Type} {program : Program α}
    (asks : Asks (fun query => query.hasStatement = false) program)
    {events : List Event} {outcome : Except Error α}
    (runs : Runs program events outcome) : asked events = [] := by
  refine List.filter_eq_nil_iff.mpr fun query member => ?_
  obtain ⟨event, among, rfl⟩ := List.mem_map.mp member
  simp [asks events outcome runs event among]

theorem asked_cons (event : Event) (rest : List Event) :
    asked (event :: rest) =
      if event.query.hasStatement then event.query :: asked rest
      else asked rest := by
  rw [asked, List.map_cons, List.filter_cons]
  rfl

theorem asked_append (first rest : List Event) :
    asked (first ++ rest) = asked first ++ asked rest := by
  simp [asked]

namespace Grid

variable {α : Type}

/-- A run of a program in which the columns have been found to have some types.
Its events are those behind the questions for the types. -/
def RunsTyped (grid : Grid) (types : ColumnTypes) (program : Program α)
    (events : List Event) (outcome : Except Error α) : Prop :=
  ∃ typing, Runs grid.columnTypes typing (.ok types) ∧
    Runs program (typing ++ events) outcome

variable {grid : Grid} {types : ColumnTypes} {events : List Event}

theorem RunsTyped.rest {next : ColumnTypes → Program α}
    {outcome : Except Error α}
    (runs : grid.RunsTyped types (grid.columnTypes >>= next) events outcome) :
    Runs (next types) events outcome := by
  obtain ⟨typing, typed, runs⟩ := runs
  -- The questions for the types and their answers are settled, so the program
  -- cannot have taken another way through them.
  rcases (runs_bind_iff _ _ _ _).mp runs with
    ⟨error, fails, -⟩ | ⟨found, first, rest, split, succeeds, continues⟩
  · have same := (typed.deterministic fails (List.append_nil _).symm).1
    cases same
  · obtain ⟨same, rfl⟩ := succeeds.deterministic typed split.symm
    obtain rfl := Except.ok.inj same
    exact continues

/-- The values of a condition can be bound behind those of the source. -/
theorem exists_append_condition {request : Request} {condition : Sql.Statement}
    (compiled : grid.condition types request = .ok condition) :
    ∃ params, grid.table.source.params.append condition.params =
      .ok params := by
  rw [Grid.condition, Filter.compile_eq] at compiled
  obtain ⟨column, -, compiled⟩ := (bind_eq_ok_iff _ _ _).mp compiled
  obtain ⟨found, -, compiled⟩ := (bind_eq_ok_iff _ _ _).mp compiled
  obtain rfl := Except.ok.inj compiled
  exact Sql.Params.exists_append_withNames _ _ _

/-- Every run of a program behind the types ends as wanted. -/
def Ends (grid : Grid) (types : ColumnTypes) (program : Program α)
    (wanted : List Event → Except Error α → Prop) : Prop :=
  ∀ events outcome, grid.RunsTyped types program events outcome →
    wanted events outcome

def FailsWith (error : Error) (events : List Event)
    (outcome : Except Error α) : Prop :=
  asked events = [] ∧ outcome = .error error

def page (grid : Grid) (request : Request) : Except Error Page :=
  Page.of request.page
    (if 0 < request.pageSize then request.pageSize else grid.table.pageSize)

variable {key : SelectionKey} {request : Request}

/-- A view whose condition cannot be compiled asks no statement. -/
theorem ends_of_condition_error {error : Error}
    {next : ColumnTypes → Sql.Statement → Program α}
    (fails : grid.condition types request = .error error) :
    grid.Ends types
      (grid.columnTypes >>= fun types =>
        liftM (grid.condition types request) >>= next types)
      (FailsWith error) := by
  intro events outcome runs
  obtain ⟨rfl, rfl⟩ := runs.rest.of_liftM_error fails
  exact ⟨rfl, rfl⟩

variable {condition : Sql.Statement} {params : Sql.Params}

/-- The statement of a view's rows in an order, if there is one. -/
def rows (grid : Grid) (condition : Sql.Statement) (params : Sql.Params)
    (orderBy : String) : Sql.Statement where
  sql := grid.table.source.rowsText condition.sql orderBy
  params := params

theorem asks_modify (change : Selection → Selection) :
    Asks (fun query => query.hasStatement = false)
      (Selection.modify key change) :=
  asks_bind (asks_perform rfl) fun _ =>
    asks_bind (asks_perform rfl) fun _ => asks_pure _ _

theorem ends_selectAll
    (compiled : grid.condition types request = .ok condition)
    (bound : grid.table.source.params.append condition.params = .ok params) :
    grid.Ends types (grid.selectAll key request) fun events _ =>
      asked events = [.fetch (grid.rows condition params "") 0 none] := by
  intro events outcome runs
  have runs := (runs.rest.of_liftM_ok compiled).of_liftM_ok
    (Source.pageStatement_eq bound "")
  rcases (runs_perform_bind_iff _ _ _ _).mp runs with
    ⟨failure, rfl, -⟩ | ⟨found, rest, rfl, continues⟩
  · rfl
  · have nothing : asked rest = [] :=
      asked_eq_nil (asks_bind (asks_modify _) fun _ => asks_pure _ _) continues
    rw [asked_cons, nothing]
    rfl

/-- A page is counted, and fetched in its order when it could be counted. -/
theorem ends_list
    (compiled : grid.condition types request = .ok condition)
    (bound : grid.table.source.params.append condition.params = .ok params) :
    grid.Ends types (grid.list key request) fun events outcome =>
      let count : Query := .count {
        sql := grid.table.source.countText condition.sql
        params }
      (∃ error, grid.page request = .error error ∧
        FailsWith error events outcome) ∨
      (∃ failure, asked events = [count] ∧
        outcome = .error (.engine failure)) ∨
      ∃ page, grid.page request = .ok page ∧
        asked events = [count, .fetch
          (grid.rows condition params (grid.orderBy request)) page.offset
          (some page.limit)] := by
  intro events outcome runs count
  have runs := runs.rest.of_liftM_ok compiled
  cases paged : grid.page request with
  | error error =>
      obtain ⟨rfl, rfl⟩ := runs.of_liftM_error paged
      exact .inl ⟨error, rfl, rfl, rfl⟩
  | ok page =>
      have runs := (runs.of_liftM_ok paged).of_liftM_ok
        (Source.countStatement_eq bound)
      rcases (runs_perform_bind_iff _ _ _ _).mp runs with
        ⟨failure, rfl, rfl⟩ | ⟨total, rest, rfl, continues⟩
      · exact .inr (.inl ⟨failure, rfl, rfl⟩)
      have continues := continues.of_liftM_ok
        (Source.pageStatement_eq bound (grid.orderBy request))
      rcases (runs_perform_bind_iff _ _ _ _).mp continues with
        ⟨failure, rfl, -⟩ | ⟨raw, rest, rfl, ends⟩
      · exact .inr (.inr ⟨page, rfl, rfl⟩)
      have nothing : asked rest = [] :=
        asked_eq_nil (asks_bind (asks_perform rfl) fun _ =>
          asks_bind (asks_liftM _ _) fun _ => asks_pure _ _) ends
      refine .inr (.inr ⟨page, rfl, ?_⟩)
      rw [asked_cons, asked_cons, nothing]
      rfl

def Unselected (events : List Event) : Prop :=
  ∀ event ∈ events, event.unselected = true

theorem runs_downloadSelection {outcome : Except Error Selection}
    (unselected : Unselected events)
    (runs : Runs (downloadSelection key request) events outcome) :
    asked events = [] ∧
      ∃ selection : Selection, outcome = .ok selection ∧
        selection.isEmpty = true := by
  unfold downloadSelection at runs
  split at runs
  · obtain ⟨answer, rfl, rfl⟩ := (runs_perform_iff _ _ _).mp runs
    have empty := unselected _ List.mem_cons_self
    cases answer with
    | error failure => cases empty
    | ok selection => exact ⟨rfl, selection, rfl, empty⟩
  · obtain ⟨rfl, rfl⟩ := (runs_pure_iff _ _ _).mp runs
    exact ⟨rfl, {}, rfl, rfl⟩

/-- The rows that a condition leaves, in the order of a request, as a file. -/
def fetched (grid : Grid) (types : ColumnTypes) (request : Request)
    (condition : Sql.Statement) : Program Response := do
  let statement ← grid.table.source.pageStatement condition
    (grid.orderBy request)
  let raw ← Program.perform (.fetch statement 0 none)
  let rows ← Program.ofExcept (raw.mapM (grid.cells types))
  pure (.csv (grid.table.id ++ ".csv") (Csv.ofRows grid.table.columns rows))

theorem asked_fetched {outcome : Except Error Response}
    (bound : grid.table.source.params.append condition.params = .ok params)
    (runs : Runs (grid.fetched types request condition) events outcome) :
    asked events = [.fetch
      (grid.rows condition params (grid.orderBy request)) 0 none] := by
  have runs := runs.of_liftM_ok
    (Source.pageStatement_eq bound (grid.orderBy request))
  rcases (runs_perform_bind_iff _ _ _ _).mp runs with
    ⟨failure, rfl, -⟩ | ⟨raw, rest, rfl, ends⟩
  · rfl
  · have nothing : asked rest = [] :=
      asked_eq_nil (asks_bind (asks_liftM _ _) fun _ => asks_pure _ _) ends
    rw [asked_cons, nothing]
    rfl

/-- A download without a selection goes on with the condition. -/
theorem RunsTyped.download_rest {outcome : Except Error Response}
    (enabled : grid.table.flags.downloadable = true)
    (unselected : Unselected events)
    (runs : grid.RunsTyped types (grid.download key request) events outcome) :
    ∃ first rest, events = first ++ rest ∧ asked first = [] ∧
      Runs (liftM (grid.condition types request) >>=
        grid.fetched types request) rest outcome := by
  unfold download at runs
  simp only [enabled, Bool.not_true, Bool.false_eq_true, if_false] at runs
  rcases (runs_bind_iff _ _ _ _).mp runs.rest with
    ⟨error, fails, rfl⟩ | ⟨selection, first, rest, rfl, selects, continues⟩
  · obtain ⟨-, _, impossible, -⟩ := runs_downloadSelection unselected fails
    cases impossible
  · have unselected : Unselected first := fun event member =>
      unselected event (List.mem_append_left rest member)
    obtain ⟨nothing, _, same, empty⟩ :=
      runs_downloadSelection unselected selects
    obtain rfl := Except.ok.inj same
    rw [if_pos empty] at continues
    exact ⟨first, rest, rfl, nothing, continues⟩

theorem ends_download_of_error {error : Error}
    (enabled : grid.table.flags.downloadable = true)
    (fails : grid.condition types request = .error error) :
    grid.Ends types (grid.download key request) fun events outcome =>
      Unselected events → FailsWith error events outcome := by
  intro events outcome runs unselected
  obtain ⟨first, rest, rfl, nothing, continues⟩ :=
    runs.download_rest enabled unselected
  obtain ⟨rfl, rfl⟩ := continues.of_liftM_error fails
  exact ⟨by rw [List.append_nil, nothing], rfl⟩

/-- A download without a selection asks for the rows of the page's
statement. -/
theorem ends_download (enabled : grid.table.flags.downloadable = true)
    (compiled : grid.condition types request = .ok condition)
    (bound : grid.table.source.params.append condition.params = .ok params) :
    grid.Ends types (grid.download key request) fun events _ =>
      Unselected events →
        asked events = [.fetch
          (grid.rows condition params (grid.orderBy request)) 0 none] := by
  intro events outcome runs unselected
  obtain ⟨first, rest, rfl, nothing, continues⟩ :=
    runs.download_rest enabled unselected
  rw [asked_append, nothing, List.nil_append]
  exact asked_fetched bound (continues.of_liftM_ok compiled)

/-- The views of a request share one restriction.  When its condition cannot be
compiled, all of them fail with the same error and ask no statement.  Otherwise
there is one text and one list of values, those of the source in front of those
of the condition, such that the rows that are counted, listed, selected and
downloaded without a selection are those of statements that differ only in what
is selected in front of the text and in the order behind it. -/
theorem views_share_restriction (grid : Grid) (key : SelectionKey)
    (types : ColumnTypes) (request : Request) :
    (∃ error, grid.condition types request = .error error ∧
      grid.Ends types (grid.list key request) (FailsWith error) ∧
      grid.Ends types (grid.selectAll key request) (FailsWith error) ∧
      (grid.table.flags.downloadable = true →
        grid.Ends types (grid.download key request) fun events outcome =>
          Unselected events → FailsWith error events outcome)) ∨
    ∃ condition text params,
      grid.condition types request = .ok condition ∧
      text = grid.table.source.restricted condition.sql ∧
      params.entries =
        grid.table.source.params.entries ++ condition.params.entries ∧
      let order := grid.orderBy request
      let count : Query := .count { sql := "SELECT COUNT(1)" ++ text, params }
      let rows : Sql.Statement := {
        sql := "SELECT " ++ grid.table.source.selected ++ text
        params }
      let ordered : Sql.Statement := {
        sql := rows.sql ++ (if order.isEmpty then "" else " " ++ order)
        params }
      grid.Ends types (grid.list key request) (fun events outcome =>
        (∃ error, grid.page request = .error error ∧
          FailsWith error events outcome) ∨
        (∃ failure, asked events = [count] ∧
          outcome = .error (.engine failure)) ∨
        ∃ page, grid.page request = .ok page ∧
          asked events =
            [count, .fetch ordered page.offset (some page.limit)]) ∧
      grid.Ends types (grid.selectAll key request) (fun events _ =>
        asked events = [.fetch rows 0 none]) ∧
      (grid.table.flags.downloadable = true →
        grid.Ends types (grid.download key request) fun events _ =>
          Unselected events → asked events = [.fetch ordered 0 none]) := by
  cases compiled : grid.condition types request with
  | error error =>
      exact .inl ⟨error, rfl, ends_of_condition_error compiled,
        ends_of_condition_error compiled,
        fun enabled => ends_download_of_error enabled compiled⟩
  | ok condition =>
      obtain ⟨params, bound⟩ := exists_append_condition compiled
      refine .inr ⟨condition, _, params, rfl, rfl,
        Sql.Params.entries_append bound, ends_list compiled bound, ?_,
        fun enabled => ends_download enabled compiled bound⟩
      have unordered : grid.Ends types (grid.selectAll key request) _ :=
        ends_selectAll compiled bound
      simpa [rows, Source.rowsText] using unordered

end Grid

namespace Demo

/-- A table of grown-up people that can be downloaded. -/
def exportedGrid : Grid :=
  { directoryGrid with
    table := { directory with
      source := .ofClauses "id, name" "people" "age > ?"
        (.positional [.integer 17])
      columns := [{ key := "id", header := "id", dataType := some .number },
        { key := "name", header := "name", dataType := some .text }]
      flags := { downloadable := true, sortable := true } } }

def exportedTypes : ColumnTypes :=
  [("id", .number), ("name", .text)]

/-- A request for the selected people, or for those with a name. -/
def exportRequest : Request :=
  { saveRequest "1" with
    action := .download
    search := "ann"
    downloadSelected := true }

end Demo

namespace Grid

/-- When nobody is selected, the people with a name are asked for once. -/
theorem people_download_asks :
    let grid := Demo.exportedGrid
    let program := grid.download (grid.selectionKey "session")
      Demo.exportRequest
    let events := program.transcript Script.answer {}
    grid.table.flags.downloadable = true ∧
      grid.RunsTyped Demo.exportedTypes program events
        (program.run Script.answer {}).1 ∧
      Unselected events ∧
      ∃ text params,
        asked events = [.fetch {
          sql := "SELECT id, name" ++ text ++ " ORDER BY people.id ASC"
          params } 0 none] := by
  intro grid program events
  have typed : Runs grid.columnTypes [] (.ok Demo.exportedTypes) := .done _
  have runs : grid.RunsTyped Demo.exportedTypes program events _ :=
    ⟨[], typed, runs_transcript Script.answer program {}⟩
  have unselected : Unselected events := by
    unfold Unselected
    decide +kernel
  have order_eq : (if (grid.orderBy Demo.exportRequest).isEmpty then ""
      else " " ++ grid.orderBy Demo.exportRequest) =
        " ORDER BY people.id ASC" := by
    decide +kernel
  have selected_eq : grid.table.source.selected = "id, name" := by
    decide +kernel
  have compiles : (grid.condition Demo.exportedTypes
      Demo.exportRequest).isOk = true := by
    decide +kernel
  refine ⟨rfl, runs, unselected, ?_⟩
  rcases views_share_restriction grid (grid.selectionKey "session")
      Demo.exportedTypes Demo.exportRequest with
    ⟨error, fails, -⟩ | ⟨condition, text, params, -, -, -, -, -, download⟩
  · rw [fails] at compiles
    cases compiles
  · have asks := download rfl events _ runs unselected
    rw [order_eq, selected_eq] at asks
    exact ⟨text, params, asks⟩

end Grid

end DataGrid
