import DataGrid.Engine.Script
import DataGrid.Proofs.Column.Inference
import DataGrid.Proofs.Dispatch.Restriction
import DataGrid.Proofs.Filter.Styles
import DataGrid.Proofs.Selection.Sets
import Mathlib.Data.Finset.Sort

/-!
# Downloads of a selection

A download asks for the selection before it looks at the filters.  When rows are
selected, the filters and the search do not come in: not even one that cannot be
compiled makes a difference.  When none are, the download is that of the
filtered view.
-/

namespace DataGrid

open Program

namespace Selection

variable {selection : Selection} {set : Finset String}

/-- The ids of a selection are those of its set in their order. -/
theorem Represents.ids_eq_sort (represents : selection.Represents set) :
    selection.ids = set.sort (· ≤ ·) :=
  represents.sorted.sortedLT.eq_of_mem_iff set.sortedLT_sort fun id => by
    rw [represents.mem_iff, Finset.mem_sort]

theorem Represents.ids_ne_nil (represents : selection.Represents set)
    (nonempty : set.Nonempty) : selection.ids ≠ [] := by
  obtain ⟨id, member⟩ := nonempty
  exact List.ne_nil_of_mem ((represents.mem_iff id).mpr member)

end Selection

namespace Filter

/-- The condition that an expression is one of a number of values. -/
def membership (style : Sql.Style) (expression : String) (count : Nat) :
    String :=
  expression ++ " IN (" ++ Text.join ", " ((List.range count).map
    (Sql.placeholder style idStem)) ++ ")"

/-- A selection is compiled to the membership of the id in it. -/
theorem compileSelection_eq (context : Context) {ids : List String}
    (selected : ids ≠ []) :
    compileSelection context ids = {
      sql := membership context.style (idExpression context) ids.length
      params := .number context.style idStem (ids.map .ofRowId) } := by
  obtain ⟨first, rest, rfl⟩ := List.exists_cons_of_ne_nil selected
  rw [compileSelection_eq_statement, Sql.Fragment.statement,
    Sql.Fragment.params, values_selectionCondition]
  congr 1
  rw [selectionCondition, Sql.Fragment.write_between,
    Sql.Fragment.write_values]
  · rfl
  · simp

end Filter

namespace Grid

variable (grid : Grid) (key : SelectionKey) (request : Request)

/-- The download of the rows that satisfy the filters and the search. -/
def filterView : Program Response := do
  let types ← grid.columnTypes
  let condition ← grid.condition types request
  grid.fetched types request condition

/-- The expression that row ids are compared with. -/
def idExpression : String :=
  match grid.table.columns.get? "id" with
  | some column => grid.table.source.resolve column
  | none => grid.table.source.resolveKey "id"

/-- How a download goes on with the selection that it was told, if any. -/
def answered (types : ColumnTypes) :
    Except EngineFailure Selection → Program Response
  | .error failure => Program.fail (.engine failure)
  | .ok selection =>
      if selection.isEmpty then do
        grid.fetched types request (← grid.condition types request)
      else
        grid.fetched types request
          (Filter.compileSelection (grid.context types) selection.ids)

variable {grid key request} {types : ColumnTypes} {events : List Event}
  {outcome : Except Error Response}

theorem download_of_unselected
    (enabled : grid.table.flags.downloadable = true)
    (unselected : request.downloadSelected = false) :
    grid.download key request = grid.filterView request := by
  simp only [download, downloadSelection, enabled, unselected]
  rfl

theorem download_of_selected
    (enabled : grid.table.flags.downloadable = true)
    (selected : request.downloadSelected = true) :
    grid.download key request = (grid.columnTypes >>= fun types =>
      .ask (.loadSelection key) (grid.answered request types)) := by
  simp only [download, downloadSelection, enabled, selected]
  refine congrArg (grid.columnTypes >>= ·) (funext fun types => ?_)
  refine congrArg (Program.ask _) (funext fun answer => ?_)
  cases answer with
  | error failure => rfl
  | ok selection => rfl

theorem neverFails_columnTypes : NeverFails grid.columnTypes :=
  Columns.neverFails_typesFrom _ _ _

/-- A download of the selection finds the types, loads the selection, and goes
on with it. -/
theorem runs_download_iff (enabled : grid.table.flags.downloadable = true)
    (selected : request.downloadSelected = true) :
    Runs (grid.download key request) events outcome ↔
      ∃ types typing answer rest,
        events = typing ++ ⟨.loadSelection key, answer⟩ :: rest ∧
        Runs grid.columnTypes typing (.ok types) ∧
        Runs (grid.answered request types answer) rest outcome := by
  rw [download_of_selected enabled selected,
    neverFails_columnTypes.runs_bind_iff]
  simp only [runs_ask_iff]
  constructor
  · rintro ⟨types, typing, _, rfl, typed, answer, rest, rfl, continues⟩
    exact ⟨types, typing, answer, rest, rfl, typed, continues⟩
  · rintro ⟨types, typing, answer, rest, rfl, typed, continues⟩
    exact ⟨types, typing, _, rfl, typed, answer, rest, rfl, continues⟩

theorem runs_filterView_iff :
    Runs (grid.filterView request) events outcome ↔
      ∃ types typing rest, events = typing ++ rest ∧
        Runs grid.columnTypes typing (.ok types) ∧
        Runs (liftM (grid.condition types request) >>=
          grid.fetched types request) rest outcome :=
  neverFails_columnTypes.runs_bind_iff _ _ _

theorem asks_fetched {permitted : Query → Prop}
    (fetches : ∀ statement offset limit,
      permitted (.fetch statement offset limit))
    (condition : Sql.Statement) :
    Asks permitted (grid.fetched types request condition) :=
  asks_bind (asks_liftM _ _) fun _ =>
    asks_bind (asks_perform (fetches _ _ _)) fun _ =>
      asks_bind (asks_liftM _ _) fun _ => asks_pure _ _

theorem asks_answered {permitted : Query → Prop}
    (fetches : ∀ statement offset limit,
      permitted (.fetch statement offset limit))
    (answer : Except EngineFailure Selection) :
    Asks permitted (grid.answered request types answer) := by
  unfold answered
  split
  · exact asks_fail _ _
  · split
    · exact asks_bind (asks_liftM _ _) (asks_fetched fetches)
    · exact asks_fetched fetches _

/-- The selection is loaded once, between the types and the rows. -/
theorem eq_of_loaded {typing before rest after : List Event}
    {answer other : Except EngineFailure Selection}
    (typed : Runs grid.columnTypes typing (.ok types))
    (continues : Runs (grid.answered request types answer) rest outcome)
    (split : typing ++ ⟨.loadSelection key, answer⟩ :: rest =
      before ++ ⟨.loadSelection key, other⟩ :: after) :
    before = typing ∧ answer = other ∧ rest = after := by
  have typesFirst : Asks (· ≠ .loadSelection key) grid.columnTypes :=
    Columns.asks_typesFrom (fun _ => nofun) _ _ _
  have rowsLast : Asks (· ≠ .loadSelection key)
      (grid.answered request types answer) :=
    asks_answered (fun _ _ _ => nofun) answer
  obtain ⟨between, rfl, behind⟩ := Event.split_behind split fun early =>
    typesFirst _ _ typed _ early rfl
  cases between with
  | nil =>
      obtain ⟨⟨⟩, rfl⟩ := List.cons.inj behind
      exact ⟨List.append_nil typing, rfl, rfl⟩
  | cons first between =>
      obtain ⟨-, rfl⟩ := List.cons.inj behind
      exact absurd rfl (rowsLast _ _ continues ⟨.loadSelection key, other⟩
        (List.mem_append_right between List.mem_cons_self))

/-- What follows a selection that is not empty does not depend on the filters
and the search. -/
theorem answered_congr {other : Request}
    {answer : Except EngineFailure Selection}
    (order_eq : grid.orderBy other = grid.orderBy request)
    (nonempty : ∀ selection : Selection, answer = .ok selection →
      selection.isEmpty = false) :
    grid.answered other types answer =
      grid.answered request types answer := by
  cases answer with
  | error failure => rfl
  | ok selection =>
      have nonempty := nonempty selection rfl
      simp only [answered, nonempty, Bool.false_eq_true, if_false, fetched,
        order_eq]

/-- The rows are asked for once, by the ids in a set: the id is to be one of as
many values as there are ids, and the ids are bound behind the values of the
source, each of them once and in their order. -/
def AsksByIds (grid : Grid) (request : Request) (set : Finset String)
    (events : List Event) : Prop :=
  let style := grid.table.source.style
  ∃ params : Sql.Params,
    asked events = [.fetch {
      sql := grid.table.source.rowsText
        (Filter.membership style grid.idExpression set.card)
        (grid.orderBy request)
      params } 0 none] ∧
    params.entries = grid.table.source.params.entries ++
      (Sql.Params.number style Filter.idStem
        ((set.sort (· ≤ ·)).map .ofRowId)).entries

variable {selection : Selection}

theorem asksByIds_of_runs_answered {set : Finset String}
    (represents : selection.Represents set) (nonempty : set.Nonempty)
    (runs : Runs (grid.answered request types (.ok selection)) events
      outcome) : grid.AsksByIds request set events := by
  have ids_ne_nil := represents.ids_ne_nil nonempty
  have unempty : selection.isEmpty = false :=
    List.isEmpty_eq_false_iff.mpr ids_ne_nil
  have compiled : Filter.compileSelection (grid.context types) selection.ids =
      { sql := Filter.membership grid.table.source.style grid.idExpression
          set.card
        params := .number grid.table.source.style Filter.idStem
          ((set.sort (· ≤ ·)).map .ofRowId) } := by
    rw [Filter.compileSelection_eq _ ids_ne_nil, represents.ids_eq_sort,
      Finset.length_sort]
    rfl
  simp only [answered, unempty, Bool.false_eq_true, if_false,
    compiled] at runs
  have fits : ∃ params, grid.table.source.params.append
      (.number grid.table.source.style Filter.idStem
        ((set.sort (· ≤ ·)).map .ofRowId)) = .ok params := by
    rw [Sql.Params.number_eq_withNames]
    exact Sql.Params.exists_append_withNames _ _ _
  obtain ⟨params, bound⟩ := fits
  have asks := asked_fetched bound runs
  rw [rows] at asks
  exact ⟨params, asks, Sql.Params.entries_append bound⟩

section Downloads

variable (enabled : grid.table.flags.downloadable = true)
  (selected : request.downloadSelected = true)

include enabled selected

/-- As long as something is selected, the filters and the search of a request
may be any others. -/
theorem runs_download_congr {other : Request}
    (otherSelected : other.downloadSelected = true)
    (order_eq : grid.orderBy other = grid.orderBy request)
    (nonempty : ∀ selection : Selection,
      ⟨.loadSelection key, .ok selection⟩ ∈ events →
        selection.isEmpty = false) :
    Runs (grid.download key other) events outcome ↔
      Runs (grid.download key request) events outcome := by
  rw [runs_download_iff enabled otherSelected,
    runs_download_iff enabled selected]
  refine exists_congr fun types => exists_congr fun typing =>
    exists_congr fun answer => exists_congr fun rest =>
    and_congr_right fun split => and_congr_right fun _ => ?_
  rw [answered_congr order_eq fun selection same => ?_]
  exact nonempty selection (by simp [split, same])

theorem asksByIds_of_runs_download {set : Finset String}
    (represents : selection.Represents set) (nonempty : set.Nonempty)
    (loaded : ⟨.loadSelection key, .ok selection⟩ ∈ events)
    (runs : Runs (grid.download key request) events outcome) :
    grid.AsksByIds request set events := by
  obtain ⟨before, after, split⟩ := List.append_of_mem loaded
  obtain ⟨types, typing, answer, rest, rfl, typed, continues⟩ :=
    (runs_download_iff enabled selected).mp runs
  obtain ⟨-, rfl, -⟩ := eq_of_loaded typed continues split
  have unasked : asked typing = [] :=
    asked_eq_nil (Columns.asks_typesFrom (fun _ => rfl) _ _ _) typed
  rw [AsksByIds, asked_append, unasked, List.nil_append, asked_cons]
  exact asksByIds_of_runs_answered represents nonempty continues

/-- Behind an empty selection a download is the filtered view. -/
theorem exists_runs_download_iff (empty : selection.isEmpty = true) :
    (∃ before after, events = before ++ after ∧
        Runs (grid.download key request)
          (before ++ ⟨.loadSelection key, .ok selection⟩ :: after) outcome) ↔
      Runs (grid.filterView request) events outcome := by
  rw [runs_filterView_iff]
  constructor
  · rintro ⟨before, after, rfl, runs⟩
    obtain ⟨types, typing, answer, rest, split, typed, continues⟩ :=
      (runs_download_iff enabled selected).mp runs
    obtain ⟨rfl, rfl, rfl⟩ := eq_of_loaded typed continues split.symm
    rw [answered, if_pos empty] at continues
    exact ⟨types, before, rest, rfl, typed, continues⟩
  · rintro ⟨types, typing, rest, rfl, typed, continues⟩
    refine ⟨typing, rest, rfl, (runs_download_iff enabled selected).mpr ?_⟩
    refine ⟨types, typing, .ok selection, rest, rfl, typed, ?_⟩
    rw [answered, if_pos empty]
    exact continues

end Downloads

/-- When downloads are enabled, a download of the selection depends on what is
selected.  As long as something is, two requests with one order have the same
runs, whatever their filters and searches, and the rows are asked for by the
selected ids.  When nothing is selected, the download is that of the filtered
view with one question more, for the selection; a download that does not ask for
the selection is that of the filtered view. -/
theorem download_prefers_selection (grid : Grid) (key : SelectionKey)
    (request : Request)
    (enabled : grid.table.flags.downloadable = true) :
    (request.downloadSelected = true →
      (∀ other : Request, other.downloadSelected = true →
        other.sortColumn = request.sortColumn →
        other.sortDirection = request.sortDirection →
        ∀ events outcome,
          (∀ selection : Selection,
            ⟨.loadSelection key, .ok selection⟩ ∈ events →
              selection.isEmpty = false) →
          (Runs (grid.download key other) events outcome ↔
            Runs (grid.download key request) events outcome)) ∧
      (∀ (selection : Selection) (set : Finset String),
        selection.Represents set → set.Nonempty →
        ∀ events outcome,
          ⟨.loadSelection key, .ok selection⟩ ∈ events →
          Runs (grid.download key request) events outcome →
          grid.AsksByIds request set events) ∧
      ∀ selection : Selection, selection.isEmpty = true →
        ∀ events outcome,
          (∃ before after, events = before ++ after ∧
            Runs (grid.download key request)
              (before ++ ⟨.loadSelection key, .ok selection⟩ :: after)
              outcome) ↔
          Runs (grid.filterView request) events outcome) ∧
    (request.downloadSelected = false →
      grid.download key request = grid.filterView request) := by
  refine ⟨fun selected => ⟨?_, ?_, ?_⟩, download_of_unselected enabled⟩
  · intro other otherSelected column direction events outcome nonempty
    have order_eq : grid.orderBy other = grid.orderBy request := by
      rw [orderBy, orderBy, column, direction]
    exact runs_download_congr enabled selected otherSelected order_eq nonempty
  · intro selection set represents nonempty events outcome loaded runs
    exact asksByIds_of_runs_download enabled selected represents nonempty
      loaded runs
  · intro selection empty events outcome
    exact exists_runs_download_iff enabled selected empty

end Grid

namespace Demo

/-- The selection of the first two people. -/
def pair : Selection where
  ids := ["1", "2"]

def pairScript : Script where
  selections := [(exportedGrid.selectionKey "session", pair)]

/-- A request with a filter that nobody knows. -/
def unknownRequest : Request :=
  { exportRequest with
    filters := [
      { column := "name", function := some "resembles",
        value := .scalar "bob" }]
    search := "" }

theorem represents_pair : pair.Represents {"1", "2"} where
  sorted := by decide
  mem_iff := by simp [pair]

end Demo

namespace Grid

/-- Two selected people are downloaded with a filter that nobody knows as they
are without it.  When nobody is selected, the filters count. -/
theorem pair_download_prefers_selection :
    let grid := Demo.exportedGrid
    let key := grid.selectionKey "session"
    let program := grid.download key Demo.exportRequest
    let events := program.transcript Script.answer Demo.pairScript
    let plain := { Demo.exportRequest with downloadSelected := false }
    grid.table.flags.downloadable = true ∧
      (grid.condition Demo.exportedTypes Demo.unknownRequest).isOk = false ∧
      Runs (grid.download key Demo.unknownRequest) events
        (program.run Script.answer Demo.pairScript).1 ∧
      (∃ params : Sql.Params,
        asked events = [.fetch {
          sql := "SELECT id, name FROM people WHERE (age > ?) AND " ++
            "people.id IN (?, ?) ORDER BY people.id ASC"
          params } 0 none] ∧
        params.entries = [(none, .integer 17), (none, .integer 1),
          (none, .integer 2)]) ∧
      Runs (grid.filterView Demo.exportRequest)
        (program.transcript Script.answer {}).tail
        (program.run Script.answer {}).1 ∧
      grid.download key plain = grid.filterView plain := by
  intro grid key program events plain
  have refused : (grid.condition Demo.exportedTypes
      Demo.unknownRequest).isOk = false := by
    decide +kernel
  have runs := runs_transcript Script.answer program Demo.pairScript
  have events_eq : ∃ statement, events =
      [⟨.loadSelection key, .ok Demo.pair⟩,
        ⟨.fetch statement 0 none, .ok []⟩] :=
    ⟨_, rfl⟩
  obtain ⟨statement, events_eq⟩ := events_eq
  have unfiltered : ∃ rest, program.transcript Script.answer {} =
      ⟨.loadSelection key, .ok {}⟩ :: rest :=
    ⟨_, rfl⟩
  obtain ⟨rest, unfiltered⟩ := unfiltered
  obtain ⟨ignores, byIds, falls⟩ :=
    (download_prefers_selection grid key Demo.exportRequest rfl).1 rfl
  refine ⟨rfl, refused, ?_, ?_, ?_,
    (download_prefers_selection grid key plain rfl).2 rfl⟩
  · refine (ignores Demo.unknownRequest rfl rfl rfl events _ ?_).mpr runs
    intro selection loaded
    rw [events_eq] at loaded
    obtain rfl : selection = Demo.pair := by simpa using loaded
    rfl
  · have loaded : ⟨.loadSelection key, .ok Demo.pair⟩ ∈ events := by
      rw [events_eq]
      exact List.mem_cons_self
    obtain ⟨params, asks, entries⟩ := byIds Demo.pair _ Demo.represents_pair
      (Finset.insert_nonempty _ _) events _ loaded runs
    have text : grid.table.source.rowsText
        (Filter.membership grid.table.source.style grid.idExpression
          ({"1", "2"} : Finset String).card)
        (grid.orderBy Demo.exportRequest) =
        "SELECT id, name FROM people WHERE (age > ?) AND " ++
          "people.id IN (?, ?) ORDER BY people.id ASC" := by
      decide +kernel
    rw [text] at asks
    refine ⟨params, asks, entries.trans ?_⟩
    rw [← Demo.represents_pair.ids_eq_sort]
    decide +kernel
  · rw [unfiltered]
    have ends := runs_transcript Script.answer program {}
    rw [unfiltered] at ends
    exact (falls {} rfl rest _).mp ⟨[], rest, rfl, ends⟩

end Grid

end DataGrid
