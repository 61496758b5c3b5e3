import DataGrid.Proofs.Dispatch.Writes
import DataGrid.Proofs.Engine.Handler
import DataGrid.Proofs.Row.Cells
import DataGrid.Proofs.Selection.Sets
import Mathlib.Data.Finset.Card

/-!
# Selecting all rows of a view

A view is what a table shows under some filters and a search.  Selecting all of
its rows takes their ids from the rows themselves; listing the view takes them
from the cells that are shown and counts the rows in the database.  The two
agree.
-/

namespace DataGrid

open Program

/-- A set has as many elements as there are selected rows. -/
theorem Selection.Represents.count_eq {selection : Selection}
    {set : Finset String} (represents : selection.Represents set) :
    selection.count = set.card := by
  have nodup : selection.ids.Nodup :=
    represents.sorted.imp fun less => ne_of_lt less
  have same : selection.ids.toFinset = set := by
    ext id
    rw [List.mem_toFinset, represents.mem_iff]
  rw [← same, List.toFinset_card_of_nodup nodup]
  rfl

/-- The ids of some rows as a set. -/
def Row.idSet (rows : List Row) : Finset String :=
  (rows.map (·.cellText "id")).toFinset

namespace Row

variable {rows : List Row}

theorem filterMap_id? (named : ∀ row ∈ rows, row.cellText "id" ≠ "") :
    rows.filterMap id? = rows.map (·.cellText "id") := by
  rw [← List.filterMap_eq_map]
  exact List.filterMap_congr fun row member =>
    id?_eq_cellText (named row member)

theorem cellText_mem_idSet {row : Row} (member : row ∈ rows) :
    row.cellText "id" ∈ idSet rows :=
  List.mem_toFinset.mpr (List.mem_map_of_mem member)

theorem card_idSet (distinct : (rows.map (·.cellText "id")).Nodup) :
    (idSet rows).card = rows.length := by
  rw [idSet, List.toFinset_card_of_nodup distinct, List.length_map]

end Row

namespace Grid

variable {σ : Type}

/-- The types that the database's declarations may give the columns. -/
def Typed (grid : Grid) (handler : Program.Handler σ)
    (types : ColumnTypes) : Prop :=
  ∃ state, (grid.columnTypes.run handler state).1 = .ok types

/-- What a database answers about the view of a request: its rows when all of
them are fetched, their number, and some of them on each page. -/
structure Views (grid : Grid) (handler : Program.Handler σ) (request : Request)
    (rows : List Row) : Prop where
  whole : ∀ {types condition statement state found},
    grid.Typed handler types → grid.condition types request = .ok condition →
    grid.table.source.pageStatement condition "" = .ok statement →
    (handler (.fetch statement 0 none) state).1 = .ok found → found = rows
  counted : ∀ {types condition statement state total},
    grid.Typed handler types → grid.condition types request = .ok condition →
    grid.table.source.countStatement condition = .ok statement →
    (handler (.count statement) state).1 = .ok total → total = rows.length
  paged : ∀ {types condition orderBy statement offset limit state page},
    grid.Typed handler types → grid.condition types request = .ok condition →
    grid.table.source.pageStatement condition orderBy = .ok statement →
    (handler (.fetch statement offset (some limit)) state).1 = .ok page →
    page ⊆ rows

variable {handler : Program.Handler σ} {held : σ → SelectionKey → Selection}
  {grid : Grid} {key : SelectionKey} {request : Request} {rows : List Row}
  {state final : σ}

/-- A view does not depend on anything but the filters and the search. -/
theorem condition_congr {other : Request} (types : ColumnTypes)
    (filters_eq : other.filters = request.filters)
    (search_eq : other.search = request.search) :
    grid.condition types other = grid.condition types request := by
  rw [condition, condition, filters_eq, search_eq]

/-- Selecting all rows adds the ids of the view's rows to what is held. -/
theorem represents_selectAll (keeps : Keeps handler held)
    (views : grid.Views handler request rows)
    (named : ∀ row ∈ rows, row.cellText "id" ≠ "") {prior : Finset String}
    (represents : (held state key).Represents prior) {envelope : Envelope}
    (done : (grid.selectAll key request).run handler state =
      (.ok envelope, final)) :
    (held final key).Represents (prior ∪ Row.idSet rows) := by
  obtain ⟨types, typed, typing, done⟩ := run_bind_eq_ok_iff.mp done
  obtain ⟨condition, compiled, done⟩ := run_liftM_bind_eq_ok_iff.mp done
  obtain ⟨statement, stated, done⟩ := run_liftM_bind_eq_ok_iff.mp done
  obtain ⟨found, fetched, done⟩ := run_perform_bind_eq_ok_iff.mp done
  obtain ⟨selection, _, selects, done⟩ := run_bind_eq_ok_iff.mp done
  obtain ⟨-, rfl⟩ := run_pure_eq_ok_iff.mp done
  obtain rfl : found = rows :=
    views.whole ⟨state, congrArg Prod.fst typing⟩ compiled stated fetched
  have typed_held : held typed = held state := by
    have := keeps.held_run grid.looks_columnTypes state
    rwa [typing] at this
  have fetched_held := keeps.keeps (.fetch statement 0 none) typed
    (Query.looks_fetch _ _ _).2
  obtain ⟨changed, stored⟩ := keeps.run_modify selects
  rw [stored, changed, fetched_held, typed_held, Row.filterMap_id? named]
  exact Selection.represents_extend represents _ _

/-- What a row is listed with says that it is selected. -/
def MarkedSelected (row : Row) : Prop :=
  ∃ data, Json.Fields.get? row "_data" = some (.object data) ∧
    Json.Fields.get? data "selected" = some (.bool true)

/-- A row whose id is selected is listed as selected. -/
theorem markedSelected_of_listRow {types : ColumnTypes} {selection : Selection}
    {base : List RenderedAction} {raw shown : Row}
    (enabled : grid.table.flags.rowSelection = true)
    (plain : ∀ column ∈ grid.table.columns.get? "id",
      column.effectiveType types ≠ .timestamp)
    (named : raw.cellText "id" ≠ "")
    (selected : raw.cellText "id" ∈ selection.ids)
    (lists : grid.listRow types selection base raw = .ok shown) :
    MarkedSelected shown := by
  obtain ⟨cells, formatted, lists⟩ := (bind_eq_ok_iff _ _ _).mp lists
  have id_eq : cells.id? = some (raw.cellText "id") :=
    (Row.id?_format plain named formatted).trans (Row.id?_eq_cellText named)
  have data_eq : ∃ rest, grid.rowData selection base raw cells =
      ("selected", .bool true) :: rest := by
    simp [rowData, enabled, id_eq, Selection.contains, selected]
  obtain ⟨rest, data_eq⟩ := data_eq
  rw [data_eq] at lists
  obtain rfl := Except.ok.inj lists
  refine ⟨("selected", .bool true) :: rest, ?_, rfl⟩
  simp [Json.Fields.get?_insert]

/-- A list of some rows of which all are selected: as many rows are said to be
selected as there are, and each row is marked. -/
def Lists (count : Nat) (envelope : Envelope) : Prop :=
  ∃ (page : List Row) (description : Json.Fields),
    envelope = .success (some (.list (page.map .object)))
      (some (.object description)) ∧
    Json.Fields.get? description "total" = some (.ofInt count) ∧
    Json.Fields.get? description "selected_rows_count" =
      some (.ofInt count) ∧
    ∀ row ∈ page, MarkedSelected row

/-- When exactly the rows of a view are selected, a list of the view says so. -/
theorem lists_of_run_list (keeps : Keeps handler held)
    (enabled : grid.table.flags.rowSelection = true)
    (plain : ∀ types, grid.Typed handler types →
      ∀ column ∈ grid.table.columns.get? "id",
        column.effectiveType types ≠ .timestamp)
    (views : grid.Views handler request rows)
    (named : ∀ row ∈ rows, row.cellText "id" ≠ "")
    (distinct : (rows.map (·.cellText "id")).Nodup)
    (represents : (held state key).Represents (Row.idSet rows))
    {envelope : Envelope}
    (done : (grid.list key request).run handler state =
      (.ok envelope, final)) : Lists rows.length envelope := by
  obtain ⟨types, typed, typing, done⟩ := run_bind_eq_ok_iff.mp done
  obtain ⟨condition, compiled, done⟩ := run_liftM_bind_eq_ok_iff.mp done
  obtain ⟨page, -, done⟩ := run_liftM_bind_eq_ok_iff.mp done
  obtain ⟨counting, countStated, done⟩ := run_liftM_bind_eq_ok_iff.mp done
  obtain ⟨total, counted, done⟩ := run_perform_bind_eq_ok_iff.mp done
  obtain ⟨statement, stated, done⟩ := run_liftM_bind_eq_ok_iff.mp done
  obtain ⟨raw, fetched, done⟩ := run_perform_bind_eq_ok_iff.mp done
  obtain ⟨selection, loaded, done⟩ := run_perform_bind_eq_ok_iff.mp done
  obtain ⟨shown, listed, done⟩ := run_liftM_bind_eq_ok_iff.mp done
  obtain ⟨rfl, -⟩ := run_pure_eq_ok_iff.mp done
  have known : grid.Typed handler types := ⟨state, congrArg Prod.fst typing⟩
  -- Only questions that look come before the selection is loaded, so it is
  -- still the one that was held at the beginning.
  have selection_eq : selection = held state key := by
    have typed_held := keeps.held_run grid.looks_columnTypes state
    rw [typing] at typed_held
    rw [keeps.loads key _ selection loaded,
      keeps.keeps (.fetch statement page.offset (some page.limit)) _ id,
      keeps.keeps (.count counting) _ id, typed_held]
  have total_eq : total = rows.length :=
    views.counted known compiled countStated counted
  have subset : raw ⊆ rows := views.paged known compiled stated fetched
  have count_eq : selection.count = rows.length := by
    rw [selection_eq, represents.count_eq, Row.card_idSet distinct]
  refine ⟨shown, _, rfl, ?_, ?_, fun row member => ?_⟩
  · rw [total_eq]
    rfl
  · rw [← count_eq]
    rfl
  · obtain ⟨source, among, lists⟩ := exists_of_mapM_eq_ok listed member
    have among := subset among
    have selected : source.cellText "id" ∈ selection.ids := by
      rw [selection_eq, represents.mem_iff]
      exact Row.cellText_mem_idSet among
    exact markedSelected_of_listRow enabled (plain types known)
      (named source among) selected lists

/-- A request whose action is some program succeeds when the program does. -/
theorem run_of_handle {session : String} {program : Program Envelope}
    {response : Response}
    (performs : grid.handle session request =
      liftM (grid.checkTable request) >>= fun _ =>
        program >>= fun envelope => pure (.envelope envelope))
    (done : (grid.handle session request).run handler state =
      (.ok response, final)) :
    ∃ envelope, response = .envelope envelope ∧
      program.run handler state = (.ok envelope, final) := by
  rw [performs] at done
  obtain ⟨_, -, done⟩ := run_liftM_bind_eq_ok_iff.mp done
  obtain ⟨envelope, middle, answers, done⟩ := run_bind_eq_ok_iff.mp done
  obtain ⟨rfl, rfl⟩ := run_pure_eq_ok_iff.mp done
  exact ⟨envelope, rfl, answers⟩

theorem handle_selectAll {session : String}
    (action_eq : request.action = .selectAll) :
    grid.handle session request =
      liftM (grid.checkTable request) >>= fun _ =>
        grid.selectAll (grid.selectionKey session) request >>= fun envelope =>
          pure (.envelope envelope) := by
  simp only [handle, action_eq]

theorem handle_list {session : String} (action_eq : request.action = .list) :
    grid.handle session request =
      liftM (grid.checkTable request) >>= fun _ =>
        grid.list (grid.selectionKey session) request >>= fun envelope =>
          pure (.envelope envelope) := by
  simp only [handle, action_eq]

/-- The same view is seen by every request with the same filters and search. -/
theorem Views.congr {other : Request}
    (views : grid.Views handler request rows)
    (filters_eq : other.filters = request.filters)
    (search_eq : other.search = request.search) :
    grid.Views handler other rows where
  whole typed compiled :=
    views.whole typed (condition_congr _ filters_eq search_eq ▸ compiled)
  counted typed compiled :=
    views.counted typed (condition_congr _ filters_eq search_eq ▸ compiled)
  paged typed compiled :=
    views.paged typed (condition_congr _ filters_eq search_eq ▸ compiled)

/-- Selecting all rows of a view adds their ids to the selection; when nothing
else was selected, listing the view counts as many selected rows as there are
and marks every row. -/
theorem list_after_selectAll (grid : Grid) (session : String)
    {all shown : Request} (all_action : all.action = .selectAll)
    (shown_action : shown.action = .list)
    (filters_eq : shown.filters = all.filters)
    (search_eq : shown.search = all.search)
    (enabled : grid.table.flags.rowSelection = true)
    (keeps : Keeps handler held)
    (plain : ∀ types, grid.Typed handler types →
      ∀ column ∈ grid.table.columns.get? "id",
        column.effectiveType types ≠ .timestamp)
    (views : grid.Views handler all rows)
    (named : ∀ row ∈ rows, row.cellText "id" ≠ "")
    (distinct : (rows.map (·.cellText "id")).Nodup)
    {prior : Finset String} {state middle : σ} {answered : Response}
    (represents :
      (held state (grid.selectionKey session)).Represents prior)
    (selects : (grid.handle session all).run handler state =
      (.ok answered, middle)) :
    (held middle (grid.selectionKey session)).Represents
        (prior ∪ Row.idSet rows) ∧
      (prior ⊆ Row.idSet rows → ∀ listed final,
        (grid.handle session shown).run handler middle =
            (.ok listed, final) →
          ∃ envelope, listed = .envelope envelope ∧
            Lists rows.length envelope) := by
  obtain ⟨_, -, selects⟩ := run_of_handle (handle_selectAll all_action) selects
  have extended := represents_selectAll keeps views named represents selects
  refine ⟨extended, fun within listed final lists => ?_⟩
  obtain ⟨envelope, listed_eq, listing⟩ :=
    run_of_handle (handle_list shown_action) lists
  rw [Finset.union_eq_right.mpr within] at extended
  exact ⟨envelope, listed_eq, lists_of_run_list keeps enabled plain
    (views.congr filters_eq search_eq) named distinct extended listing⟩

end Grid

namespace Demo

/-- A database whose only table has some rows, with selections in memory. -/
def answerFrom (rows : List Row) : Program.Handler SelectionMap :=
  fun query stored =>
    match query with
    | .count _ => (.ok rows.length, stored)
    | .fetch _ _ none => (.ok rows, stored)
    | .fetch _ offset (some limit) =>
        (.ok ((rows.drop offset.toNat).take limit.toNat), stored)
    | .execute _ => (.ok 0, stored)
    | .declarations _ => (.ok [], stored)
    | .loadSelection key => (.ok (stored.get key), stored)
    | .storeSelection key selection => (.ok (), stored.put key selection)

theorem keeps_answerFrom (rows : List Row) :
    Keeps (answerFrom rows) SelectionMap.get where
  loads key state selection loaded := (Except.ok.inj loaded).symm
  stores key selection state _ := by
    change (SelectionMap.put state key selection).get key = selection
    rw [SelectionMap.get_put, if_pos rfl]
  keeps query state looks := by
    cases query with
    | storeSelection key selection => exact absurd trivial looks
    | fetch statement offset limit => cases limit <;> rfl
    | _ => rfl

theorem views_answerFrom (grid : Grid) (request : Request) (rows : List Row) :
    grid.Views (answerFrom rows) request rows where
  whole _ _ _ fetched := (Except.ok.inj fetched).symm
  counted _ _ _ counted := (Except.ok.inj counted).symm
  paged _ _ _ fetched := by
    obtain rfl := Except.ok.inj fetched
    exact List.Subset.trans (List.take_subset _ _) (List.drop_subset _ _)

/-- A table of people who can be selected. -/
def selectableGrid : Grid :=
  { directoryGrid with
    table := { directory with
      columns := [{ key := "id", header := "id", dataType := some .number },
        { key := "name", header := "name" }]
      flags := { rowSelection := true } } }

def annAndBob : List Row :=
  [[("id", .ofInt 1), ("name", .text "Ann")],
    [("id", .ofInt 2), ("name", .text "Bob")]]

/-- A request for the people one by one. -/
def peopleRequest (action : RequestAction) : Request :=
  { saveRequest "1" with action := action, pageSize := 1 }

end Demo

namespace Grid

theorem succeeds_of_isSome {program : Program Response} {state : σ}
    (succeeds : (program.run handler state).1.toOption.isSome = true) :
    ∃ response final, program.run handler state = (.ok response, final) := by
  rcases ended : program.run handler state with ⟨error | response, final⟩
  · simp [ended, Except.toOption] at succeeds
  · exact ⟨response, final, rfl⟩

/-- Ann is selected; after all people are selected, the page with Ann on it
says that both are. -/
theorem people_list_after_selectAll :
    let key := Demo.selectableGrid.selectionKey "session"
    let stored : SelectionMap := [(key, { ids := ["1"] })]
    ∃ answered middle listed final envelope,
      (Demo.selectableGrid.handle "session"
        (Demo.peopleRequest .selectAll)).run (Demo.answerFrom Demo.annAndBob)
          stored = (.ok answered, middle) ∧
      (Demo.selectableGrid.handle "session"
        (Demo.peopleRequest .list)).run (Demo.answerFrom Demo.annAndBob)
          middle = (.ok listed, final) ∧
      (middle.get key).Represents {"1", "2"} ∧
      listed = .envelope envelope ∧ Lists 2 envelope := by
  intro key stored
  let handler := Demo.answerFrom Demo.annAndBob
  have selects : ((Demo.selectableGrid.handle "session"
      (Demo.peopleRequest .selectAll)).run handler stored).1.toOption.isSome =
        true := by
    decide +kernel
  have lists : ((Demo.selectableGrid.handle "session"
      (Demo.peopleRequest .list)).run handler ((Demo.selectableGrid.handle
        "session" (Demo.peopleRequest .selectAll)).run handler
          stored).2).1.toOption.isSome = true := by
    decide +kernel
  obtain ⟨answered, middle, selects⟩ := succeeds_of_isSome selects
  rw [selects] at lists
  obtain ⟨listed, final, lists⟩ := succeeds_of_isSome lists
  have plain (types : ColumnTypes)
      (_ : Demo.selectableGrid.Typed handler types) :
      ∀ column ∈ Demo.selectableGrid.table.columns.get? "id",
        column.effectiveType types ≠ .timestamp := by
    rintro column ⟨⟩
    exact DataType.noConfusion
  have represents : (stored.get key).Represents {"1"} :=
    ⟨List.pairwise_singleton _ _, by simp [stored, SelectionMap.get]⟩
  have all_action : (Demo.peopleRequest .selectAll).action = .selectAll := rfl
  have shown_action : (Demo.peopleRequest .list).action = .list := rfl
  obtain ⟨extended, listing⟩ := list_after_selectAll Demo.selectableGrid
    "session" all_action shown_action rfl rfl rfl
    (Demo.keeps_answerFrom Demo.annAndBob) plain (Demo.views_answerFrom _ _ _)
    (by decide +kernel) (by decide +kernel) represents selects
  obtain ⟨envelope, listed_eq, shown⟩ :=
    listing (by decide +kernel) listed final lists
  have all_ids : {"1"} ∪ Row.idSet Demo.annAndBob = {"1", "2"} := by
    decide +kernel
  exact ⟨answered, middle, listed, final, envelope, selects, lists,
    all_ids ▸ extended, listed_eq, shown⟩

end Grid

end DataGrid
