import DataGrid.Proofs.Column.Inference
import DataGrid.Proofs.Filter.Conjunction
import DataGrid.Proofs.Filter.Influence
import DataGrid.Proofs.Filter.Search
import DataGrid.Table.Config

/-!
# What a configuration promises

A configuration tells a client by which columns it may sort, filter and search,
and of which types the columns are.  Orders, filters and searches are compiled
without the configuration, each with its own look at the columns.  They do what
the configuration says.
-/

namespace DataGrid

open Sql

/-- There is an order by the columns that can be sorted, as long as the table
can be sorted. -/
theorem SortOrder.orderBy_ne_empty_iff (sort : SortOrder) (columns : Columns)
    (source : Source) (sortable : Bool) :
    sort.orderBy columns source sortable ≠ "" ↔
      sortable = true ∧ ∃ column, columns.get? sort.column = some column ∧
        column.canSort = true := by
  unfold orderBy
  cases found : (columns.get? sort.column).filter Column.canSort with
  | none =>
      have absent : ∀ column, columns.get? sort.column = some column →
          column.canSort = false := by
        simpa [Option.filter_eq_none_iff] using found
      simp only [ne_eq, not_true_eq_false, false_iff, not_and, not_exists]
      intro _ column present sorts
      rw [absent column present] at sorts
      cases sorts
  | some column =>
      obtain ⟨present, sorts⟩ := Option.filter_eq_some_iff.mp found
      cases sortable <;> simp [present, sorts, toString]

/-- The column without the type that is declared for it. -/
def Column.undeclared (column : Column) : Column :=
  { column with dataType := none }

theorem Column.canFilter_undeclared (column : Column) :
    column.undeclared.canFilter = column.canFilter :=
  rfl

namespace Columns

/-- The columns, of which the one under a key cannot be filtered any more. -/
def withoutFilter (columns : Columns) (key : String) : Columns :=
  columns.map fun column =>
    if column.key = key then { column with filterable := false } else column

variable {columns : Columns} {column : Column}

theorem withoutFilter_of_notMem {key : String}
    (absent : key ∉ columns.map Column.key) :
    columns.withoutFilter key = columns := by
  refine (List.map_congr_left fun column member => if_neg ?_).trans
    (List.map_id _)
  rintro rfl
  exact absent (List.mem_map_of_mem member)

/-- Among the columns that can be filtered only the one under the key goes,
and no other one takes its place. -/
theorem exists_filter_withoutFilter_eq
    (distinct : (columns.map Column.key).Nodup) (member : column ∈ columns) :
    ∃ before after,
      columns.filter Column.canFilter =
        before ++ (if column.canFilter then [column] else []) ++ after ∧
      (columns.withoutFilter column.key).filter Column.canFilter =
        before ++ after := by
  obtain ⟨before, after, rfl⟩ := List.append_of_mem member
  rw [List.map_append, List.map_cons, List.nodup_middle, List.nodup_cons,
    List.mem_append, not_or] at distinct
  obtain ⟨⟨notBefore, notAfter⟩, -⟩ := distinct
  -- No other column has the key, so that all others stay as they are.
  have replaced : withoutFilter (before ++ column :: after) column.key =
      before ++ { column with filterable := false } :: after := by
    conv_rhs => rw [← withoutFilter_of_notMem notBefore,
      ← withoutFilter_of_notMem notAfter]
    simp [withoutFilter]
  refine ⟨before.filter Column.canFilter, after.filter Column.canFilter,
    ?_, ?_⟩
  · rw [List.filter_append, List.filter_cons, List.append_assoc]
    split <;> simp
  · rw [replaced, List.filter_append, List.filter_cons_of_neg]
    simp [Column.canFilter]

theorem filter_get?_undeclared (key : String) :
    (get? (columns.map Column.undeclared) key).filter Column.canFilter =
      ((columns.get? key).filter Column.canFilter).map Column.undeclared := by
  have found_eq : get? (columns.map Column.undeclared) key =
      (columns.get? key).map Column.undeclared := by
    rw [get?, List.find?_map]
    rfl
  rw [found_eq, Option.filter_map]
  rfl

end Columns

namespace Filter

variable {context : Context}

theorem searchStatement_eq_ok_iff {search : String} {found : Statement} :
    searchStatement context search = .ok found ↔
      ∃ condition, searchCondition context search = .ok condition ∧
        condition.statement context.style searchStem = found := by
  rw [searchStatement_eq_map, map_eq_ok_iff]

theorem length_params_statement (fragment : Fragment) (style : Style)
    (stem : String) :
    (fragment.statement style stem).params.length = fragment.values.length := by
  rw [Fragment.statement, Fragment.params, Params.number_eq_withNames]
  exact Params.length_withNames (length_numberedNames _ _) style

theorem length_flatten_groups {words : List String} {places : List Place}
    {groups : List (List Test)}
    (looks : List.Forall₂
      (fun word => List.Forall₂ (LooksFor context word) places) words groups) :
    groups.flatten.length = words.length * places.length := by
  induction looks with
  | nil => simp
  | cons first _ ih =>
      rw [List.flatten_cons, List.length_append, ih, ← first.length_eq,
        List.length_cons, Nat.succ_mul, Nat.add_comm]

/-- A search binds a value for each of its words at each place. -/
theorem length_values_searchCondition {search : String} {condition : Fragment}
    (compiled : searchCondition context search = .ok condition) :
    condition.values.length =
      (Text.words search).length * (places context).length := by
  obtain ⟨groups, rfl, looks⟩ := exists_groups context compiled
  rw [values_writeGroups, List.length_map, length_flatten_groups looks]

/-- Without one column a search is compiled as well.  It binds as many values
less as it has words, when the column can be filtered. -/
theorem exists_searchStatement_withoutFilter {column : Column}
    (distinct : (context.columns.map Column.key).Nodup)
    (member : column ∈ context.columns) {search : String} {found : Statement}
    (compiled : searchStatement context search = .ok found) :
    ∃ fewer, searchStatement { context with
        columns := context.columns.withoutFilter column.key } search =
        .ok fewer ∧
      found.params.length = fewer.params.length +
        if column.canFilter then (Text.words search).length else 0 := by
  obtain ⟨before, after, all_eq, fewer_eq⟩ :=
    Columns.exists_filter_withoutFilter_eq distinct member
  let narrowed : Context := { context with
    columns := context.columns.withoutFilter column.key }
  have fewerPlaces : ∀ place ∈ places narrowed, place ∈ places context := by
    intro place among
    simp only [places, narrowed, fewer_eq, all_eq, List.map_append,
      List.mem_append] at among ⊢
    tauto
  have count : (places context).length = (places narrowed).length +
      if column.canFilter then 1 else 0 := by
    simp only [places, narrowed, fewer_eq, all_eq, List.length_append,
      List.length_map]
    split
    · simp; omega
    · simp
  obtain ⟨condition, succeeds, rfl⟩ := searchStatement_eq_ok_iff.mp compiled
  obtain ⟨other, otherSucceeds⟩ :
      ∃ other, searchCondition narrowed search = .ok other := by
    refine (exists_searchCondition_iff narrowed search).mpr ?_
    refine ((exists_searchCondition_iff context search).mp
      ⟨condition, succeeds⟩).imp_right fun texts place among => ?_
    have shown := texts place (fewerPlaces place among)
    cases place <;> exact shown
  refine ⟨_, searchStatement_eq_ok_iff.mpr ⟨other, otherSucceeds, rfl⟩, ?_⟩
  rw [length_params_statement, length_params_statement,
    length_values_searchCondition succeeds,
    length_values_searchCondition otherSucceeds, count, Nat.mul_add]
  split <;> simp

theorem sql_allOf_eq_iff (conditions : List Fragment) (style : Style)
    (stem : String) :
    ((allOf conditions).statement style stem).sql = "1=1" ↔
      conditions = [] := by
  cases conditions with
  | nil => simp [allOf, Fragment.statement, Fragment.ofText, Fragment.write,
      Fragment.texts]
  | cons condition rest =>
      have written := Fragment.write_between style stem "(" ")"
        (Fragment.join " AND " (condition :: rest))
      rw [allOf, Fragment.statement, written]
      · exact iff_of_false (parenthesised_ne_unrestricted _)
          (List.cons_ne_nil _ _)
      · simp

/-- A filter for what is not empty asks something exactly when its column can
be filtered. -/
theorem exists_columnStatement_notEmpty (context : Context) (key : String)
    (value : FilterValue) :
    ∃ condition,
      columnStatement context [⟨key, some "notEmpty", value⟩] =
        .ok condition ∧
      (condition.sql ≠ "1=1" ↔ ∃ column,
        context.columns.get? key = some column ∧ column.canFilter = true) := by
  let asked := (context.columns.get? key).filter Column.canFilter
  let conditions : List Fragment := (asked.map fun column =>
    .ofText s!"COALESCE({context.source.resolve column}, '') <> ''").toList
  have clause_eq : clauses context [⟨key, some "notEmpty", value⟩] =
      .ok conditions := by
    have understood : FilterFunction.ofName? (some "notEmpty") =
        some .notEmpty :=
      rfl
    rw [clauses, clause, understood]
    cases found : asked <;> simp [asked, conditions, found, clauses, predicate]
  refine ⟨(allOf conditions).statement context.style columnStem, ?_, ?_⟩
  · rw [columnStatement_eq_map, columnCondition, clause_eq]
    rfl
  · rw [ne_eq, sql_allOf_eq_iff, Option.toList_eq_nil_iff,
      Option.map_eq_none_iff]
    simp [asked, Option.filter_eq_none_iff]

/-- A context in which the types of columns are told, and none is declared. -/
def Context.told (context : Context) (types : ColumnTypes) : Context :=
  { context with
    columns := context.columns.map Column.undeclared
    types := types }

/-- The types that are told are those that the columns have. -/
def Context.TypedBy (context : Context) (types : ColumnTypes)
    (columns : List Column) : Prop :=
  ∀ column ∈ columns, types.lookup column.key = some (context.typeOf column)

section Told

variable {types : ColumnTypes} {column : Column}

theorem typeOf_told
    (told : types.lookup column.key = some (context.typeOf column)) :
    (context.told types).typeOf column.undeclared = context.typeOf column := by
  simp [Context.typeOf, Context.told, Column.undeclared, Column.effectiveType,
    told]

theorem textExpression_told
    (told : types.lookup column.key = some (context.typeOf column)) :
    (context.told types).textExpression column.undeclared =
      context.textExpression column := by
  rw [Context.textExpression, typeOf_told told]
  rfl

theorem typed_told
    (told : types.lookup column.key = some (context.typeOf column)) :
    (context.told types).typed column.undeclared = context.typed column := by
  funext text
  rw [Context.typed, typeOf_told told]
  rfl

theorem predicate_told
    (told : types.lookup column.key = some (context.typeOf column))
    (function : FilterFunction) (value : FilterValue) :
    predicate (context.told types) column.undeclared function value =
      predicate context column function value := by
  unfold predicate matching
  rw [textExpression_told told]
  rfl

theorem clause_told (told : context.TypedBy types context.columns)
    (filter : Filter) :
    clause (context.told types) filter = clause context filter := by
  unfold clause
  rw [Context.told, Columns.filter_get?_undeclared, ← Context.told]
  cases found : (context.columns.get? filter.column).filter
      Column.canFilter with
  | none => rfl
  | some column =>
      have present := (Option.filter_eq_some_iff.mp found).1
      have type_eq := told column (List.mem_of_find?_eq_some present)
      simp only [Option.map_some, predicate_told type_eq, typed_told type_eq]

theorem clauses_told (told : context.TypedBy types context.columns)
    (filters : List Filter) :
    clauses (context.told types) filters = clauses context filters := by
  induction filters with
  | nil => rfl
  | cons filter rest ih => rw [clauses, clauses, clause_told told, ih]

theorem searched_told {columns : List Column}
    (told : context.TypedBy types columns) :
    searched (context.told types) (columns.map Column.undeclared) =
      (searched context columns).map
        (List.map fun (column, text) => (column.undeclared, text)) := by
  induction columns with
  | nil => rfl
  | cons column rest ih =>
      obtain ⟨first, others⟩ := List.forall_mem_cons.mp told
      rw [List.map_cons, searched, searched, textExpression_told first,
        ih others, Column.canFilter_undeclared]
      split
      · cases context.textExpression column with
        | error error => rfl
        | ok text => cases searched context rest <;> rfl
      · rfl

theorem wordCondition_told {found : List (Column × String)}
    (told : context.TypedBy types (found.map Prod.fst)) (word : String) :
    wordCondition (context.told types)
        (found.map fun (column, text) => (column.undeclared, text)) word =
      wordCondition context found word := by
  have typed_eq : ∀ searched ∈ found,
      (context.told types).typed searched.1.undeclared word =
        context.typed searched.1 word := by
    intro searched member
    rw [typed_told (told _ (List.mem_map_of_mem member))]
  rw [wordCondition_eq_anyOf, wordCondition_eq_anyOf, wordPlaces, wordPlaces,
    List.map_map]
  refine congrArg anyOf (congrArg (· ++ _) (List.map_congr_left ?_))
  intro searched member
  simp only [Function.comp_apply, typed_eq searched member]
  rfl

theorem searchCondition_told (told : context.TypedBy types context.columns)
    (search : String) :
    searchCondition (context.told types) search =
      searchCondition context search := by
  have searched_eq : searched (context.told types)
      (context.told types).columns = _ :=
    searched_told told
  unfold searchCondition
  rw [searched_eq]
  split
  · rfl
  cases succeeds : searched context context.columns with
  | error error => rw [Except.map, error_bind, error_bind]
  | ok found =>
      have among : context.TypedBy types (found.map Prod.fst) := by
        intro column member
        obtain ⟨searched, among, rfl⟩ := List.mem_map.mp member
        obtain ⟨column, filterable, rfl, -⟩ :=
          exists_mem_of_forall₂ (forall₂_searched succeeds) among
        exact told _ (List.mem_of_mem_filter filterable)
      have words_eq := funext (wordCondition_told among)
      rw [Except.map, ok_bind, ok_bind, words_eq]

/-- Filters and searches depend on the types of the columns, not on where they
are declared. -/
theorem compile_told (told : context.TypedBy types context.columns)
    (filters : List Filter) (search : String) :
    compile (context.told types) filters search =
      compile context filters search := by
  rw [compile_eq, compile_eq, columnCondition, columnCondition,
    clauses_told told, searchCondition_told told]
  rfl

end Told

end Filter

/-- The types that a configuration tells. -/
def TableConfig.types (config : TableConfig) : ColumnTypes :=
  config.columns.map fun entry => (entry.key, entry.dataType)

/-- What a client is told about a column is what becomes of an order by it, of a
filter on it, and of a search. -/
structure ColumnConfig.Agrees (entry : ColumnConfig) (sortable : Bool)
    (context : Filter.Context) : Prop where
  sorting_iff : ∀ direction, entry.sorting = true ↔
    SortOrder.orderBy ⟨entry.key, direction⟩ context.columns context.source
      sortable ≠ ""
  /-- A filter for what is not empty asks something of the column. -/
  filter_iff : ∀ value, ∃ condition,
    Filter.columnStatement context [⟨entry.key, some "notEmpty", value⟩] =
      .ok condition ∧
    (entry.filter = true ↔ condition.sql ≠ "1=1")
  /-- Each word of a search is looked for in the column. -/
  search_iff : ∀ search found,
    Filter.searchStatement context search = .ok found →
    ∃ fewer,
      Filter.searchStatement { context with
        columns := context.columns.withoutFilter entry.key } search =
        .ok fewer ∧
      found.params.length = fewer.params.length +
        (if entry.filter then (Text.words search).length else 0) ∧
      ((Text.words search).length = 1 →
        (entry.filter = true ↔ fewer.params.length ≠ found.params.length))
  dataType_eq : ∃ column, context.columns.get? entry.key = some column ∧
    entry.dataType = context.typeOf column

namespace Table

variable {table : Table} {types : ColumnTypes} {context : Filter.Context}

theorem columnConfig_agrees
    (distinct : (context.columns.map Column.key).Nodup) {column : Column}
    (member : column ∈ context.columns) :
    (table.columnConfig context.types column).Agrees table.flags.sortable
      context where
  sorting_iff direction := by
    have present := Columns.get?_key distinct member
    rw [SortOrder.orderBy_ne_empty_iff]
    simp [columnConfig, present]
  filter_iff value := by
    have present := Columns.get?_key distinct member
    obtain ⟨condition, compiled, asks⟩ :=
      Filter.exists_columnStatement_notEmpty context column.key value
    refine ⟨condition, compiled, ?_⟩
    rw [asks]
    simp [columnConfig, present]
  search_iff search found compiled := by
    obtain ⟨fewer, succeeds, count⟩ :=
      Filter.exists_searchStatement_withoutFilter distinct member compiled
    refine ⟨fewer, succeeds, count, fun single => ?_⟩
    rw [count, single]
    cases filterable : column.canFilter <;> simp [columnConfig, filterable]
  dataType_eq := ⟨column, Columns.get?_key distinct member, rfl⟩

/-- A configuration has an entry for each column, in the order of the columns.
What the entry tells about sorting, filtering, searching and the type of the
column agrees with what is compiled; and of the types of the columns nothing
more is needed for this than what the configuration tells. -/
theorem config_agrees {given : List Column}
    (registered : Columns.pushAll [] given = .ok table.columns)
    (types : ColumnTypes) (sizes : List Int) (timezone : String)
    (context : Filter.Context) :
    let config := table.config types sizes timezone
    let reads := { context with columns := table.columns, types := types }
    config.columns.map ColumnConfig.key = table.columns.map Column.key ∧
      (∀ entry ∈ config.columns, entry.Agrees table.flags.sortable reads) ∧
      ∀ filters search,
        Filter.compile (reads.told config.types) filters search =
          Filter.compile reads filters search := by
  intro config reads
  have distinct : (table.columns.map Column.key).Nodup :=
    Columns.nodup_of_pushAll (by simp) registered
  have columns_eq : config.columns =
      table.columns.map (table.columnConfig types) :=
    rfl
  refine ⟨?keys, ?entries, Filter.compile_told ?told⟩
  case keys =>
    rw [columns_eq, List.map_map]
    rfl
  case entries =>
    rw [columns_eq]
    intro entry member
    obtain ⟨column, among, rfl⟩ := List.mem_map.mp member
    exact @columnConfig_agrees table reads distinct column among
  case told =>
    intro column member
    have types_eq : config.types = table.columns.map fun column =>
        (column.key, column.effectiveType types) := by
      rw [TableConfig.types, columns_eq, List.map_map]
      rfl
    rw [types_eq, Schema.lookup_types, Columns.get?_key distinct member]
    rfl

end Table

namespace Demo

/-- The table of people with the two columns that no filter reaches. -/
def guardedTable : Table :=
  TableDraft.completed { draft 50 with columns := guardedColumns }
    { key := "name", header := "Name" }

/-- Of three columns only the names are offered for a filter, and without them a
search of one word binds one value less. -/
theorem guarded_config_agrees :
    let config := guardedTable.config [("name", .text)] defaultPageSizes "UTC"
    let reads : Filter.Context := { Filter.peopleContext with
      columns := guardedTable.columns, types := [("name", .text)] }
    Columns.pushAll [] guardedColumns = .ok guardedTable.columns ∧
      config.columns.map ColumnConfig.filter = [true, false, false] ∧
      (Text.words "ann").length = 1 ∧
      ∃ found fewer,
        Filter.searchStatement reads "ann" = .ok found ∧
        Filter.searchStatement { reads with
          columns := reads.columns.withoutFilter "name" } "ann" = .ok fewer ∧
        found.params.length = fewer.params.length + 1 := by
  intro config reads
  have registered : Columns.pushAll [] guardedColumns =
      .ok guardedTable.columns :=
    rfl
  obtain ⟨-, agrees, -⟩ := Table.config_agrees registered [("name", .text)]
    defaultPageSizes "UTC" Filter.peopleContext
  have single : (Text.words "ann").length = 1 := by
    decide +kernel
  have succeeds : (Filter.searchStatement reads "ann").isOk = true := by
    decide +kernel
  cases compiled : Filter.searchStatement reads "ann" with
  | error error =>
      rw [compiled] at succeeds
      exact Bool.noConfusion succeeds
  | ok found =>
      have named := agrees _ List.mem_cons_self
      obtain ⟨fewer, others, count, -⟩ := named.search_iff "ann" found compiled
      rw [single] at count
      exact ⟨registered, rfl, single, found, fewer, rfl, others, count⟩

end Demo

end DataGrid
