import DataGrid.Proofs.Filter.Marks
import DataGrid.Proofs.Source.Marks
import DataGrid.Proofs.Table.Consistent
import DataGrid.Sorting

/-!
# Statements with as many question marks as values

When the clauses of a source have a question mark for each of its values, so has
the statement of a page, unless a column resolves to an expression with a
question mark of its own, which is then copied without a value.  The statement
of a count leaves the SELECT list out but keeps all values, so that it is exact
only when that list has no question marks either.
-/

namespace DataGrid.Filter

open Sql

/-- The parts of a column that its author wrote have no question marks. -/
structure PlainColumn (column : Column) : Prop where
  key : markCount column.key = 0
  expression : ∀ expression ∈ column.expression, markCount expression = 0
  format : ∀ format ∈ column.format, markCount format = 0

/-- The clauses of the source have a question mark for each of its values, and
what else the author of a table wrote has none.  As in every table that is built
no two columns have the same key. -/
structure Context.Counted (context : Context) (values : List Value) :
    Prop where
  style_eq : context.style = .positional
  params_eq : context.source.params = .positional values
  marks_eq : markCount context.source.fields + markCount context.source.from_ +
    markCount context.source.condition = values.length
  columns_plain : ∀ column ∈ context.columns, PlainColumn column
  distinct : (context.columns.map Column.key).Nodup
  fullText_plain : ∀ expression ∈ context.fullText, markCount expression = 0
  dateFormat_plain : markCount context.dateFormat = 0

variable {context : Context} {values : List Value} {column : Column}

namespace Context.Counted

/-- A column has no question marks when there are none in the SELECT list, in
the name of the first table and in the time zone. -/
theorem unmarked (counted : context.Counted values)
    (fields_plain : markCount context.source.fields = 0)
    (qualifier_plain : ∀ qualifier ∈ context.source.qualifier?,
      markCount qualifier = 0)
    (timezone_plain : markCount context.timezone = 0)
    (member : column ∈ context.columns) : context.Unmarked column := by
  have plain := counted.columns_plain column member
  have resolved : markCount (context.source.resolve column) = 0 := by
    unfold Source.resolve
    split
    · rename_i expression written
      exact plain.expression expression
        (Option.eq_some_of_filter_eq_some written)
    · exact Source.markCount_resolveKey plain.key fields_plain qualifier_plain
  refine ⟨resolved, fun expression shown => ?_⟩
  unfold Context.textExpression at shown
  split at shown
  · have format_plain :
        markCount (column.format.getD context.dateFormat) = 0 := by
      cases format_eq : column.format with
      | none => exact counted.dateFormat_plain
      | some format => exact plain.format format format_eq
    exact Dialect.markCount_formatTimestamp shown resolved format_plain
      timezone_plain
  · obtain rfl := Except.ok.inj shown
    rw [Dialect.markCount_castToText, resolved]

end Context.Counted

theorem compile_nothing (context : Context) :
    compile context [] "" = .ok (compiled context.style (.ofText "1=1")
      (.ofText "1=1")) :=
  compile_eq_ok_iff.mpr ⟨_, _, rfl, rfl, rfl⟩

theorem compile_single (present : context.columns.get? column.key = some column)
    (filterable : column.canFilter = true) {name : String}
    {function : FilterFunction} {fragment : Fragment}
    (named : FilterFunction.ofName? (some name) = some function)
    (asks : predicate context column function
      ((FilterValue.scalar "").map (context.typed column)) =
        .ok (some fragment)) :
    compile context [{ column := column.key, function := some name }] "" =
      .ok (compiled context.style (allOf [fragment]) (.ofText "1=1")) := by
  refine compile_eq_ok_iff.mpr ⟨_, _, ?_, rfl, rfl⟩
  have asked : clause context { column := column.key, function := some name } =
      .ok (some fragment) := by
    simp only [clause, named, present, Option.filter_some, filterable, if_true]
    exact asks
  simp only [columnCondition, clauses, asked]
  rfl

theorem markCount_allOf_single (fragment : Fragment) :
    (allOf [fragment]).markCount = fragment.markCount := by
  have literals : markCount "(" = 0 ∧ markCount ")" = 0 := by decide
  simp [allOf, Fragment.join, literals]

theorem orderBy_unsortable (sort : SortOrder) (columns : Columns)
    (source : Source) : sort.orderBy columns source false = "" := by
  unfold SortOrder.orderBy
  split <;> rfl

theorem markCount_orderBy_key {columns : Columns} {source : Source}
    (present : columns.get? column.key = some column)
    (canSort : column.canSort = true) :
    markCount (SortOrder.orderBy ⟨column.key, .ascending⟩ columns source true) =
      markCount (source.resolve column) := by
  have literals : markCount "ORDER BY " = 0 ∧ markCount " " = 0 ∧
      markCount "ASC" = 0 := by
    decide
  simp [SortOrder.orderBy, present, Option.filter, canSort, Direction.keyword,
    literals]

theorem markCount_orderBy {sort : SortOrder} {columns : Columns}
    {source : Source} {sortable : Bool}
    (plain : ∀ column ∈ columns, column.canSort = true →
      markCount (source.resolve column) = 0) :
    markCount (sort.orderBy columns source sortable) = 0 := by
  unfold SortOrder.orderBy
  split
  · rename_i column found
    obtain ⟨present, canSort⟩ := Option.filter_eq_some_iff.mp found
    have member := List.mem_of_find?_eq_some present
    split
    · simp only [markCount_append, markCount_toString,
        plain column member canSort]
      cases sort.direction <;> decide
    · decide
  · decide

def Context.ConditionsExact (context : Context) : Prop :=
  ∀ filters search condition, compile context filters search = .ok condition →
    condition.Exact

/-- The statements of all pages that a request can ask for are exact. -/
def Context.PagesExact (context : Context) : Prop :=
  ∀ filters search (sort : SortOrder) sortable condition,
    compile context filters search = .ok condition →
      ∃ statement,
        context.source.pageStatement condition
          (sort.orderBy context.columns context.source sortable) =
            .ok statement ∧ statement.Exact

/-- The statements of all counts that a request can ask for are exact. -/
def Context.CountsExact (context : Context) : Prop :=
  ∀ filters search condition, compile context filters search = .ok condition →
    ∃ statement, context.source.countStatement condition = .ok statement ∧
      statement.Exact

def Context.SortsUnmarked (context : Context) : Prop :=
  ∀ column ∈ context.columns, column.canSort = true →
    markCount (context.source.resolve column) = 0

theorem exact_compiled_iff (column found : Fragment) :
    (compiled .positional column found).Exact ↔
      column.markCount + found.markCount = 0 := by
  rw [Statement.Exact, markCount_compiled]
  omega

theorem exact_nothing :
    (compiled .positional (.ofText "1=1") (.ofText "1=1")).Exact := by
  rw [exact_compiled_iff]
  decide

namespace Context.Counted

/-- A condition on a column that is exact brings the column in without question
marks. -/
theorem plain_of_conditionsExact (counted : context.Counted values)
    (exact : context.ConditionsExact) (member : column ∈ context.columns)
    (filterable : column.canFilter = true) {name : String}
    {function : FilterFunction} {fragment : Fragment}
    (named : FilterFunction.ofName? (some name) = some function)
    (asks : predicate context column function
      ((FilterValue.scalar "").map (context.typed column)) =
        .ok (some fragment)) : fragment.markCount = 0 := by
  have present := Columns.get?_key counted.distinct member
  have single := exact _ _ _ (compile_single present filterable named asks)
  rw [counted.style_eq, exact_compiled_iff, markCount_allOf_single] at single
  omega

/-- Conditions are exact when no column brings question marks along.  A filter
for empty values shows what a column resolves to, and one for other values shows
it as it is searched. -/
theorem conditionsExact_iff (counted : context.Counted values) :
    context.ConditionsExact ↔ context.FiltersUnmarked := by
  constructor
  · intro exact column member filterable
    have empty : FilterFunction.ofName? (some "empty") = some .empty := by
      decide
    have notEquals :
        FilterFunction.ofName? (some "notEquals") = some .notEquals := by
      decide
    constructor
    · rw [← markCount_emptyTest]
      exact counted.plain_of_conditionsExact exact member filterable empty rfl
    · intro expression shown
      have asks : predicate context column .notEquals
          ((FilterValue.scalar "").map (context.typed column)) =
            .ok (some (context.dialect.like expression
              (textPiece (escapeLike (context.typed column "").toList))
              true)) := by
        simp only [predicate, matching, shown, ok_bind, pure_eq_ok]
        rfl
      have plain := counted.plain_of_conditionsExact exact member filterable
        notEquals asks
      rwa [Dialect.markCount_like, markCount_textPiece] at plain
  · intro unmarked filters search condition compiles
    obtain ⟨column, found, columns, searches, rfl⟩ :=
      compile_eq_ok_iff.mp compiles
    rw [counted.style_eq, exact_compiled_iff,
      markCount_searchCondition unmarked counted.fullText_plain searches]
    obtain ⟨fragments, asks, columns⟩ := (bind_eq_ok_iff _ _ _).mp columns
    obtain rfl := Except.ok.inj columns
    rw [markCount_allOf (markCount_clauses unmarked asks)]

theorem exists_append (counted : context.Counted values)
    {filters : List Filter} {search : String} {condition : Statement}
    (compiles : compile context filters search = .ok condition) :
    ∃ params, context.source.params.append condition.params = .ok params ∧
      params.length = values.length + condition.params.length := by
  obtain ⟨column, found, -, -, rfl⟩ := compile_eq_ok_iff.mp compiles
  rw [counted.style_eq, counted.params_eq]
  exact ⟨_, Params.append_number .positional "" "" values _,
    List.length_append⟩

/-- The statement of a page is exact when its condition is and its order brings
no question marks along. -/
theorem pageStatement_exact_iff (counted : context.Counted values)
    {filters : List Filter} {search : String} {condition : Statement}
    (compiles : compile context filters search = .ok condition)
    (orderBy : String) :
    (∃ statement,
      context.source.pageStatement condition orderBy = .ok statement ∧
        statement.Exact) ↔
      markCount condition.sql + markCount orderBy =
        condition.params.length := by
  have marks_eq := counted.marks_eq
  obtain ⟨params, bound, length_eq⟩ := counted.exists_append compiles
  rw [Source.pageStatement_eq bound]
  simp only [Except.ok.injEq, exists_eq_left', Statement.Exact,
    Source.markCount_rowsText, length_eq]
  omega

/-- The statement of a count is exact when its condition brings along as many
question marks as the SELECT list has. -/
theorem countStatement_exact_iff (counted : context.Counted values)
    {filters : List Filter} {search : String} {condition : Statement}
    (compiles : compile context filters search = .ok condition) :
    (∃ statement, context.source.countStatement condition = .ok statement ∧
      statement.Exact) ↔
      markCount condition.sql =
        condition.params.length + markCount context.source.fields := by
  have marks_eq := counted.marks_eq
  obtain ⟨params, bound, length_eq⟩ := counted.exists_append compiles
  rw [Source.countStatement_eq bound]
  simp only [Except.ok.injEq, exists_eq_left', Statement.Exact,
    Source.markCount_countText, length_eq]
  omega

theorem pagesExact_iff (counted : context.Counted values) :
    context.PagesExact ↔ context.FiltersUnmarked ∧ context.SortsUnmarked := by
  constructor
  · intro exact
    constructor
    · rw [← counted.conditionsExact_iff]
      intro filters search condition compiles
      have page := exact filters search ⟨"", .ascending⟩ false condition
        compiles
      rw [counted.pageStatement_exact_iff compiles, orderBy_unsortable] at page
      exact page
    · intro column member canSort
      have page := exact [] "" ⟨column.key, .ascending⟩ true _
        (compile_nothing context)
      rw [counted.pageStatement_exact_iff (compile_nothing context),
        markCount_orderBy_key (Columns.get?_key counted.distinct member)
          canSort,
        counted.style_eq, exact_nothing] at page
      omega
  · rintro ⟨unmarked, sortsUnmarked⟩ filters search sort sortable condition
      compiles
    rw [counted.pageStatement_exact_iff compiles,
      markCount_orderBy sortsUnmarked]
    exact counted.conditionsExact_iff.mpr unmarked filters search condition
      compiles

theorem countsExact_iff (counted : context.Counted values) :
    context.CountsExact ↔
      markCount context.source.fields = 0 ∧ context.FiltersUnmarked := by
  constructor
  · intro exact
    have fields_plain : markCount context.source.fields = 0 := by
      have count := exact [] "" _ (compile_nothing context)
      rw [counted.countStatement_exact_iff (compile_nothing context),
        counted.style_eq, exact_nothing] at count
      omega
    refine ⟨fields_plain, counted.conditionsExact_iff.mp ?_⟩
    intro filters search condition compiles
    have count := exact filters search condition compiles
    rwa [counted.countStatement_exact_iff compiles, fields_plain] at count
  · rintro ⟨fields_plain, unmarked⟩ filters search condition compiles
    rw [counted.countStatement_exact_iff compiles, fields_plain]
    exact counted.conditionsExact_iff.mpr unmarked filters search condition
      compiles

theorem filtersUnmarked (counted : context.Counted values)
    (fields_plain : markCount context.source.fields = 0)
    (qualifier_plain : ∀ qualifier ∈ context.source.qualifier?,
      markCount qualifier = 0)
    (timezone_plain : markCount context.timezone = 0) :
    context.FiltersUnmarked ∧ context.SortsUnmarked :=
  ⟨fun _ member _ => counted.unmarked fields_plain qualifier_plain
      timezone_plain member,
    fun _ member _ => (counted.unmarked fields_plain qualifier_plain
      timezone_plain member).resolved⟩

end Context.Counted

/-- When the clauses of a source have a question mark for each of its values,
the statements of all pages are exact if and only if no column brings question
marks along, and those of all counts if and only if, besides, the SELECT list
has none: a count leaves that list out and keeps its values.  No column does so
when there are no question marks in the SELECT list, in the name of the first
table and in the time zone. -/
theorem statements_exact_iff (counted : context.Counted values) :
    (context.PagesExact ↔
      context.FiltersUnmarked ∧ context.SortsUnmarked) ∧
    (context.CountsExact ↔
      markCount context.source.fields = 0 ∧ context.FiltersUnmarked) ∧
    (markCount context.source.fields = 0 →
      (∀ qualifier ∈ context.source.qualifier?, markCount qualifier = 0) →
      markCount context.timezone = 0 →
        context.FiltersUnmarked ∧ context.SortsUnmarked) :=
  ⟨counted.pagesExact_iff, counted.countsExact_iff, counted.filtersUnmarked⟩

/-- Grown-up people with the moments at which they were born. -/
def grownContext (fields condition : String) : Context where
  columns := [{ key := "name", header := "Name" },
    { key := "born", header := "Born", dataType := some .timestamp,
      format := some "%d.%m.%Y" }]
  source := .ofClauses fields "people" condition (.positional [.integer 17])
  types := []
  fullText := ["people.notes"]
  dialect := .sqlite
  style := .positional
  dateFormat := "%H:%M"
  timezone := "UTC"

theorem counted_grownContext {fields condition : String}
    (marks_eq : markCount (grownContext fields condition).source.fields +
      markCount (grownContext fields condition).source.from_ +
      markCount (grownContext fields condition).source.condition = 1) :
    (grownContext fields condition).Counted [.integer 17] where
  style_eq := rfl
  params_eq := rfl
  marks_eq := marks_eq
  columns_plain column member := by
    rcases List.mem_pair.mp member with rfl | rfl
    · exact ⟨by decide, by simp, by simp⟩
    · refine ⟨by decide, by simp, fun format given => ?_⟩
      obtain rfl := Option.mem_some_iff.mp given
      decide
  distinct := (by decide : ["name", "born"].Nodup)
  fullText_plain expression member := by
    obtain rfl := List.mem_singleton.mp member
    decide
  dateFormat_plain := (by decide : markCount "%H:%M" = 0)

/-- With the question mark in the condition alone all statements are exact. -/
theorem grown_statements_exact :
    (grownContext "people.name, people.born" "age > ?").Counted
        [.integer 17] ∧
      (grownContext "people.name, people.born" "age > ?").PagesExact ∧
      (grownContext "people.name, people.born" "age > ?").CountsExact := by
  have counted := counted_grownContext
    (by decide : markCount (grownContext "people.name, people.born"
      "age > ?").source.fields + _ + _ = 1)
  obtain ⟨pages, counts, unmarked⟩ := statements_exact_iff counted
  have fields_plain : markCount (grownContext "people.name, people.born"
      "age > ?").source.fields = 0 := by
    decide
  obtain ⟨filters, sorts⟩ := unmarked fields_plain (by decide) (by decide)
  exact ⟨counted, pages.mpr ⟨filters, sorts⟩,
    counts.mpr ⟨fields_plain, filters⟩⟩

/-- With a question mark in the SELECT list the statement of a count has a value
too many. -/
theorem not_forall_countsExact :
    ¬ ∀ (context : Context) (values : List Value), context.Counted values →
      context.PagesExact ∧ context.CountsExact := by
  intro always
  have counted := counted_grownContext
    (by decide : markCount (grownContext "name, ? AS extra"
      "").source.fields + _ + _ = 1)
  obtain ⟨-, counts⟩ := always _ _ counted
  obtain ⟨fields_plain, -⟩ := counted.countsExact_iff.mp counts
  exact absurd fields_plain (by decide)

end DataGrid.Filter
