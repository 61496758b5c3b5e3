import DataGrid.Proofs.Filter.Clauses
import DataGrid.Proofs.Filter.Compile
import DataGrid.Proofs.Sql.Specifiers

/-!
# Requests without a condition

The filters and the search of a request have a condition unless the name of a
filter's function is not understood, or the text of a column is asked for that
shows moments in a format without a spelling.  Filters are looked at in their
order, and the search only when no filter stands in the way.
-/

namespace DataGrid.Filter

open Sql

variable {context : Context} {column : Column} {filter : Filter}

/-- The format in which a column shows moments. -/
def Context.formatOf (context : Context) (column : Column) : String :=
  column.format.getD context.dateFormat

/-- A column shows moments in a format that the dialect refuses. -/
def Unspelled (context : Context) (column : Column) : Prop :=
  context.typeOf column = .timestamp ∧
    context.dialect.Refuses (context.formatOf column)

/-- A column has no text, because of the first specifier of its format that is
not one of the dialect's. -/
def TextFails (context : Context) (column : Column) (error : Error) : Prop :=
  context.typeOf column = .timestamp ∧
    ∃ fault, context.dialect.fault? (context.formatOf column) = some fault ∧
      error = .table (fault.cause (context.formatOf column))

theorem exists_textFails_iff :
    (∃ error, TextFails context column error) ↔ Unspelled context column := by
  rw [Unspelled, Dialect.refuses_iff]
  constructor
  · rintro ⟨error, moment, fault, refused, -⟩
    exact ⟨moment, fault, refused⟩
  · rintro ⟨moment, fault, refused⟩
    exact ⟨_, moment, fault, refused, rfl⟩

theorem textExpression_eq_error_iff (error : Error) :
    context.textExpression column = .error error ↔
      TextFails context column error := by
  unfold Context.textExpression TextFails
  by_cases moment : context.typeOf column = .timestamp
  · simp only [moment, if_true, true_and]
    exact Dialect.formatTimestamp_eq_error_iff _ _ _ error
  · simp [moment]

/-- Only numbers are normalized. -/
theorem map_typed_of_moment (moment : context.typeOf column = .timestamp)
    (value : FilterValue) : value.map (context.typed column) = value := by
  have typed_eq : context.typed column = id := by
    funext text
    simp [Context.typed, moment]
  cases value <;> simp [typed_eq, FilterValue.map]

/-- A filter asks for the text of a column: the column can be filtered, the
function is one on texts, and its value leaves something to ask. -/
def AsksTextOf (context : Context) (filter : Filter) (column : Column) : Prop :=
  context.columns.get? filter.column = some column ∧
    column.canFilter = true ∧
    ∃ function, FilterFunction.ofName? filter.function = some function ∧
      function.asksText = true ∧ ¬ AsksNothing function filter.value

/-- The errors of one filter.  A name that is not understood is an error
whatever column the filter is for. -/
inductive Offends (context : Context) (filter : Filter) : Error → Prop
  | name (unknown : filter.function.getD "" ∉ FilterFunction.names) :
      Offends context filter
        (.protocol (.unknownFilterFunction (filter.function.getD "")))
  | text {column : Column} {error : Error}
      (asks : AsksTextOf context filter column)
      (fails : TextFails context column error) : Offends context filter error

theorem exists_offends_iff :
    (∃ error, Offends context filter error) ↔
      filter.function.getD "" ∉ FilterFunction.names ∨
        ∃ column, AsksTextOf context filter column ∧
          Unspelled context column := by
  constructor
  · rintro ⟨error, unknown | ⟨asks, fails⟩⟩
    · exact .inl unknown
    · exact .inr ⟨_, asks, exists_textFails_iff.mp ⟨error, fails⟩⟩
  · rintro (unknown | ⟨column, asks, unspelled⟩)
    · exact ⟨_, .name unknown⟩
    · obtain ⟨error, fails⟩ := exists_textFails_iff.mpr unspelled
      exact ⟨error, .text asks fails⟩

theorem clause_eq_error_iff (filter : Filter) (error : Error) :
    clause context filter = .error error ↔ Offends context filter error := by
  unfold clause
  cases known : FilterFunction.ofName? filter.function with
  | none =>
      have unknown := (FilterFunction.ofName?_eq_none_iff _).mp known
      constructor
      · rintro ⟨⟩
        exact .name unknown
      · rintro (- | ⟨⟨-, -, function, understood, -⟩, -⟩)
        · rfl
        · rw [known] at understood
          cases understood
  | some function =>
      have understood : filter.function.getD "" ∈ FilterFunction.names := by
        by_contra unknown
        rw [(FilterFunction.ofName?_eq_none_iff _).mpr unknown] at known
        cases known
      cases found : (context.columns.get? filter.column).filter
          Column.canFilter with
      | none =>
          refine iff_of_false nofun ?_
          rintro (unknown | ⟨⟨present, filterable, -⟩, -⟩)
          · exact unknown understood
          · exact Option.filter_eq_none_iff.mp found _ present filterable
      | some column =>
          obtain ⟨present, filterable⟩ := Option.filter_eq_some_iff.mp found
          simp only [predicate_eq_error_iff, textExpression_eq_error_iff]
          -- The value has been normalized by now, but not for a moment.
          constructor
          · rintro ⟨asks, text, fails⟩
            rw [map_typed_of_moment fails.1] at asks
            exact .text ⟨present, filterable, function, known, text, asks⟩ fails
          · rintro (unknown | ⟨⟨named, -, other, same, text, asks⟩, fails⟩)
            · exact absurd understood unknown
            · obtain rfl := Option.some.inj (present.symm.trans named)
              obtain rfl := Option.some.inj (known.symm.trans same)
              rw [map_typed_of_moment fails.1]
              exact ⟨asks, text, fails⟩

/-- A column that a search looks at has no text. -/
def SearchFails (context : Context) (column : Column) (error : Error) : Prop :=
  column.canFilter = true ∧ TextFails context column error

theorem exists_searchFails_iff :
    (∃ error, SearchFails context column error) ↔
      column.canFilter = true ∧ Unspelled context column := by
  simp only [SearchFails, exists_and_left, exists_textFails_iff]

theorem searched_eq_error_iff (columns : List Column) (error : Error) :
    searched context columns = .error error ↔
      FirstFails (SearchFails context) columns error := by
  induction columns with
  | nil => simp [searched, not_firstFails_nil]
  | cons column rest ih =>
      rw [firstFails_cons_iff, ← ih, searched]
      by_cases filterable : column.canFilter = true
      · simp only [SearchFails, filterable, if_true, true_and,
          ← textExpression_eq_error_iff]
        cases context.textExpression column with
        | error other => simp
        | ok expression => cases searched context rest <;> simp
      · simp [SearchFails, filterable]

theorem searchCondition_eq_error_iff (search : String) (error : Error) :
    searchCondition context search = .error error ↔
      Text.words search ≠ [] ∧
        FirstFails (SearchFails context) context.columns error := by
  rw [← searched_eq_error_iff, searchCondition]
  cases Text.words search with
  | nil => simp
  | cons word rest => cases searched context context.columns <;> simp

theorem columnCondition_eq_error_iff (filters : List Filter) (error : Error) :
    columnCondition context filters = .error error ↔
      FirstFails (Offends context) filters error := by
  have failures : FirstFails (Offends context) filters error ↔
      clauses context filters = .error error := by
    simp only [clauses_eq_error_iff, clause_eq_error_iff]
  rw [failures, columnCondition]
  cases clauses context filters <;> simp

theorem exists_columnCondition_iff (filters : List Filter) :
    (∃ condition, columnCondition context filters = .ok condition) ↔
      ∀ filter ∈ filters, ∀ error, ¬ Offends context filter error := by
  have fails_or : (∃ condition, columnCondition context filters =
      .ok condition) ↔
        ¬ ∃ error, columnCondition context filters = .error error := by
    cases columnCondition context filters <;> simp
  rw [fails_or]
  simp only [columnCondition_eq_error_iff, exists_firstFails_iff, not_exists,
    not_and]

/-- The error of a request is that of the first filter that has one, and when
no filter has one, that of the first column that the search cannot look at. -/
theorem compile_eq_error_iff (filters : List Filter) (search : String)
    (error : Error) :
    compile context filters search = .error error ↔
      FirstFails (Offends context) filters error ∨
        (∀ filter ∈ filters, ∀ other, ¬ Offends context filter other) ∧
          Text.words search ≠ [] ∧
          FirstFails (SearchFails context) context.columns error := by
  rw [compile_eq, bind_eq_error_iff, columnCondition_eq_error_iff,
    ← exists_columnCondition_iff, ← searchCondition_eq_error_iff]
  cases columnCondition context filters <;>
    cases searchCondition context search <;> simp

/-- A request has no condition exactly when the name of a filter's function is
not understood, or a filter asks for the text of a column whose format is
refused, or there is something to search for and a column to search whose format
is refused.  The error is that of the first filter that has one; the search has
a say only when no filter has one. -/
theorem compile_fails_iff (context : Context) (filters : List Filter)
    (search : String) :
    ((∃ error, compile context filters search = .error error) ↔
      (∃ filter ∈ filters,
        filter.function.getD "" ∉ FilterFunction.names) ∨
      (∃ filter ∈ filters, ∃ column, AsksTextOf context filter column ∧
        Unspelled context column) ∨
      (Text.words search ≠ [] ∧ ∃ column ∈ context.columns,
        column.canFilter = true ∧ Unspelled context column)) ∧
    ∀ error, compile context filters search = .error error ↔
      FirstFails (Offends context) filters error ∨
        (∀ filter ∈ filters, ∀ other, ¬ Offends context filter other) ∧
          Text.words search ≠ [] ∧
          FirstFails (SearchFails context) context.columns error := by
  refine ⟨?_, compile_eq_error_iff filters search⟩
  have offended :
      (∃ filter ∈ filters, ∃ error, Offends context filter error) ↔
        (∃ filter ∈ filters,
          filter.function.getD "" ∉ FilterFunction.names) ∨
        ∃ filter ∈ filters, ∃ column, AsksTextOf context filter column ∧
          Unspelled context column := by
    simp only [exists_offends_iff, and_or_left, exists_or]
  have unoffended :
      (∀ filter ∈ filters, ∀ other, ¬ Offends context filter other) ↔
        ¬ ∃ filter ∈ filters, ∃ error, Offends context filter error := by
    simp only [not_exists, not_and]
  simp only [compile_eq_error_iff, exists_or, exists_and_left,
    exists_firstFails_iff, exists_searchFails_iff, unoffended]
  -- That no filter offends is a condition for which error there is, but not
  -- for there being one.
  rw [or_and_left, and_iff_right (Classical.em _), offended, or_assoc]

end DataGrid.Filter
