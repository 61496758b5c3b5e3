import DataGrid.Proofs.Filter.Shape
import DataGrid.Proofs.Sql.Marks

/-!
# Question marks of conditions

The conditions of filters and of a search have a question mark for each of their
values, and otherwise only those of the expressions that the columns resolve to.
-/

namespace DataGrid.Filter

open Sql

/-- A column is brought into conditions without a question mark. -/
structure Context.Unmarked (context : Context) (column : Column) : Prop where
  resolved : markCount (context.source.resolve column) = 0
  shown : ∀ expression, context.textExpression column = .ok expression →
    markCount expression = 0

variable {context : Context} {column : Column}

theorem markCount_textPiece (characters : List Char) :
    (textPiece characters).markCount = 0 :=
  rfl

theorem markCount_comparison {expression operator : String}
    (expression_plain : markCount expression = 0)
    (operator_plain : markCount operator = 0) (text : String) :
    (comparison expression operator text).markCount = 0 := by
  have blank : markCount " " = 0 := by decide
  simp [comparison, expression_plain, operator_plain, blank]

theorem markCount_matching (unmarked : context.Unmarked column)
    {pattern : List Char} {negate : Bool} {fragment : Fragment}
    (matches_eq : matching context column pattern negate =
      .ok (some fragment)) : fragment.markCount = 0 := by
  obtain ⟨expression, shown, matches_eq⟩ :=
    (bind_eq_ok_iff _ _ _).mp matches_eq
  obtain rfl := Option.some.inj (Except.ok.inj matches_eq)
  rw [Dialect.markCount_like, unmarked.shown expression shown,
    markCount_textPiece]

theorem markCount_membership (unmarked : context.Unmarked column)
    {text : String} {rest : List String} {fragment : Fragment}
    (asks : predicate context column .equals (.list (text :: rest)) =
      .ok (some fragment)) : fragment.markCount = 0 := by
  obtain ⟨expression, shown, asks⟩ := (bind_eq_ok_iff _ _ _).mp asks
  obtain rfl := Option.some.inj (Except.ok.inj asks)
  have opening : markCount " IN (" = 0 := by decide
  have closing : markCount ")" = 0 := by decide
  rw [Fragment.markCount_between, Fragment.markCount_join (by decide)]
  · simp [unmarked.shown expression shown, opening, closing]
  · intro placeholder member
    obtain ⟨_, -, rfl⟩ := List.mem_map.mp member
    rfl

theorem markCount_emptyTest (expression : String) :
    (Fragment.ofText s!"COALESCE({expression}, '') = ''").markCount =
      markCount expression := by
  have literals : markCount "COALESCE(" = 0 ∧ markCount ", '') = ''" = 0 := by
    decide
  simp [Fragment.ofText, literals]

/-- The condition of a function on a column without question marks has none in
its text. -/
theorem markCount_predicate (unmarked : context.Unmarked column)
    {function : FilterFunction} {value : FilterValue} {fragment : Fragment}
    (asks : predicate context column function value = .ok (some fragment)) :
    fragment.markCount = 0 := by
  cases function with
  | contains =>
      simp only [predicate] at asks
      split at asks
      · cases asks
      · exact markCount_matching unmarked asks
  | equals =>
      cases value with
      | scalar text => exact markCount_matching unmarked asks
      | list texts =>
          cases texts with
          | nil => cases asks
          | cons text rest => exact markCount_membership unmarked asks
  | notEquals => exact markCount_matching unmarked asks
  | startsWith => exact markCount_matching unmarked asks
  | endsWith => exact markCount_matching unmarked asks
  | greaterThan
  | greaterThanOrEqualTo
  | lessThan
  | lessThanOrEqualTo =>
      simp only [predicate] at asks
      split at asks
      · cases asks
      · obtain rfl := Option.some.inj (Except.ok.inj asks)
        exact markCount_comparison unmarked.resolved (by decide) _
  | empty =>
      obtain rfl := Option.some.inj (Except.ok.inj asks)
      rw [markCount_emptyTest, unmarked.resolved]
  | notEmpty =>
      obtain rfl := Option.some.inj (Except.ok.inj asks)
      simp only [Fragment.ofText, Fragment.markCount_text, markCount_append,
        markCount_toString, unmarked.resolved]
      decide
  | between =>
      have lower := markCount_comparison unmarked.resolved
        (by decide : markCount ">=" = 0) (value.bound 0)
      have upper := markCount_comparison unmarked.resolved
        (by decide : markCount "<=" = 0) (value.bound 1)
      simp only [predicate, side] at asks
      split at asks
      · cases asks
      · obtain rfl := Option.some.inj (Except.ok.inj asks)
        refine Fragment.markCount_join (by decide) ?_
        cases Text.allBlank (value.bound 0) <;>
          cases Text.allBlank (value.bound 1) <;> simp [lower, upper]

/-- No column that can be filtered brings question marks along. -/
def Context.FiltersUnmarked (context : Context) : Prop :=
  ∀ column ∈ context.columns, column.canFilter = true →
    context.Unmarked column

theorem markCount_clause (unmarked : context.FiltersUnmarked) {filter : Filter}
    {fragment : Fragment}
    (asks : clause context filter = .ok (some fragment)) :
    fragment.markCount = 0 := by
  unfold clause at asks
  split at asks
  · cases asks
  split at asks
  · cases asks
  · rename_i column found
    obtain ⟨present, filterable⟩ := Option.filter_eq_some_iff.mp found
    have member := List.mem_of_find?_eq_some present
    exact markCount_predicate (unmarked column member filterable) asks

theorem markCount_clauses (unmarked : context.FiltersUnmarked)
    {filters : List Filter} {fragments : List Fragment}
    (asks : clauses context filters = .ok fragments) :
    ∀ fragment ∈ fragments, fragment.markCount = 0 := by
  induction filters generalizing fragments with
  | nil =>
      obtain rfl := Except.ok.inj asks
      exact fun _ impossible => absurd impossible List.not_mem_nil
  | cons filter rest ih =>
      obtain ⟨first, here, asks⟩ := (bind_eq_ok_iff _ _ _).mp asks
      obtain ⟨others, later, asks⟩ := (bind_eq_ok_iff _ _ _).mp asks
      obtain rfl := Except.ok.inj asks
      intro fragment member
      rcases List.mem_append.mp member with inFirst | inOthers
      · obtain rfl := Option.mem_toList.mp inFirst
        exact markCount_clause unmarked here
      · exact ih later fragment inOthers

/-- Conditions without question marks are put together without any. -/
theorem markCount_parenthesised {separator : String}
    (separator_plain : markCount separator = 0) {conditions : List Fragment}
    (plain : ∀ condition ∈ conditions, condition.markCount = 0) :
    ((Fragment.join separator conditions).between "(" ")").markCount = 0 := by
  rw [Fragment.markCount_between, Fragment.markCount_join separator_plain plain]
  decide

theorem markCount_allOf {conditions : List Fragment}
    (plain : ∀ condition ∈ conditions, condition.markCount = 0) :
    (allOf conditions).markCount = 0 := by
  unfold allOf
  split
  · decide
  · exact markCount_parenthesised (by decide) plain

theorem markCount_anyOf {conditions : List Fragment}
    (plain : ∀ condition ∈ conditions, condition.markCount = 0) :
    (anyOf conditions).markCount = 0 := by
  unfold anyOf
  split
  · decide
  · exact markCount_parenthesised (by decide) plain

theorem markCount_searched {columns : List Column}
    (unmarked : ∀ column ∈ columns, column.canFilter = true →
      context.Unmarked column) {found : List (Column × String)}
    (searches : searched context columns = .ok found) :
    ∀ item ∈ found, markCount item.2 = 0 := by
  intro item member
  obtain ⟨column, among, -, shown⟩ :=
    exists_mem_of_forall₂ (forall₂_searched searches) member
  obtain ⟨present, filterable⟩ := List.mem_filter.mp among
  exact (unmarked column present filterable).shown item.2 shown

theorem markCount_wordCondition {columns : List (Column × String)}
    (columns_plain : ∀ item ∈ columns, markCount item.2 = 0)
    (fullText_plain : ∀ expression ∈ context.fullText,
      markCount expression = 0) (word : String) :
    (wordCondition context columns word).markCount = 0 := by
  rw [wordCondition_eq_anyOf]
  refine markCount_anyOf fun place member => ?_
  rcases List.mem_append.mp member with inColumns | inFullText
  · obtain ⟨item, among, rfl⟩ := List.mem_map.mp inColumns
    rw [Dialect.markCount_like, columns_plain item among]
    rfl
  · obtain ⟨expression, among, rfl⟩ := List.mem_map.mp inFullText
    rw [Dialect.markCount_like, Dialect.markCount_castToText,
      fullText_plain expression among]
    rfl

theorem markCount_searchCondition (unmarked : context.FiltersUnmarked)
    (fullText_plain : ∀ expression ∈ context.fullText,
      markCount expression = 0) {search : String} {fragment : Fragment}
    (asks : searchCondition context search = .ok fragment) :
    fragment.markCount = 0 := by
  unfold searchCondition at asks
  split at asks
  · obtain rfl := Except.ok.inj asks
    decide
  · rename_i words _
    obtain ⟨columns, searches, asks⟩ := (bind_eq_ok_iff _ _ _).mp asks
    obtain rfl := Except.ok.inj asks
    refine markCount_allOf fun condition member => ?_
    obtain ⟨word, -, rfl⟩ := List.mem_map.mp member
    exact markCount_wordCondition (markCount_searched unmarked searches)
      fullText_plain word

/-- A compiled condition has a question mark for each value, besides those in
the texts of its parts. -/
theorem markCount_compiled (column found : Fragment) :
    markCount (compiled .positional column found).sql =
      (compiled .positional column found).params.length +
        (column.markCount + found.markCount) := by
  have literals : markCount "(" = 0 ∧ markCount " AND " = 0 ∧
      markCount ")" = 0 := by
    decide
  obtain ⟨opening, separator, closing⟩ := literals
  simp only [compiled, markCount_append, markCount_toString,
    Fragment.markCount_write, opening, separator, closing, Params.withNames,
    Params.length, List.length_append]
  omega

end DataGrid.Filter
