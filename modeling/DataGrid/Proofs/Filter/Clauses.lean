import DataGrid.Proofs.Filter.Condition

/-!
# What one filter asks

A filter asks nothing, or asks for the text of its column, or compares the
column as it is.  Only the second can fail, because only the text of a column
may be without a spelling.  Filters do not look at each other: the conditions of
some filters are those of the first ones followed by those of the rest.
-/

namespace DataGrid

namespace FilterFunction

/-- The names that are understood: those of the functions, the empty one, and a
second one of `between`. -/
def names : List String :=
  "" :: "betweenInclusive" :: all.map name

theorem ofName?_eq_none_iff (given : Option String) :
    ofName? given = none ↔ given.getD "" ∉ names := by
  unfold ofName?
  split
  · rename_i empty
    simp [empty, names]
  · rename_i inclusive
    simp [inclusive, names]
  · rename_i notEmpty notInclusive
    have given_ne : given.getD "" ≠ "" ∧ given.getD "" ≠ "betweenInclusive" :=
      ⟨notEmpty, notInclusive⟩
    simp [names, given_ne]

/-- The functions that look at a column as text. -/
def asksText : FilterFunction → Bool
  | contains | equals | notEquals | startsWith | endsWith => true
  | _ => false

end FilterFunction

namespace Filter

open Sql

/-- The value of a filter leaves nothing to ask. -/
def AsksNothing : FilterFunction → FilterValue → Prop
  | .contains, value
  | .greaterThan, value
  | .greaterThanOrEqualTo, value
  | .lessThan, value
  | .lessThanOrEqualTo, value => Text.allBlank value.text = true
  | .equals, value => value = .list []
  | .between, value =>
      Text.allBlank (value.bound 0) = true ∧
        Text.allBlank (value.bound 1) = true
  | _, _ => False

variable {context : Context} {column : Column} {function : FilterFunction}
  {value : FilterValue}

theorem predicate_of_asksNothing (nothing : AsksNothing function value) :
    predicate context column function value = .ok none := by
  cases function with
  | contains
  | greaterThan
  | greaterThanOrEqualTo
  | lessThan
  | lessThanOrEqualTo => exact if_pos nothing
  | equals =>
      obtain rfl : value = .list [] := nothing
      rfl
  | between =>
      obtain ⟨lower, upper⟩ := nothing
      simp [predicate, side, lower, upper]
  | notEquals | startsWith | endsWith | empty | notEmpty => exact nothing.elim

theorem matching_eq_map (pattern : List Char) (negate : Bool) :
    matching context column pattern negate =
      (context.textExpression column).map fun expression =>
        some (context.dialect.like expression (textPiece pattern) negate) := by
  rw [matching]
  cases context.textExpression column <;> rfl

/-- A function on the text of a column asks once it has that text. -/
theorem exists_predicate_of_asksText (context : Context) (column : Column)
    (asks : ¬ AsksNothing function value) (text : function.asksText = true) :
    ∃ write : String → Fragment,
      predicate context column function value =
        (context.textExpression column).map fun expression =>
          some (write expression) := by
  cases function with
  | contains => exact ⟨_, (if_neg asks).trans (matching_eq_map _ _)⟩
  | equals =>
      cases value with
      | scalar text => exact ⟨_, matching_eq_map _ _⟩
      | list texts =>
          cases texts with
          | nil => exact absurd rfl asks
          | cons text rest =>
              refine ⟨fun expression => (Fragment.join ", "
                ((text :: rest).map fun text => .ofValue (.text text))).between
                  s!"{expression} IN (" ")", ?_⟩
              simp only [predicate]
              cases context.textExpression column <;> rfl
  | notEquals => exact ⟨_, matching_eq_map _ _⟩
  | startsWith => exact ⟨_, matching_eq_map _ _⟩
  | endsWith => exact ⟨_, matching_eq_map _ _⟩
  | greaterThan
  | greaterThanOrEqualTo
  | lessThan
  | lessThanOrEqualTo
  | empty
  | notEmpty
  | between => cases text

theorem exists_predicate_of_compares (context : Context) (column : Column)
    (asks : ¬ AsksNothing function value)
    (compares : function.asksText = false) :
    ∃ fragment, predicate context column function value =
      .ok (some fragment) := by
  cases function with
  | contains | equals | notEquals | startsWith | endsWith => cases compares
  | greaterThan
  | greaterThanOrEqualTo
  | lessThan
  | lessThanOrEqualTo => exact ⟨_, if_neg asks⟩
  | empty | notEmpty => exact ⟨_, rfl⟩
  | between =>
      have given : ¬ (Text.allBlank (value.bound 0) = true ∧
          Text.allBlank (value.bound 1) = true) := asks
      cases lower : Text.allBlank (value.bound 0) <;>
        cases upper : Text.allBlank (value.bound 1) <;>
          simp_all [predicate, side]

theorem predicate_eq_none_iff :
    predicate context column function value = .ok none ↔
      AsksNothing function value := by
  refine ⟨fun none => ?_, predicate_of_asksNothing⟩
  by_contra asks
  cases text : function.asksText with
  | true =>
      obtain ⟨write, written⟩ :=
        exists_predicate_of_asksText context column asks text
      rw [none] at written
      cases shown : context.textExpression column <;>
        simp [shown, Except.map] at written
  | false =>
      obtain ⟨fragment, written⟩ :=
        exists_predicate_of_compares context column asks text
      simp [none] at written

/-- A filter that has something to ask fails when it needs the text of its
column and there is none. -/
theorem predicate_eq_error_iff (error : Error) :
    predicate context column function value = .error error ↔
      ¬ AsksNothing function value ∧ function.asksText = true ∧
        context.textExpression column = .error error := by
  by_cases asks : AsksNothing function value
  · simp [predicate_of_asksNothing asks, asks]
  cases text : function.asksText with
  | true =>
      obtain ⟨write, written⟩ :=
        exists_predicate_of_asksText context column asks text
      rw [written]
      cases context.textExpression column <;> simp [Except.map, asks]
  | false =>
      obtain ⟨fragment, written⟩ :=
        exists_predicate_of_compares context column asks text
      simp [written]

/-- A filter is skipped: its function is understood, and either there is no
column for it that can be filtered or its value leaves nothing to ask. -/
def Skipped (context : Context) (filter : Filter) : Prop :=
  ∃ function, FilterFunction.ofName? filter.function = some function ∧
    ∀ column, context.columns.get? filter.column = some column →
      column.canFilter = true →
        AsksNothing function (filter.value.map (context.typed column))

theorem clause_eq_none_iff (filter : Filter) :
    clause context filter = .ok none ↔ Skipped context filter := by
  unfold clause Skipped
  cases FilterFunction.ofName? filter.function with
  | none => simp
  | some function =>
      cases found : (context.columns.get? filter.column).filter
          Column.canFilter with
      | none =>
          have absent : ∀ column, context.columns.get? filter.column =
              some column → column.canFilter = false := by
            simpa [Option.filter_eq_none_iff] using found
          simp only [true_iff, Option.some.injEq, exists_eq_left']
          intro column present filterable
          rw [absent column present] at filterable
          cases filterable
      | some column =>
          obtain ⟨present, filterable⟩ := Option.filter_eq_some_iff.mp found
          simp [predicate_eq_none_iff, present, filterable]

theorem clauses_append (first second : List Filter) :
    clauses context (first ++ second) = (do
      let conditions ← clauses context first
      let others ← clauses context second
      pure (conditions ++ others)) := by
  induction first with
  | nil =>
      rw [List.nil_append, clauses]
      cases clauses context second <;> rfl
  | cons filter rest ih =>
      rw [List.cons_append, clauses, clauses, ih]
      cases clause context filter with
      | error error => rfl
      | ok condition =>
          cases clauses context rest with
          | error error => rfl
          | ok conditions =>
              cases clauses context second with
              | error error => rfl
              | ok others => simp

theorem clauses_cons_of_skipped {filter : Filter}
    (skipped : Skipped context filter) (rest : List Filter) :
    clauses context (filter :: rest) = clauses context rest := by
  rw [clauses, (clause_eq_none_iff filter).mpr skipped]
  cases clauses context rest <;> rfl

/-- The conditions of filters fail with the error of the first filter that
fails. -/
theorem clauses_eq_error_iff (filters : List Filter) (error : Error) :
    clauses context filters = .error error ↔
      FirstFails (fun filter error => clause context filter = .error error)
        filters error := by
  induction filters with
  | nil => simp [clauses, not_firstFails_nil]
  | cons filter rest ih =>
      rw [firstFails_cons_iff, ← ih, clauses]
      cases clause context filter with
      | error other => simp
      | ok condition => cases clauses context rest <;> simp

end Filter

end DataGrid
