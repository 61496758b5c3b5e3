import DataGrid.Filter.Compile
import DataGrid.Proofs.Outcome
import DataGrid.Proofs.Sql.Sink

/-!
# The conditions that are written

What filters, a search and a selection ask is a fragment each, which does not
depend on what else is bound in the statement.  Writing a condition into a sink
is writing its fragment there, and a filter that is skipped leaves the sink as
it is.
-/

namespace DataGrid.Filter

open Sql

def textPiece (characters : List Char) : Fragment :=
  .ofValue (.text (String.ofList characters))

/-- The pattern of a text that occurs anywhere. -/
def anywhere (text : String) : Fragment :=
  textPiece ('%' :: escapeLike text.toList ++ ['%'])

/-- A comparison of an expression with the number at the front of a text. -/
def comparison (expression operator text : String) : Fragment :=
  [.text s!"{expression} {operator} ", .value (.real (leadingNumber text))]

/-- The comparison with a bound of a range, if the bound is given. -/
def side (expression operator text : String) : List Fragment :=
  if Text.allBlank text then [] else [comparison expression operator text]

def matching (context : Context) (column : Column) (pattern : List Char)
    (negate : Bool) : Except Error (Option Fragment) := do
  let expression ← context.textExpression column
  pure (some (context.dialect.like expression (textPiece pattern) negate))

/-- The condition that a function and a value put on a column, or none when
the value leaves nothing to ask. -/
def predicate (context : Context) (column : Column)
    (function : FilterFunction) (value : FilterValue) :
    Except Error (Option Fragment) :=
  let expression := context.source.resolve column
  match function with
  | .contains =>
      if Text.allBlank value.text then .ok none
      else
        matching context column ('%' :: wordsPattern value.text ++ ['%']) false
  | .equals =>
      match value with
      | .list [] => .ok none
      | .list texts => do
          let expression ← context.textExpression column
          let values := texts.map fun text => Fragment.ofValue (.text text)
          pure (some ((Fragment.join ", " values).between
            s!"{expression} IN (" ")"))
      | .scalar text =>
          matching context column (escapeLike text.toList) false
  | .notEquals =>
      matching context column (escapeLike value.text.toList) true
  | .startsWith =>
      matching context column (escapeLike value.text.toList ++ ['%']) false
  | .endsWith =>
      matching context column ('%' :: escapeLike value.text.toList) false
  | .greaterThan | .greaterThanOrEqualTo | .lessThan | .lessThanOrEqualTo =>
      if Text.allBlank value.text then .ok none
      else
        .ok (some (comparison expression ((operator? function).getD "")
          value.text))
  | .empty => .ok (some (.ofText s!"COALESCE({expression}, '') = ''"))
  | .notEmpty => .ok (some (.ofText s!"COALESCE({expression}, '') <> ''"))
  | .between =>
      match side expression ">=" (value.bound 0) ++
          side expression "<=" (value.bound 1) with
      | [] => .ok none
      | sides => .ok (some (Fragment.join " AND " sides))

/-- The condition of one filter.  A filter on a column that does not exist or
cannot be filtered asks nothing, but its function has to be one. -/
def clause (context : Context) (filter : Filter) :
    Except Error (Option Fragment) :=
  match FilterFunction.ofName? filter.function with
  | none =>
      .error (.protocol (.unknownFilterFunction (filter.function.getD "")))
  | some function =>
      match (context.columns.get? filter.column).filter Column.canFilter with
      | none => .ok none
      | some column =>
          predicate context column function
            (filter.value.map (context.typed column))

/-- The conditions of filters, those that ask nothing left out. -/
def clauses (context : Context) :
    List Filter → Except Error (List Fragment)
  | [] => .ok []
  | filter :: rest => do
      let first ← clause context filter
      let others ← clauses context rest
      pure (first.toList ++ others)

/-- Conditions that all have to hold, or the one that always does. -/
def allOf : List Fragment → Fragment
  | [] => .ofText "1=1"
  | conditions => (Fragment.join " AND " conditions).between "(" ")"

theorem allOf_cons (condition : Fragment) (rest : List Fragment) :
    allOf (condition :: rest) =
      (Fragment.join " AND " (condition :: rest)).between "(" ")" :=
  rfl

def columnCondition (context : Context) (filters : List Filter) :
    Except Error Fragment := do
  pure (allOf (← clauses context filters))

/-- The places at which a word may be found, any of which will do. -/
def wordCondition (context : Context) (columns : List (Column × String))
    (word : String) : Fragment :=
  let inColumns := columns.map fun (column, expression) =>
    context.dialect.like expression (anywhere (context.typed column word)) false
  let inFullText := context.fullText.map fun expression =>
    context.dialect.like (context.dialect.castToText expression)
      (anywhere word) false
  match inColumns ++ inFullText with
  | [] => .ofText "(1=0)"
  | places => (Fragment.join " OR " places).between "(" ")"

/-- The condition of a search: each of its words is found somewhere. -/
def searchCondition (context : Context) (search : String) :
    Except Error Fragment :=
  match Text.words search with
  | [] => .ok (.ofText "1=1")
  | words => do
      let columns ← searched context context.columns
      pure (allOf (words.map (wordCondition context columns)))

/-- The condition that a row is one of those with the given ids. -/
def selectionCondition (context : Context) (ids : List String) :
    Fragment :=
  match ids with
  | [] => .ofText "1=0"
  | ids =>
      let values := ids.map fun id => Fragment.ofValue (.ofRowId id)
      (Fragment.join ", " values).between
        s!"{idExpression context} IN (" ")"

/-- Work that writes a condition, or nothing where nothing is asked, whatever
has been bound in front of it.  It binds the values of the condition and nothing
else, and it fails when there is no condition. -/
def Writes (write : Writing (Option String))
    (condition : Except Error (Option Fragment)) : Prop :=
  ∀ sink, write.run sink = condition.map (Fragment.put? · sink)

variable {context : Context} {column : Column}

theorem writes_matching (pattern : List Char) (negate : Bool) :
    Writes (writeMatch context column pattern negate)
      (matching context column pattern negate) := by
  intro sink
  unfold writeMatch matching textPiece
  cases context.textExpression column with
  | error error => rfl
  | ok expression =>
      simp [Fragment.put?, Fragment.put_like, Except.map]

theorem run_writeComparison (expression operator text : String)
    (sink : Sink) :
    (writeComparison expression operator text).run sink =
      .ok ((comparison expression operator text).put sink) := by
  simp [writeComparison, comparison, toString]

theorem run_writeBound (expression operator text : String) (sink : Sink) :
    (writeBound expression operator text).run sink =
      .ok (Fragment.putAll (side expression operator text) sink) := by
  unfold writeBound side
  split
  · rfl
  · rw [StateT.run_bind, run_writeComparison]
    rfl

/-- What a function and a value ask of a column is what is written. -/
theorem writes_predicate (context : Context) (column : Column)
    (function : FilterFunction) (value : FilterValue) :
    Writes (writePredicate context column function value)
      (predicate context column function value) := by
  intro sink
  cases function with
  | contains =>
      simp only [writePredicate, predicate]
      split
      · rfl
      · exact writes_matching _ _ sink
  | equals =>
      cases value with
      | scalar text => exact writes_matching _ _ sink
      | list texts =>
          cases texts with
          | nil => rfl
          | cons text rest =>
              simp only [writePredicate, predicate]
              cases context.textExpression column with
              | error error => rfl
              | ok expression =>
                  simp [Fragment.put?, Fragment.put_join, Except.map,
                    Sink.bindList_eq_putAll, Function.comp_def, toString]
  | notEquals | startsWith | endsWith => exact writes_matching _ _ sink
  | greaterThan | greaterThanOrEqualTo | lessThan | lessThanOrEqualTo =>
      simp only [writePredicate, predicate]
      split
      · rfl
      · rw [StateT.run_map, run_writeComparison]
        rfl
  | empty | notEmpty =>
      simp [writePredicate, predicate, Fragment.put?, Fragment.ofText,
        Except.map]
  | between =>
      simp only [writePredicate, predicate, StateT.run_bind, run_writeBound,
        ok_bind]
      cases lower : Text.allBlank (value.bound 0) <;>
        cases upper : Text.allBlank (value.bound 1) <;>
          simp [side, lower, upper, Fragment.put?, Fragment.join, Text.join,
            Fragment.putAll, Except.map, String.append_assoc]

theorem writes_clause (context : Context) (filter : Filter) :
    Writes (writeClause context filter) (clause context filter) := by
  intro sink
  unfold writeClause clause
  cases FilterFunction.ofName? filter.function with
  | none => rfl
  | some function =>
      cases (context.columns.get? filter.column).filter Column.canFilter with
      | none => rfl
      | some column => exact writes_predicate _ _ _ _ sink

/-- A filter that is skipped leaves the sink as it is. -/
theorem sink_eq_of_run_writeClause {filter : Filter} {sink after : Sink}
    (skips : (writeClause context filter).run sink = .ok (none, after)) :
    after = sink := by
  rw [writes_clause, map_eq_ok_iff] at skips
  obtain ⟨condition, -, put⟩ := skips
  cases condition with
  | none => exact (congrArg Prod.snd put).symm
  | some fragment => cases put

theorem run_writeClauses (filters : List Filter) (sink : Sink) :
    (writeClauses context filters).run sink =
      (clauses context filters).map (Fragment.putAll · sink) := by
  induction filters generalizing sink with
  | nil => rfl
  | cons filter rest ih =>
      rw [writeClauses, clauses, StateT.run_bind, writes_clause context filter]
      cases clause context filter with
      | error error => rfl
      | ok condition =>
          simp only [Except.map, ok_bind, StateT.run_bind, ih]
          cases condition <;> cases clauses context rest <;> rfl

/-- The condition of filters is written as one statement. -/
theorem columnStatement_eq_map (filters : List Filter) :
    columnStatement context filters =
      (columnCondition context filters).map
        (·.statement context.style columnStem) := by
  rw [columnStatement, columnCondition, run_writeClauses]
  cases clauses context filters with
  | error error => rfl
  | ok conditions =>
      cases conditions with
      | nil =>
          exact congrArg Except.ok (Fragment.statement_ofText ..).symm
      | cons condition rest =>
          refine congrArg Except.ok ?_
          simp only [Fragment.statement_eq_put, allOf_cons,
            Fragment.put_between, Fragment.put_join]
          rfl

/-- Writing a text as a place binds its pattern. -/
theorem puts_writePlace (context : Context) (expression text : String) :
    Sink.Puts (writePlace context expression text)
      (context.dialect.like expression (anywhere text) false) := by
  intro sink
  rw [anywhere, textPiece, Fragment.put_like]
  rfl

/-- The placeholders of a word are handed out in the columns first, and then in
the expressions that are searched besides. -/
theorem puts_writeWord (columns : List (Column × String)) (word : String) :
    Sink.Puts (writeWord context columns word)
      (wordCondition context columns word) := by
  intro sink
  have inColumns := Sink.run_mapM_eq_putAll (fun searched : Column × String =>
    puts_writePlace context searched.2 (context.typed searched.1 word)) columns
  have inFullText := Sink.run_mapM_eq_putAll (fun expression =>
    puts_writePlace context (context.dialect.castToText expression) word)
    context.fullText
  simp only [writeWord, StateT.run_bind, Id.run_bind, inColumns, inFullText,
    wordCondition]
  generalize columns.map _ = first
  generalize context.fullText.map _ = second
  have both := Fragment.putAll_append first second sink
  calc (anyPlace ((Fragment.putAll first sink).1 ++
          (Fragment.putAll second (Fragment.putAll first sink).2).1),
        (Fragment.putAll second (Fragment.putAll first sink).2).2) =
      (anyPlace (Fragment.putAll (first ++ second) sink).1,
        (Fragment.putAll (first ++ second) sink).2) := by rw [both]
    _ = _ := by
      cases first ++ second with
      | nil => rfl
      | cons place rest =>
          simp only [Fragment.put_between, Fragment.put_join]
          rfl

theorem puts_writeWords (columns : List (Column × String)) (word : String)
    (rest : List String) :
    Sink.Puts (writeWords context columns (word :: rest))
      (allOf ((word :: rest).map (wordCondition context columns))) := by
  intro sink
  rw [writeWords, StateT.run_bind, Id.run_bind,
    Sink.run_mapM_eq_putAll (puts_writeWord columns), List.map_cons, allOf_cons,
    Fragment.put_between, Fragment.put_join]
  rfl

/-- The condition of a search is written as one statement. -/
theorem searchStatement_eq_map (search : String) :
    searchStatement context search =
      (searchCondition context search).map
        (·.statement context.style searchStem) := by
  unfold searchStatement searchCondition
  cases Text.words search with
  | nil =>
      rw [Except.map, Fragment.statement_ofText]
      rfl
  | cons word rest =>
      simp only [(puts_writeWords _ word rest).statement_eq]
      cases searched context context.columns <;> rfl

/-- The condition of a selection is written as one statement. -/
theorem compileSelection_eq_statement (ids : List String) :
    compileSelection context ids =
      (selectionCondition context ids).statement context.style idStem := by
  cases ids with
  | nil => exact (Fragment.statement_ofText _ _ _).symm
  | cons id rest =>
      have puts : Sink.Puts (writeSelection context (id :: rest))
          (selectionCondition context (id :: rest)) := by
        intro sink
        simp [writeSelection, selectionCondition, Fragment.put_join,
          Sink.bindList_eq_putAll, Function.comp_def, toString]
      exact puts.statement_eq context.style idStem

end DataGrid.Filter
