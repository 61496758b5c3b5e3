import DataGrid.Demo
import DataGrid.Proofs.Filter.Compile
import DataGrid.Proofs.Sql.Erasure

/-!
# The shape of a request

What a client sends decides which conditions are asked for, and no more: the
values themselves are bound and do not show in the text.  Of a value the text
depends on its shape, which is blankness where blank values ask nothing, and
the number of items where each of them gets a placeholder.
-/

namespace DataGrid.Filter

open Sql

/-- Two values of one function, as they are understood for a column, have the
same shape. -/
def SameShape : FilterFunction → FilterValue → FilterValue → Prop
  | .contains, value, other
  | .greaterThan, value, other
  | .greaterThanOrEqualTo, value, other
  | .lessThan, value, other
  | .lessThanOrEqualTo, value, other =>
      Text.allBlank value.text = Text.allBlank other.text
  | .equals, .scalar _, .scalar _ => True
  | .equals, .list texts, .list others => texts.length = others.length
  | .equals, _, _ => False
  | .between, value, other =>
      Text.allBlank (value.bound 0) = Text.allBlank (other.bound 0) ∧
        Text.allBlank (value.bound 1) = Text.allBlank (other.bound 1)
  | _, _, _ => True

instance (function : FilterFunction) (value other : FilterValue) :
    Decidable (SameShape function value other) :=
  match function, value, other with
  | .contains, value, other
  | .greaterThan, value, other
  | .greaterThanOrEqualTo, value, other
  | .lessThan, value, other
  | .lessThanOrEqualTo, value, other =>
      inferInstanceAs (Decidable
        (Text.allBlank value.text = Text.allBlank other.text))
  | .equals, .list texts, .list others =>
      inferInstanceAs (Decidable (texts.length = others.length))
  | .between, value, other =>
      inferInstanceAs (Decidable
        (Text.allBlank (value.bound 0) = Text.allBlank (other.bound 0) ∧
          Text.allBlank (value.bound 1) = Text.allBlank (other.bound 1)))
  | .equals, .scalar _, .list _ | .equals, .list _, .scalar _ =>
      inferInstanceAs (Decidable False)
  | .equals, .scalar _, .scalar _ | .notEquals, _, _ | .startsWith, _, _
  | .endsWith, _, _ | .empty, _, _ | .notEmpty, _, _ =>
      inferInstanceAs (Decidable True)

/-- Two filters ask the same of the same column, with values of the same
shape.  The shape is that of the values as the column's type reads them; where
there is no column to filter, any values will do. -/
structure Alike (context : Context) (filter other : Filter) : Prop where
  column_eq : filter.column = other.column
  function_eq : filter.function = other.function
  shape_eq : ∀ function column,
    FilterFunction.ofName? filter.function = some function →
    context.columns.get? filter.column = some column →
    column.canFilter = true →
    SameShape function (filter.value.map (context.typed column))
      (other.value.map (context.typed column))

theorem Alike.of_known {context : Context} {filter other : Filter}
    {function : FilterFunction} {column : Column}
    (column_eq : filter.column = other.column)
    (function_eq : filter.function = other.function)
    (known : FilterFunction.ofName? filter.function = some function)
    (present : context.columns.get? filter.column = some column)
    (shape_eq : SameShape function (filter.value.map (context.typed column))
      (other.value.map (context.typed column))) :
    Alike context filter other := by
  refine ⟨column_eq, function_eq, ?_⟩
  intro named found named_known found_present _
  obtain rfl := Option.some.inj (known.symm.trans named_known)
  obtain rfl := Option.some.inj (present.symm.trans found_present)
  exact shape_eq

variable (context : Context)

/-- A condition that may be left out, without its values. -/
def erasedCondition (condition : Except Error (Option Fragment)) :
    Except Error (Option Fragment) :=
  condition.map (Option.map Fragment.erased)

theorem matching_erased (column : Column) (pattern other : List Char)
    (negate : Bool) :
    erasedCondition (matching context column pattern negate) =
      erasedCondition (matching context column other negate) := by
  unfold matching
  cases context.textExpression column with
  | error error => rfl
  | ok expression =>
      simp only [ok_bind, pure_eq_ok, erasedCondition, Except.map,
        Option.map_some, Fragment.erased_like]
      rfl

theorem comparison_erased (expression operator text other : String) :
    (comparison expression operator text).erased =
      (comparison expression operator other).erased :=
  rfl

theorem placeholders_erased {α : Type} (value : α → Value) (items : List α) :
    (items.map fun item => Fragment.ofValue (value item)).map
        Fragment.erased =
      List.replicate items.length (Fragment.ofValue .null) := by
  rw [List.map_map, ← List.map_const']
  rfl

/-- A condition that a column is one of several texts depends only on their
number. -/
theorem membership_erased (column : Column) {texts others : List String}
    (length_eq : texts.length = others.length) :
    erasedCondition (predicate context column .equals (.list texts)) =
      erasedCondition (predicate context column .equals (.list others)) := by
  cases texts with
  | nil =>
      obtain rfl := List.eq_nil_of_length_eq_zero length_eq.symm
      rfl
  | cons text rest =>
      cases others with
      | nil => simp at length_eq
      | cons other otherRest =>
          simp only [predicate]
          cases context.textExpression column with
          | error error => rfl
          | ok expression =>
              simp only [ok_bind, pure_eq_ok, erasedCondition, Except.map,
                Option.map_some, Fragment.erased_between,
                Fragment.erased_join, placeholders_erased, length_eq]

/-- The condition of a function depends only on the shape of its value. -/
theorem predicate_erased (column : Column) {function : FilterFunction}
    {value other : FilterValue} (shape_eq : SameShape function value other) :
    erasedCondition (predicate context column function value) =
      erasedCondition (predicate context column function other) := by
  cases function with
  | contains =>
      have blank_eq : Text.allBlank value.text = Text.allBlank other.text :=
        shape_eq
      simp only [predicate, blank_eq]
      split
      · rfl
      · exact matching_erased context column _ _ _
  | equals =>
      cases value with
      | scalar text =>
          cases other with
          | scalar otherText => exact matching_erased context column _ _ _
          | list others => exact shape_eq.elim
      | list texts =>
          cases other with
          | scalar otherText => exact shape_eq.elim
          | list others => exact membership_erased context column shape_eq
  | notEquals => exact matching_erased context column _ _ _
  | startsWith => exact matching_erased context column _ _ _
  | endsWith => exact matching_erased context column _ _ _
  | greaterThan
  | greaterThanOrEqualTo
  | lessThan
  | lessThanOrEqualTo =>
      have blank_eq : Text.allBlank value.text = Text.allBlank other.text :=
        shape_eq
      simp only [predicate, blank_eq]
      split
      · rfl
      · exact congrArg (fun erased => Except.ok (some erased))
          (comparison_erased _ _ _ _)
  | empty => rfl
  | notEmpty => rfl
  | between =>
      obtain ⟨lower_eq, upper_eq⟩ := shape_eq
      simp only [predicate, side, lower_eq, upper_eq]
      cases Text.allBlank (other.bound 0) <;>
        cases Text.allBlank (other.bound 1) <;> rfl

/-- The condition of a filter depends on its column, its function, and the
shape of its value. -/
theorem clause_erased {filter other : Filter}
    (alike : Alike context filter other) :
    erasedCondition (clause context filter) =
      erasedCondition (clause context other) := by
  unfold clause
  rw [← alike.function_eq, ← alike.column_eq]
  split
  · rfl
  · rename_i function known
    split
    · rfl
    · rename_i column found
      obtain ⟨present, filterable⟩ := Option.filter_eq_some_iff.mp found
      exact predicate_erased context column
        (alike.shape_eq function column known present filterable)

def erasedConditions (conditions : Except Error (List Fragment)) :
    Except Error (List Fragment) :=
  conditions.map (List.map Fragment.erased)

theorem erasedConditions_clauses_cons (filter : Filter)
    (rest : List Filter) :
    erasedConditions (clauses context (filter :: rest)) = (do
      let first ← erasedCondition (clause context filter)
      let others ← erasedConditions (clauses context rest)
      pure (first.toList ++ others)) := by
  rw [clauses]
  cases clause context filter with
  | error error => rfl
  | ok first =>
      cases clauses context rest with
      | error error => rfl
      | ok others => cases first <;> rfl

theorem clauses_erased {filters others : List Filter}
    (alike : List.Forall₂ (Alike context) filters others) :
    erasedConditions (clauses context filters) =
      erasedConditions (clauses context others) := by
  induction alike with
  | nil => rfl
  | cons first_alike _ ih =>
      rw [erasedConditions_clauses_cons, erasedConditions_clauses_cons,
        clause_erased context first_alike, ih]

theorem allOf_erased (conditions : List Fragment) :
    (allOf conditions).erased = allOf (conditions.map Fragment.erased) := by
  cases conditions with
  | nil => rfl
  | cons first rest =>
      rw [allOf, Fragment.erased_between, Fragment.erased_join]
      · rfl
      · simp

theorem columnCondition_map_erased (filters : List Filter) :
    (columnCondition context filters).map Fragment.erased =
      (erasedConditions (clauses context filters)).map allOf := by
  rw [columnCondition]
  cases clauses context filters with
  | error error => rfl
  | ok conditions => exact congrArg Except.ok (allOf_erased conditions)

theorem columnCondition_erased {filters others : List Filter}
    (alike : List.Forall₂ (Alike context) filters others) :
    (columnCondition context filters).map Fragment.erased =
      (columnCondition context others).map Fragment.erased := by
  rw [columnCondition_map_erased, columnCondition_map_erased,
    clauses_erased context alike]

/-- Conditions one of which has to hold, or the one that never does. -/
def anyOf : List Fragment → Fragment
  | [] => .ofText "(1=0)"
  | conditions => (Fragment.join " OR " conditions).between "(" ")"

theorem anyOf_erased (conditions : List Fragment) :
    (anyOf conditions).erased = anyOf (conditions.map Fragment.erased) := by
  cases conditions with
  | nil => rfl
  | cons first rest =>
      rw [anyOf, Fragment.erased_between, Fragment.erased_join]
      · rfl
      · simp

/-- The matches of a word against a column and against every text that is
searched besides. -/
def wordPlaces (columns : List (Column × String)) (word : String) :
    List Fragment :=
  columns.map (fun searched => context.dialect.like searched.2
      (anywhere (context.typed searched.1 word)) false) ++
    context.fullText.map fun expression =>
      context.dialect.like (context.dialect.castToText expression)
        (anywhere word) false

theorem wordCondition_eq_anyOf (columns : List (Column × String))
    (word : String) :
    wordCondition context columns word =
      anyOf (wordPlaces context columns word) :=
  rfl

theorem wordPlaces_erased (columns : List (Column × String))
    (word other : String) :
    (wordPlaces context columns word).map Fragment.erased =
      (wordPlaces context columns other).map Fragment.erased := by
  have anywhere_erased (word : String) :
      (anywhere word).erased = .ofValue .null :=
    rfl
  simp only [wordPlaces, List.map_append, List.map_map, Function.comp_def,
    Fragment.erased_like, anywhere_erased]

theorem wordCondition_erased (columns : List (Column × String))
    (word other : String) :
    (wordCondition context columns word).erased =
      (wordCondition context columns other).erased := by
  rw [wordCondition_eq_anyOf, wordCondition_eq_anyOf, anyOf_erased,
    anyOf_erased, wordPlaces_erased context columns word other]

theorem wordConditions_erased (columns : List (Column × String))
    {words others : List String} (length_eq : words.length = others.length) :
    (words.map (wordCondition context columns)).map Fragment.erased =
      (others.map (wordCondition context columns)).map Fragment.erased := by
  have constant : Fragment.erased ∘ wordCondition context columns =
      fun _ => (wordCondition context columns "").erased :=
    funext fun word => wordCondition_erased context columns word ""
  rw [List.map_map, List.map_map, constant, List.map_const',
    List.map_const', length_eq]

theorem searchCondition_erased {search other : String}
    (length_eq : (Text.words search).length = (Text.words other).length) :
    (searchCondition context search).map Fragment.erased =
      (searchCondition context other).map Fragment.erased := by
  unfold searchCondition
  generalize Text.words search = words at length_eq ⊢
  generalize Text.words other = others at length_eq ⊢
  cases words with
  | nil =>
      obtain rfl := List.eq_nil_of_length_eq_zero length_eq.symm
      rfl
  | cons word rest =>
      cases others with
      | nil => simp at length_eq
      | cons otherWord otherRest =>
          simp only
          cases searched context context.columns with
          | error error => rfl
          | ok columns =>
              simp only [ok_bind, pure_eq_ok, Except.map, allOf_erased,
                wordConditions_erased context columns length_eq]

theorem selectionCondition_erased {ids others : List String}
    (length_eq : ids.length = others.length) :
    (selectionCondition context ids).erased =
      (selectionCondition context others).erased := by
  cases ids with
  | nil =>
      obtain rfl := List.eq_nil_of_length_eq_zero length_eq.symm
      rfl
  | cons id rest =>
      cases others with
      | nil => simp at length_eq
      | cons other otherRest =>
          simp only [selectionCondition, Fragment.erased_between,
            Fragment.erased_join, placeholders_erased, length_eq]

/-- What a statement shows of its values: its text, and how many there are. -/
def shown (statement : Statement) : String × Nat :=
  (statement.sql, statement.params.length)

theorem shown_compiled (style : Style)
    {column found otherColumn otherFound : Fragment}
    (column_eq : column.erased = otherColumn.erased)
    (found_eq : found.erased = otherFound.erased) :
    shown (compiled style column found) =
      shown (compiled style otherColumn otherFound) := by
  have length_shown (column found : Fragment) :
      (compiled style column found).params.length =
        column.values.length + found.values.length := by
    rw [compiled, Params.length_withNames (by simp), List.length_append]
  rw [shown, shown, length_shown, length_shown,
    Fragment.length_values_eq_of_erased_eq column_eq,
    Fragment.length_values_eq_of_erased_eq found_eq]
  simp only [compiled, Fragment.write_eq_of_erased_eq column_eq,
    Fragment.write_eq_of_erased_eq found_eq]

/-- Values that a client sends do not reach the text.  Two requests with alike
filters and as many words to search for are compiled to the same text with the
same number of values, or fail with the same error, and two selections of as
many ids are compiled to the same text. -/
theorem compile_eq_of_alike {filters others : List Filter}
    (alike : List.Forall₂ (Alike context) filters others)
    {search other : String}
    (words_eq : (Text.words search).length = (Text.words other).length)
    {ids otherIds : List String} (ids_eq : ids.length = otherIds.length) :
    (compile context filters search).map shown =
        (compile context others other).map shown ∧
      (compileSelection context ids).sql =
        (compileSelection context otherIds).sql := by
  constructor
  · rw [compile_eq, compile_eq]
    rcases (map_eq_map_iff _ _ _).mp (columnCondition_erased context alike)
      with ⟨error, first, second⟩ |
        ⟨column, otherColumn, first, second, column_eq⟩
    · rw [first, second]
      rfl
    rw [first, second, ok_bind, ok_bind]
    rcases (map_eq_map_iff _ _ _).mp (searchCondition_erased context words_eq)
      with ⟨error, first, second⟩ |
        ⟨found, otherFound, first, second, found_eq⟩
    · rw [first, second]
      rfl
    rw [first, second]
    exact congrArg Except.ok (shown_compiled context.style column_eq found_eq)
  · rw [compileSelection_eq_statement, compileSelection_eq_statement]
    exact Fragment.write_eq_of_erased_eq
      (selectionCondition_erased context ids_eq) context.style idStem

def peopleContext : Context where
  columns := Demo.columns
  source := (Demo.draft 50).source
  types := [("age", .number)]
  fullText := (Demo.draft 50).fullText
  dialect := .sqlite
  style := .named
  dateFormat := "%d.%m.%Y"
  timezone := "UTC"

/-- Two requests that differ in every value.  A lone point is no number, so the
ranges are both open above. -/
theorem people_compile_eq_of_alike :
    let filters : List Filter :=
      [⟨"name", some "contains", .scalar "Ann"⟩,
        ⟨"age", some "between", .list ["1.234,5", ""]⟩]
    let others : List Filter :=
      [⟨"name", some "contains", .scalar "') OR 1=1 --"⟩,
        ⟨"age", some "between", .list ["18", "."]⟩]
    List.Forall₂ (Alike peopleContext) filters others ∧
      (Text.words "ann berlin").length = (Text.words "x' 42").length ∧
      ["1"].length = ["2"].length ∧
      (compile peopleContext filters "ann berlin").map shown =
        (compile peopleContext others "x' 42").map shown ∧
      (compileSelection peopleContext ["1"]).sql =
        (compileSelection peopleContext ["2"]).sql := by
  intro filters others
  have names_alike : Alike peopleContext
      ⟨"name", some "contains", .scalar "Ann"⟩
      ⟨"name", some "contains", .scalar "') OR 1=1 --"⟩ :=
    .of_known rfl rfl rfl rfl (by decide +kernel)
  have ages_alike : Alike peopleContext
      ⟨"age", some "between", .list ["1.234,5", ""]⟩
      ⟨"age", some "between", .list ["18", "."]⟩ :=
    .of_known rfl rfl rfl rfl (by decide +kernel)
  have alike : List.Forall₂ (Alike peopleContext) filters others :=
    .cons names_alike (.cons ages_alike .nil)
  have words_eq : (Text.words "ann berlin").length =
      (Text.words "x' 42").length := by
    decide +kernel
  exact ⟨alike, words_eq, rfl,
    compile_eq_of_alike peopleContext alike words_eq rfl⟩

end DataGrid.Filter
