import DataGrid.Proofs.Filter.Clauses
import DataGrid.Proofs.Filter.Shape
import DataGrid.Proofs.Sql.Placeholders

/-!
# Filters one after another

In the positional style a filter is written in one way, whatever filters stand
around it.  The condition of two lists of filters is therefore the conjunction
of their conditions, and a filter that is skipped may as well be left out.
-/

namespace DataGrid

open Sql

namespace Sql.Fragment

/-- A question mark does not tell which value it stands for. -/
theorem texts_positional (stem : String) (number other : Nat)
    (fragment : Fragment) :
    fragment.texts .positional stem number =
      fragment.texts .positional stem other := by
  induction fragment generalizing number other with
  | nil => rfl
  | cons piece rest ih =>
      cases piece with
      | text text => exact congrArg (text :: ·) (ih number other)
      | value value => exact congrArg ("?" :: ·) (ih (number + 1) (other + 1))

theorem write_append_positional (stem : String) (first second : Fragment) :
    (first ++ second).write .positional stem =
      first.write .positional stem ++ second.write .positional stem := by
  rw [write, texts_append, String.join_append, texts_positional stem _ 0 second]
  rfl

theorem write_text (style : Style) (stem text : String) (rest : Fragment) :
    write style stem (.text text :: rest) = text ++ rest.write style stem :=
  String.join_cons

/-- Two runs of fragments are joined by one more separator. -/
theorem join_append (separator : String) {first second : List Fragment}
    (given : first ≠ []) (more : second ≠ []) :
    join separator (first ++ second) =
      join separator first ++ .text separator :: join separator second := by
  induction first with
  | nil => exact absurd rfl given
  | cons fragment rest ih =>
      cases rest with
      | nil =>
          cases second with
          | nil => exact absurd rfl more
          | cons next others => rfl
      | cons next rest =>
          have joined := ih (List.cons_ne_nil next rest)
          simp only [List.cons_append, join] at joined ⊢
          rw [joined, List.append_assoc, List.cons_append]

end Sql.Fragment

namespace Filter

/-- The condition that asks nothing. -/
def unrestricted : Statement :=
  { sql := "1=1", params := .positional [] }

/-- The text between the parentheses of a condition. -/
def inside (condition : String) : String :=
  String.ofList condition.toList.tail.dropLast

/-- Two conditions that both have to hold: the conjuncts of the first and those
of the second in one pair of parentheses, with the values in the same order.  A
condition that asks nothing has no conjuncts. -/
def conjoined (first second : Statement) : Statement where
  sql :=
    if first.sql = unrestricted.sql then second.sql
    else if second.sql = unrestricted.sql then first.sql
    else "(" ++ (inside first.sql ++ " AND " ++ inside second.sql) ++ ")"
  params := .positional (first.params.values ++ second.params.values)

theorem inside_parenthesised (text : String) :
    inside ("(" ++ text ++ ")") = text := by
  simp [inside]

theorem parenthesised_ne_unrestricted (text : String) :
    "(" ++ text ++ ")" ≠ unrestricted.sql := by
  intro same
  have characters := congrArg String.toList same
  simp [unrestricted] at characters

theorem statement_allOf_nil :
    (allOf []).statement .positional columnStem = unrestricted := by
  decide +kernel

theorem values_allOf (conditions : List Fragment) :
    (allOf conditions).values = conditions.flatMap Fragment.values := by
  cases conditions with
  | nil => rfl
  | cons condition rest =>
      rw [allOf, Fragment.values_between, Fragment.values_join]
      simp

theorem statement_allOf {conditions : List Fragment}
    (given : conditions ≠ []) :
    (allOf conditions).statement .positional columnStem =
      { sql := "(" ++ (Fragment.join " AND " conditions).write .positional
          columnStem ++ ")"
        params := .positional (conditions.flatMap Fragment.values) } := by
  have parenthesised : allOf conditions =
      (Fragment.join " AND " conditions).between "(" ")" := by
    cases conditions with
    | nil => exact absurd rfl given
    | cons condition rest => rfl
  rw [Fragment.statement, Fragment.params, values_allOf, parenthesised,
    Fragment.write_between]
  rfl

/-- Conditions that all have to hold are the conjunction of the first and the
rest of them. -/
theorem statement_allOf_append (first second : List Fragment) :
    (allOf (first ++ second)).statement .positional columnStem =
      conjoined ((allOf first).statement .positional columnStem)
        ((allOf second).statement .positional columnStem) := by
  -- What stands for no conjuncts at all is not one of the conjuncts.
  by_cases none : first = []
  · subst none
    rw [statement_allOf_nil, List.nil_append]
    rfl
  by_cases noMore : second = []
  · subst noMore
    rw [statement_allOf_nil, List.append_nil, statement_allOf none, conjoined,
      if_neg (parenthesised_ne_unrestricted _)]
    simp [Params.values, unrestricted]
  · have given : first ++ second ≠ [] :=
      List.append_ne_nil_of_left_ne_nil none _
    rw [statement_allOf none, statement_allOf noMore, statement_allOf given,
      conjoined, if_neg (parenthesised_ne_unrestricted _),
      if_neg (parenthesised_ne_unrestricted _), inside_parenthesised,
      inside_parenthesised, Fragment.join_append _ none noMore,
      Fragment.write_append_positional, Fragment.write_text,
      List.flatMap_append, String.append_assoc]
    simp [Params.values, String.append_assoc]

variable {context : Context}

theorem columnStatement_eq (positional : context.style = .positional)
    (filters : List Filter) :
    columnStatement context filters =
      (clauses context filters).map fun conditions =>
        (allOf conditions).statement .positional columnStem := by
  rw [columnStatement_eq_map, columnCondition, positional]
  cases clauses context filters <;> rfl

/-- A single filter that asks something is one conjunct. -/
theorem columnStatement_singleton (positional : context.style = .positional)
    {filter : Filter} {fragment : Fragment}
    (asks : clause context filter = .ok (some fragment)) :
    columnStatement context [filter] =
      .ok { sql := "(" ++ fragment.write .positional columnStem ++ ")"
            params := .positional fragment.values } := by
  have only : clauses context [filter] = .ok [fragment] := by
    rw [clauses, asks]
    rfl
  rw [columnStatement_eq positional, only, Except.map,
    statement_allOf (List.cons_ne_nil fragment [])]
  simp [Fragment.join]

/-- In the positional style, no filters ask nothing; the condition of some
filters and further ones is the conjunction of their conditions, and fails as
the first of them that fails; a filter that asks something is one conjunct,
which is the same wherever the filter stands; and a filter that is skipped may
be left out. -/
theorem columnStatement_append (positional : context.style = .positional) :
    columnStatement context [] = .ok unrestricted ∧
      (∀ first second, columnStatement context (first ++ second) = (do
        let condition ← columnStatement context first
        let other ← columnStatement context second
        pure (conjoined condition other))) ∧
      (∀ filter fragment, clause context filter = .ok (some fragment) →
        columnStatement context [filter] =
          .ok { sql := "(" ++ fragment.write .positional columnStem ++ ")"
                params := .positional fragment.values }) ∧
      ∀ filter, Skipped context filter → ∀ first second,
        columnStatement context (first ++ filter :: second) =
          columnStatement context (first ++ second) := by
  refine ⟨?none, ?append, fun filter fragment asks =>
    columnStatement_singleton positional asks, ?skipped⟩
  case none =>
    rw [columnStatement_eq positional, clauses, Except.map,
      statement_allOf_nil]
  case append =>
    intro first second
    simp only [columnStatement_eq positional, clauses_append]
    cases clauses context first with
    | error error => rfl
    | ok conditions =>
        cases clauses context second with
        | error error => rfl
        | ok others =>
            exact congrArg Except.ok (statement_allOf_append conditions others)
  case skipped =>
    intro filter skipped first second
    rw [columnStatement_eq positional, columnStatement_eq positional,
      clauses_append, clauses_cons_of_skipped skipped, ← clauses_append]

/-- People by name and by age.  A lone point is no number, so that a filter by
it asks nothing. -/
theorem people_columnStatement_append :
    let context := { peopleContext with style := .positional }
    let named : Filter := ⟨"name", some "contains", .scalar "Ann"⟩
    let pointed : Filter := ⟨"age", some "greaterThan", .scalar "."⟩
    let grown : Filter := ⟨"age", some "lessThan", .scalar "1.000"⟩
    context.style = .positional ∧ Skipped context pointed ∧
      ∃ condition other, columnStatement context [named] = .ok condition ∧
        columnStatement context [grown] = .ok other ∧
        columnStatement context [named, pointed, grown] =
          .ok (conjoined condition other) ∧
        (conjoined condition other).sql =
          "(LOWER(CAST(p.name AS TEXT)) LIKE LOWER(?) ESCAPE '\\' AND " ++
            "p.age < ?)" ∧
        (conjoined condition other).params.values =
          [.text "%Ann%", .real (leadingNumber "1000")] := by
  intro context named pointed grown
  obtain ⟨-, append, asks, leave⟩ :=
    columnStatement_append (rfl : context.style = .positional)
  have skipped : Skipped context pointed :=
    (clause_eq_none_iff pointed).mp (by rfl)
  have condition_eq := asks named
    (Dialect.sqlite.like "CAST(p.name AS TEXT)" (anywhere "Ann") false)
    (by decide +kernel)
  have other_eq := asks grown (comparison "p.age" "<" "1000")
    (by decide +kernel)
  refine ⟨rfl, skipped, _, _, condition_eq, other_eq, ?_, by decide +kernel,
    by decide +kernel⟩
  rw [show [named, pointed, grown] = [named] ++ pointed :: [grown] from rfl,
    leave pointed skipped, append, condition_eq, other_eq]
  rfl

end Filter

end DataGrid
