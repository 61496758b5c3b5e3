import DataGrid.Proofs.Filter.Shape
import DataGrid.Proofs.Sql.Like

/-!
# Groups of tests

A condition may be made of groups of tests, of which every group has to have one
that holds.  Written down, such a condition can be read in one way only: it
shows in a fragment where a test ends, and so where a group of them ends.
-/

namespace DataGrid.Filter

open Sql

/-- A test of the text of an expression against a bound pattern. -/
structure Test where
  expression : String
  pattern : String
deriving DecidableEq, Repr

namespace Test

/-- A test, or its negation, as SQL. -/
def write (dialect : Dialect) (negate : Bool) (test : Test) : Fragment :=
  let like := if negate then "NOT LIKE" else "LIKE"
  let ilike := if negate then "NOT ILIKE" else "ILIKE"
  let pattern := Piece.value (.text test.pattern)
  match dialect with
  | .sqlite =>
      [.text ("LOWER(" ++ test.expression ++ ") " ++ like ++ " LOWER("),
        pattern, .text ") ESCAPE '\\'"]
  | .postgres =>
      [.text (test.expression ++ " " ++ ilike ++ " "), pattern,
        .text " ESCAPE '\\'"]
  | .mysql =>
      [.text ("LOWER(" ++ test.expression ++ ") " ++ like ++ " LOWER("),
        pattern, .text ") ESCAPE '\\\\'"]

/-- A test holds when its pattern matches the text of its expression. -/
def holds (textOf : String → String) (test : Test) : Bool :=
  Like.matchesLowered test.pattern (textOf test.expression)

end Test

theorem like_eq_write (dialect : Dialect) (expression pattern : String)
    (negate : Bool) :
    dialect.like expression (.ofValue (.text pattern)) negate =
      Test.write dialect negate ⟨expression, pattern⟩ := by
  cases dialect <;> cases negate <;>
    simp [Dialect.like, Test.write, Fragment.between, Fragment.ofValue,
      toString, ← String.toList_inj]

/-- Items in parentheses with a text between neighbours, or another text when
there are none. -/
def parenthesised {α : Type} (empty separator : String)
    (write : α → Fragment) : List α → Fragment
  | [] => [.text empty]
  | item :: items =>
      .text "(" ::
        Fragment.join separator ((item :: items).map write) ++ [.text ")"]

/-- The condition that one of some tests holds. -/
def writeAny (dialect : Dialect) : List Test → Fragment :=
  parenthesised "(1=0)" " OR " (Test.write dialect false)

/-- The condition that every one of some groups has a test that holds. -/
def writeGroups (dialect : Dialect) : List (List Test) → Fragment :=
  parenthesised "1=1" " AND " (writeAny dialect)

theorem writeAny_eq_anyOf (dialect : Dialect) (tests : List Test) :
    writeAny dialect tests =
      anyOf (tests.map (Test.write dialect false)) := by
  cases tests <;> rfl

theorem writeGroups_eq_allOf (dialect : Dialect) (groups : List (List Test)) :
    writeGroups dialect groups = allOf (groups.map (writeAny dialect)) := by
  cases groups <;> rfl

theorem values_test (dialect : Dialect) (negate : Bool) (test : Test) :
    (test.write dialect negate).values = [.text test.pattern] := by
  cases dialect <;> rfl

theorem values_parenthesised {α : Type} (empty separator : String)
    (write : α → Fragment) (items : List α) :
    (parenthesised empty separator write items).values =
      items.flatMap fun item => (write item).values := by
  cases items with
  | nil => rfl
  | cons item items =>
      simp [parenthesised, Fragment.values_join, List.flatMap_map]

/-- The patterns of tests are bound in the order of the tests. -/
theorem values_writeGroups (dialect : Dialect) (groups : List (List Test)) :
    (writeGroups dialect groups).values =
      groups.flatten.map fun test => .text test.pattern := by
  have values_group (tests : List Test) : (writeAny dialect tests).values =
      tests.map fun test => .text test.pattern := by
    simp only [writeAny, values_parenthesised, values_test]
    exact List.map_eq_flatMap.symm
  simp only [writeGroups, values_parenthesised, values_group]
  rw [List.map_flatten, ← List.flatMap_def]

/-- What begins with a written item begins with no other, and has one rest. -/
def Cancels {α : Type} (write : α → Fragment) : Prop :=
  ∀ first second rest others, write first ++ rest = write second ++ others →
    first = second ∧ rest = others

/-- Items with a separator before each, and a text that closes them. -/
def writeBehind {α : Type} (separator closing : String) (write : α → Fragment) :
    List α → Fragment
  | [] => [.text closing]
  | item :: items =>
      .text separator ::
        (write item ++ writeBehind separator closing write items)

theorem join_append_eq {α : Type} (separator closing : String)
    (write : α → Fragment) (item : α) (items : List α) :
    Fragment.join separator ((item :: items).map write) ++ [.text closing] =
      write item ++ writeBehind separator closing write items := by
  induction items generalizing item with
  | nil => rfl
  | cons next items ih =>
      rw [writeBehind, ← ih next]
      simp [Fragment.join]

/-- The items end where the closing text stands, which is no separator. -/
theorem Cancels.behind {α : Type} {write : α → Fragment}
    (cancels : Cancels write) {separator closing : String}
    (distinct : separator ≠ closing) :
    Cancels (writeBehind separator closing write) := by
  intro first
  induction first with
  | nil =>
      intro second rest others same
      cases second with
      | nil => simpa [writeBehind] using same
      | cons item items => simp [writeBehind, distinct.symm] at same
  | cons item items ih =>
      intro second rest others same
      cases second with
      | nil => simp [writeBehind, distinct] at same
      | cons other otherItems =>
          simp only [writeBehind, List.cons_append, List.append_assoc,
            List.cons.injEq, true_and] at same
          obtain ⟨rfl, items_eq⟩ := cancels _ _ _ _ same
          obtain ⟨rfl, rest_eq⟩ := ih _ _ _ items_eq
          exact ⟨rfl, rest_eq⟩

theorem Cancels.parenthesised {α : Type} {write : α → Fragment}
    (cancels : Cancels write) {empty separator : String}
    (marked : empty ≠ "(") (distinct : separator ≠ ")") :
    Cancels (parenthesised empty separator write) := by
  have cons_eq (item : α) (items : List α) :
      Filter.parenthesised empty separator write (item :: items) =
        .text "(" :: (write item ++ writeBehind separator ")" write items) := by
    rw [← join_append_eq]
    rfl
  intro first second rest others same
  rcases first with _ | ⟨item, items⟩ <;>
    rcases second with _ | ⟨other, otherItems⟩
  · simpa [Filter.parenthesised] using same
  · rw [cons_eq] at same
    simp [Filter.parenthesised, marked] at same
  · rw [cons_eq] at same
    simp [Filter.parenthesised, marked.symm] at same
  · simp only [cons_eq, List.cons_append, List.append_assoc, List.cons.injEq,
      true_and] at same
    obtain ⟨rfl, items_eq⟩ := cancels _ _ _ _ same
    obtain ⟨rfl, rest_eq⟩ := cancels.behind distinct _ _ _ _ items_eq
    exact ⟨rfl, rest_eq⟩

end DataGrid.Filter
