import DataGrid.Proofs.Outcome
import DataGrid.Proofs.Sql.Sink
import DataGrid.Source.Statements
import DataGrid.Text.Ascii

/-!
# Row lookups

The statement that looks a row up shows which columns it compares, and the
values that it compares them with are the last ones bound.  So two lookups with
one statement ask for the same row.
-/

namespace DataGrid

theorem Text.blank_notMem_of_isIdentifier {name : String}
    (identifier : isIdentifier name = true) : ' ' ∉ name.toList := by
  unfold isIdentifier at identifier
  intro member
  split at identifier
  · simp at identifier
  · rename_i first rest characters
    rw [characters] at member
    simp only [Bool.and_eq_true, List.all_eq_true] at identifier
    rcases List.mem_cons.mp member with here | later
    · have starts := here ▸ identifier.1
      exact absurd starts (by decide)
    · have continues := identifier.2 ' ' later
      exact absurd continues (by decide)

/-- Texts that agree up to the first place of a character agree in front of it
and behind it. -/
theorem Text.eq_and_eq_of_append_cons_eq {character : Char}
    {first second rest otherRest : List Char} (notFirst : character ∉ first)
    (notSecond : character ∉ second)
    (equal : first ++ character :: rest = second ++ character :: otherRest) :
    first = second ∧ rest = otherRest := by
  induction first generalizing second with
  | nil =>
      cases second with
      | nil => exact ⟨rfl, (List.cons.inj equal).2⟩
      | cons head tail =>
          have same : character = head := (List.cons.inj equal).1
          exact absurd (same ▸ List.mem_cons_self) notSecond
  | cons head tail ih =>
      cases second with
      | nil =>
          have same : head = character := (List.cons.inj equal).1
          exact absurd (same ▸ List.mem_cons_self) notFirst
      | cons otherHead otherTail =>
          obtain ⟨same, tails⟩ := List.cons.inj equal
          simp only [List.mem_cons, not_or] at notFirst notSecond
          obtain ⟨tail_eq, rest_eq⟩ := ih notFirst.2 notSecond.2 tails
          exact ⟨by rw [same, tail_eq], rest_eq⟩

namespace Source

open Sql

/-- The condition that columns have given values, as a part of a statement. -/
def keyCondition (conditions : List (String × Value)) : Fragment :=
  match conditions with
  | [] => .ofText "1=0"
  | conditions => .join " AND " (conditions.map Fragment.equation)

theorem puts_writeKey (conditions : List (String × Value)) :
    Sink.Puts (writeKey conditions) (keyCondition conditions) := by
  intro sink
  rw [writeKey, StateT.run_bind, Id.run_bind, Sink.run_equations]
  cases conditions with
  | nil => rfl
  | cons condition rest =>
      rw [keyCondition, Fragment.put_join]
      · rfl
      · simp

/-- The texts of a condition on key columns. -/
def keyText (style : Style) (number : Nat)
    (conditions : List (String × Value)) : String :=
  String.join ((Fragment.join " AND "
    (conditions.map Fragment.equation)).texts style rowStem number)

/-- What stands behind the first condition on a key column. -/
def keyTail (style : Style) (number : Nat) :
    List (String × Value) → String
  | [] => ""
  | rest => " AND " ++ keyText style number rest

theorem keyText_cons (style : Style) (number : Nat)
    (condition : String × Value) (rest : List (String × Value)) :
    (keyText style number (condition :: rest)).toList =
      condition.1.toList ++ ' ' ::
        ("= ".toList ++ ((placeholder style rowStem number).toList ++
          (keyTail style (number + 1) rest).toList)) := by
  cases rest with
  | nil =>
      simp [keyText, keyTail, Fragment.equation, Fragment.join, Fragment.texts,
        toString]
  | cons next rest =>
      simp [keyText, keyTail, Fragment.equation, Fragment.join, Fragment.texts,
        toString]

/-- The condition of key columns can be read off its text and its values. -/
theorem keyText_injective (style : Style) {number : Nat}
    {conditions others : List (String × Value)}
    (identifiers : ∀ condition ∈ conditions,
      Text.isIdentifier condition.1 = true)
    (otherIdentifiers : ∀ condition ∈ others,
      Text.isIdentifier condition.1 = true)
    (values_eq : conditions.map Prod.snd = others.map Prod.snd)
    (text_eq : keyText style number conditions =
      keyText style number others) : conditions = others := by
  induction conditions generalizing others number with
  | nil => simpa using values_eq
  | cons condition rest ih =>
      cases others with
      | nil => simp at values_eq
      | cons other otherRest =>
          simp only [List.forall_mem_cons] at identifiers otherIdentifiers
          simp only [List.map_cons, List.cons.injEq] at values_eq
          have characters := congrArg String.toList text_eq
          rw [keyText_cons, keyText_cons] at characters
          -- An identifier has no blank in it and ends at the one behind it.
          obtain ⟨name_eq, behind⟩ := Text.eq_and_eq_of_append_cons_eq
            (Text.blank_notMem_of_isIdentifier identifiers.1)
            (Text.blank_notMem_of_isIdentifier otherIdentifiers.1) characters
          have tail_eq := List.append_cancel_left
            (List.append_cancel_left behind)
          have rest_eq : rest = otherRest := by
            cases rest with
            | nil => simpa using values_eq.2
            | cons next rest =>
                cases otherRest with
                | nil => simp at values_eq
                | cons otherNext otherRest =>
                    simp only [keyTail, String.toList_append] at tail_eq
                    exact ih identifiers.2 otherIdentifiers.2 values_eq.2
                      (String.toList_inj.mp
                        (List.append_cancel_left tail_eq))
          rw [rest_eq]
          exact congrArg (· :: otherRest)
            (Prod.ext (String.toList_inj.mp name_eq) values_eq.1)

/-- The text in front of the condition of a row lookup. -/
def lookupOpening (source : Source) : String :=
  s!"SELECT * FROM (SELECT {source.selected} FROM {source.from_} " ++
    s!"WHERE {source.condition}) AS form_rows WHERE "

theorem rowStatement_eq (source : Source)
    (conditions : List (String × Value)) :
    source.rowStatement conditions =
      source.statement
        (source.lookupOpening ++
          (keyCondition conditions).write source.style rowStem)
        ((keyCondition conditions).params source.style rowStem) := by
  have opened (condition : String) :
      (s!"SELECT * FROM (SELECT {source.selected} FROM {source.from_} " ++
        s!"WHERE {source.condition}) AS form_rows WHERE {condition}") =
      source.lookupOpening ++ condition :=
    String.append_assoc.symm
  rw [rowStatement, (puts_writeKey conditions).statement_eq, ← opened]
  rfl

theorem keyCondition_eq_join {conditions : List (String × Value)}
    (given : conditions ≠ []) :
    keyCondition conditions =
      Fragment.join " AND " (conditions.map Fragment.equation) := by
  cases conditions with
  | nil => exact absurd rfl given
  | cons condition rest => rfl

theorem values_keyCondition (conditions : List (String × Value)) :
    (keyCondition conditions).values = conditions.map Prod.snd := by
  cases conditions with
  | nil => rfl
  | cons condition rest =>
      rw [keyCondition_eq_join (List.cons_ne_nil _ _), Fragment.values_join,
        Fragment.flatMap_values_equation]

theorem rowStatement_spec {source : Source}
    {conditions : List (String × Value)} {statement : Statement}
    (given : conditions ≠ [])
    (stated : source.rowStatement conditions = .ok statement) :
    statement.sql = source.lookupOpening ++
        keyText source.style 0 conditions ∧
      statement.params.values =
        source.params.values ++ conditions.map Prod.snd := by
  rw [rowStatement_eq] at stated
  obtain ⟨params, appended, finished⟩ := (bind_eq_ok_iff _ _ _).mp stated
  obtain rfl := Except.ok.inj finished
  constructor
  · rw [keyCondition_eq_join given]
    rfl
  · rw [Params.values_append appended, Fragment.params,
      Params.values_number, values_keyCondition]

/-- Two lookups on identifiers that are one statement are one lookup. -/
theorem rowStatement_injective {source : Source}
    {conditions others : List (String × Value)} {statement : Statement}
    (given : conditions ≠ []) (otherGiven : others ≠ [])
    (identifiers : ∀ condition ∈ conditions,
      Text.isIdentifier condition.1 = true)
    (otherIdentifiers : ∀ condition ∈ others,
      Text.isIdentifier condition.1 = true)
    (stated : source.rowStatement conditions = .ok statement)
    (otherStated : source.rowStatement others = .ok statement) :
    conditions = others := by
  obtain ⟨sql_eq, values_eq⟩ := rowStatement_spec given stated
  obtain ⟨otherSql_eq, otherValues_eq⟩ :=
    rowStatement_spec otherGiven otherStated
  have text_eq : keyText source.style 0 conditions =
      keyText source.style 0 others := by
    rw [sql_eq] at otherSql_eq
    exact String.append_right_inj _ |>.mp otherSql_eq
  have keys_eq : conditions.map Prod.snd = others.map Prod.snd := by
    rw [values_eq] at otherValues_eq
    exact List.append_cancel_left otherValues_eq
  exact keyText_injective source.style identifiers otherIdentifiers keys_eq
    text_eq

end Source

end DataGrid
