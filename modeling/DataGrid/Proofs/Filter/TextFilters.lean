import DataGrid.Proofs.Filter.Groups

/-!
# What text filters ask

A filter on a text binds one pattern.  Whatever characters the value of the
filter is made of, the pattern matches the texts that the name of its function
promises: the value itself, a text that starts or ends with it, or one in which
its words occur one behind another.
-/

namespace DataGrid.Filter

open Sql

/-- A condition tests the text of a column against one bound pattern, which
matches the texts that have a property. -/
def TestsText (context : Context) (column : Column) (negate : Bool)
    (condition : Except Error (Option Fragment)) (property : String → Prop) :
    Prop :=
  ∃ pattern : String,
    condition = (do
      let expression ← context.textExpression column
      pure (some (Test.write context.dialect negate ⟨expression, pattern⟩))) ∧
    ∀ text, Like.matchesLowered pattern text = true ↔ property text

variable (context : Context) (column : Column)

theorem matching_testsText {pattern : List Char} (negate : Bool)
    {property : String → Prop}
    (found : ∀ text, Like.Matches (pattern.map Char.toLower)
      (Text.lowered text) ↔ property text) :
    TestsText context column negate (matching context column pattern negate)
      property := by
  refine ⟨String.ofList pattern, ?_, fun text => ?_⟩
  · simp only [← like_eq_write]
    rfl
  · rw [Like.matchesLowered_ofList_iff, found]

/-- The words of a value, escaped and with percent signs between them. -/
theorem wordsPattern_eq (text : String) :
    wordsPattern text = patternOf (Text.runs text.toList) := by
  have words_eq : Text.words (String.ofList
      (escapeLike (Text.trim text).toList)) =
        ((Text.runs text.toList).map escapeLike).map String.ofList := by
    rw [Text.words_eq, String.toList_ofList, runs_escapeLike, Text.runs_trim]
  have lists_eq (pieces : List (List Char)) :
      (pieces.map String.ofList).map String.toList = pieces := by
    simp [Function.comp_def]
  rw [wordsPattern, words_eq, Text.toList_join, lists_eq]
  rfl

theorem map_toLower_wordsPattern (text : String) :
    (wordsPattern text).map Char.toLower =
      patternOf ((Text.words text).map Text.lowered) := by
  have lowered_words : (Text.words text).map Text.lowered =
      (Text.runs text.toList).map (List.map Char.toLower) := by
    rw [Text.words_eq, List.map_map]
    refine List.map_congr_left fun run _ => ?_
    rw [Function.comp_apply, Text.lowered_eq, String.toList_ofList]
  rw [wordsPattern_eq, map_toLower_patternOf, lowered_words]

/-- What the text filters write asks, for every value and every text.  Case is
disregarded; wildcards, backslashes and white space in a value stand for
themselves, except that `contains` takes the words of a value one by one. -/
theorem predicate_testsText (value : FilterValue) :
    (∀ function value, Writes (writePredicate context column function value)
        (predicate context column function value)) ∧
      TestsText context column false
        (predicate context column .equals (.scalar value.text))
        (fun text => Text.lowered text = Text.lowered value.text) ∧
      TestsText context column true (predicate context column .notEquals value)
        (fun text => Text.lowered text = Text.lowered value.text) ∧
      TestsText context column false
        (predicate context column .startsWith value)
        (fun text => Text.lowered value.text <+: Text.lowered text) ∧
      TestsText context column false (predicate context column .endsWith value)
        (fun text => Text.lowered value.text <:+ Text.lowered text) ∧
      (Text.allBlank value.text = false →
        TestsText context column false
          (predicate context column .contains value)
          (fun text => Text.OccurInOrder
            ((Text.words value.text).map Text.lowered)
            (Text.lowered text))) := by
  refine ⟨writes_predicate context column, ?equals, ?notEquals, ?startsWith,
    ?endsWith, ?contains⟩
  case equals | notEquals =>
    refine matching_testsText context column _ fun text => ?_
    rw [map_toLower_escapeLike_toList, Like.matches_escapeLike_iff]
  case startsWith =>
    refine matching_testsText context column _ fun text => ?_
    rw [List.map_append, map_toLower_escapeLike_toList]
    exact Like.matches_escapeLike_many_iff _
  case endsWith =>
    refine matching_testsText context column _ fun text => ?_
    rw [List.map_cons, map_toLower_escapeLike_toList]
    exact Like.matches_many_escapeLike_iff _
  case contains =>
    intro filled
    rw [predicate, filled]
    refine matching_testsText context column _ fun text => ?_
    rw [List.map_append, List.map_cons, map_toLower_wordsPattern]
    exact Like.matches_patternOf_iff _ _

/-- A value with a percent sign, two blanks and a backslash at its end. -/
theorem people_name_testsText :
    let name : Column := { key := "name", header := "Name" }
    Text.allBlank "50%  off\\" = false ∧
      TestsText peopleContext name false
        (predicate peopleContext name .contains (.scalar "50%  off\\"))
        (fun text => Text.OccurInOrder ["50%".toList, "off\\".toList]
          (Text.lowered text)) := by
  intro name
  have filled : Text.allBlank "50%  off\\" = false := by decide +kernel
  have words_eq : (Text.words "50%  off\\").map Text.lowered =
      ["50%".toList, "off\\".toList] := by
    decide +kernel
  obtain ⟨_, _, _, _, _, contains⟩ :=
    predicate_testsText peopleContext name (.scalar "50%  off\\")
  rw [← words_eq]
  exact ⟨filled, contains filled⟩

end DataGrid.Filter
