import DataGrid.Proofs.Filter.Groups

/-!
# What a search asks

A search is compiled to a group of tests for each of its words, with one test
for each place that is searched.  The condition holds exactly when every word,
as it is understood at a place, occurs in the text of one of the places.
-/

namespace DataGrid.Filter

open Sql

/-- A place that a search looks at. -/
inductive Place
  | column (column : Column)
  | fullText (expression : String)

namespace Place

def expression (context : Context) : Place → Except Error String
  | .column searched => context.textExpression searched
  | .fullText searched => .ok (context.dialect.castToText searched)

/-- A word as it is understood at a place. -/
def typed (context : Context) : Place → String → String
  | .column searched => context.typed searched
  | .fullText _ => id

/-- A word occurs in the text of a place, without regard to case. -/
def Shows (context : Context) (textOf : String → String) (word : String)
    (place : Place) : Prop :=
  ∃ expression, place.expression context = .ok expression ∧
    Text.lowered (place.typed context word) <:+:
      Text.lowered (textOf expression)

end Place

variable (context : Context)

/-- The places that a search looks at: the columns that can be filtered, in
their order, and the texts that are searched besides. -/
def places : List Place :=
  (context.columns.filter Column.canFilter).map .column ++
    context.fullText.map .fullText

theorem matchesLowered_anywherePattern_iff (part text : String) :
    Like.matchesLowered (anywherePattern part) text = true ↔
      Text.lowered part <:+: Text.lowered text := by
  rw [anywherePattern, Like.matchesLowered_ofList_iff, List.map_append,
    List.map_cons, map_toLower_escapeLike_toList]
  exact Like.matches_anywhere_iff _ _

/-- A test looks for a word at a place. -/
def LooksFor (word : String) (place : Place) (test : Test) : Prop :=
  place.expression context = .ok test.expression ∧
    test.pattern = anywherePattern (place.typed context word)

theorem LooksFor.holds_iff {word : String} {place : Place} {test : Test}
    (looks : LooksFor context word place test) (textOf : String → String) :
    test.holds textOf = true ↔ place.Shows context textOf word := by
  obtain ⟨expression_eq, pattern_eq⟩ := looks
  rw [Test.holds, pattern_eq, matchesLowered_anywherePattern_iff, Place.Shows]
  simp [expression_eq]

theorem forall_exists_expression {word : String} {places : List Place}
    {tests : List Test}
    (looks : List.Forall₂ (LooksFor context word) places tests) :
    ∀ place ∈ places,
      ∃ expression, place.expression context = .ok expression := by
  induction looks with
  | nil => simp
  | cons first _ ih => exact List.forall_mem_cons.mpr ⟨⟨_, first.1⟩, ih⟩

/-- The tests of a word, one for each place. -/
def wordTests (found : List (Column × String)) (word : String) :
    List Test :=
  found.map (fun searched =>
      ⟨searched.2, anywherePattern (context.typed searched.1 word)⟩) ++
    context.fullText.map fun expression =>
      ⟨context.dialect.castToText expression, anywherePattern word⟩

theorem wordCondition_eq (found : List (Column × String)) (word : String) :
    wordCondition context found word =
      writeAny context.dialect (wordTests context found word) := by
  rw [wordCondition_eq_anyOf, writeAny_eq_anyOf, wordPlaces, wordTests]
  simp only [List.map_append, List.map_map, Function.comp_def, ← like_eq_write]
  rfl

theorem forall₂_wordTests {found : List (Column × String)}
    (succeeds : searched context context.columns = .ok found)
    (word : String) :
    List.Forall₂ (LooksFor context word) (places context)
      (wordTests context found word) := by
  refine List.rel_append ?_ ?_
  · rw [List.forall₂_map_left_iff, List.forall₂_map_right_iff]
    refine (forall₂_searched succeeds).imp ?_
    rintro column ⟨_, expression⟩ ⟨rfl, text_eq⟩
    exact ⟨text_eq, rfl⟩
  · rw [List.forall₂_map_left_iff, List.forall₂_map_right_iff,
      List.forall₂_same]
    intro expression _
    exact ⟨rfl, rfl⟩

/-- A blank search is compiled whatever the columns are. -/
theorem searchCondition_of_blank {search : String}
    (blank : Text.allBlank search = true) :
    searchCondition context search = .ok (writeGroups context.dialect []) := by
  rw [searchCondition, (Text.words_eq_nil_iff search).mpr blank]
  rfl

/-- The condition of a search looks for every word at every place. -/
theorem exists_groups {search : String} {condition : Fragment}
    (compiled : searchCondition context search = .ok condition) :
    ∃ groups, condition = writeGroups context.dialect groups ∧
      List.Forall₂ (fun word =>
        List.Forall₂ (LooksFor context word) (places context))
        (Text.words search) groups := by
  cases blank : Text.allBlank search with
  | true =>
      rw [searchCondition_of_blank context blank] at compiled
      obtain rfl := Except.ok.inj compiled
      rw [(Text.words_eq_nil_iff search).mpr blank]
      exact ⟨[], rfl, .nil⟩
  | false =>
      have filled : Text.words search ≠ [] := by
        simp [Text.words_eq_nil_iff, blank]
      rw [searchCondition] at compiled
      split at compiled
      · rename_i none
        exact absurd none filled
      obtain ⟨found, succeeds, compiled⟩ := (bind_eq_ok_iff _ _ _).mp compiled
      obtain rfl := Except.ok.inj compiled
      refine ⟨(Text.words search).map (wordTests context found), ?_, ?_⟩
      · rw [writeGroups_eq_allOf, List.map_map]
        refine congrArg allOf (List.map_congr_left fun word _ => ?_)
        exact wordCondition_eq context found word
      · rw [List.forall₂_map_right_iff, List.forall₂_same]
        intro word _
        exact forall₂_wordTests context succeeds word

theorem exists_searched {columns : List Column}
    (texts : ∀ column ∈ columns.filter Column.canFilter,
      ∃ expression, context.textExpression column = .ok expression) :
    ∃ found, searched context columns = .ok found := by
  induction columns with
  | nil => exact ⟨[], rfl⟩
  | cons column rest ih =>
      rw [searched]
      split
      · rename_i filterable
        rw [List.filter_cons_of_pos filterable, List.forall_mem_cons] at texts
        obtain ⟨⟨expression, text_eq⟩, later⟩ := texts
        obtain ⟨found, succeeds⟩ := ih later
        exact ⟨(column, expression) :: found, by rw [text_eq, succeeds]; rfl⟩
      · rename_i other
        rw [List.filter_cons_of_neg other] at texts
        exact ih texts

/-- A search is compiled when it is blank or when every place has a text. -/
theorem exists_searchCondition_iff (search : String) :
    (∃ condition, searchCondition context search = .ok condition) ↔
      Text.allBlank search = true ∨ ∀ place ∈ places context,
        ∃ expression, place.expression context = .ok expression := by
  constructor
  · rintro ⟨condition, compiled⟩
    obtain ⟨groups, -, looks⟩ := exists_groups context compiled
    cases words_eq : Text.words search with
    | nil => exact .inl ((Text.words_eq_nil_iff search).mp words_eq)
    | cons word rest =>
        rw [words_eq] at looks
        obtain ⟨tests, _, first, -, -⟩ := List.forall₂_cons_left_iff.mp looks
        exact .inr (forall_exists_expression context first)
  · rintro (blank | texts)
    · exact ⟨_, searchCondition_of_blank context blank⟩
    · have columns : ∀ column ∈ context.columns.filter Column.canFilter,
          ∃ expression, context.textExpression column = .ok expression := by
        intro column member
        exact texts (.column column)
          (List.mem_append_left _ (List.mem_map_of_mem member))
      obtain ⟨found, succeeds⟩ := exists_searched context columns
      rw [searchCondition]
      split
      · exact ⟨_, rfl⟩
      · exact ⟨_, by rw [succeeds]; rfl⟩

end DataGrid.Filter
