import DataGrid.Proofs.Source.Scan
import DataGrid.Proofs.Source.Statements
import DataGrid.Proofs.Sql.Marks
import DataGrid.Source.Resolve

/-!
# Question marks of a source

An expression that is read off the SELECT list consists of characters of that
list, so that a question mark can be copied from there into a filter or an
order.  Otherwise a key stands behind the name of the first table.
-/

namespace DataGrid.Source

open Sql

/-- What a pattern finds consists of characters of the text. -/
def Pattern.Copies (pattern : Pattern) : Prop :=
  ∀ {atStart characters found}, pattern atStart characters = some found →
    found.expression ⊆ characters

theorem takeUntil_subset {stops : Char → Bool}
    {characters run rest : List Char}
    (taken : takeUntil stops characters = some (run, rest)) :
    run ⊆ characters ∧ rest ⊆ characters := by
  unfold takeUntil at taken
  split at taken
  · cases taken
  · rename_i head
    obtain ⟨rfl, rfl⟩ := Prod.mk.inj (Option.some.inj taken)
    exact ⟨(List.takeWhile_subset _), (List.dropWhile_subset _)⟩

theorem takeQualified_subset {characters qualifier column rest : List Char}
    (taken : takeQualified characters = some (qualifier, column, rest)) :
    qualifier ++ '.' :: column ⊆ characters := by
  obtain ⟨⟨first, behind⟩, opened, taken⟩ := Option.bind_eq_some_iff.mp taken
  obtain ⟨first_subset, behind_subset⟩ := takeUntil_subset opened
  dsimp only at taken
  split at taken
  · rename_i later
    obtain ⟨⟨name, last⟩, closed, taken⟩ := Option.bind_eq_some_iff.mp taken
    obtain ⟨rfl, rfl, rfl⟩ :
        first = qualifier ∧ name = column ∧ last = rest := by
      simpa using taken
    have later_subset : '.' :: name ⊆ '.' :: later :=
      List.cons_subset_cons _ (takeUntil_subset closed).1
    exact List.append_subset.mpr
      ⟨first_subset, List.Subset.trans later_subset behind_subset⟩
  · cases taken

/-- An item is found at a place, or behind its first character. -/
theorem item_of_atItem {separates : Char → Bool}
    {item : List Char → Option Found} {atStart : Bool}
    {characters : List Char} {found : Found}
    (finds : atItem separates item atStart characters = some found) :
    item characters = some found ∨
      ∃ character rest, characters = character :: rest ∧
        item rest = some found := by
  cases characters with
  | nil => cases atStart <;> simp_all [atItem]
  | cons character rest =>
      cases separated : separates character with
      | false => cases atStart <;> simp_all [atItem]
      | true =>
          have here : (item (character :: rest)).or (item rest) = some found ∨
              item rest = some found := by
            cases atStart <;> simp_all [atItem]
          rcases here with either | behind
          · rcases Option.or_eq_some_iff.mp either with here | ⟨-, behind⟩
            · exact .inl here
            · exact .inr ⟨character, rest, rfl, behind⟩
          · exact .inr ⟨character, rest, rfl, behind⟩

theorem copies_atItem {separates : Char → Bool}
    {item : List Char → Option Found}
    (copies : ∀ {characters found}, item characters = some found →
      found.expression ⊆ characters) :
    Pattern.Copies (atItem separates item) := by
  intro atStart characters found finds
  rcases item_of_atItem finds with here | ⟨character, rest, rfl, behind⟩
  · exact copies here
  · exact List.subset_cons_of_subset _ (copies behind)

theorem copies_aliased : Pattern.Copies aliased := by
  refine copies_atItem fun {characters found} finds => ?_
  obtain ⟨⟨qualifier, column, rest⟩, taken, finds⟩ :=
    Option.bind_eq_some_iff.mp finds
  obtain ⟨_, -, finds⟩ := Option.bind_eq_some_iff.mp finds
  obtain ⟨_, -, finds⟩ := Option.bind_eq_some_iff.mp finds
  obtain ⟨_, -, finds⟩ := Option.bind_eq_some_iff.mp finds
  obtain rfl := Option.some.inj finds
  exact takeQualified_subset taken

theorem copies_qualified : Pattern.Copies qualified := by
  refine copies_atItem fun {characters found} finds => ?_
  obtain ⟨⟨qualifier, column, rest⟩, taken, finds⟩ :=
    Option.bind_eq_some_iff.mp finds
  obtain rfl := Option.some.inj finds
  exact takeQualified_subset taken

/-- What a search finds consists of characters of the text. -/
theorem expression_subset_of_findNamed {pattern : Pattern}
    (copies : pattern.Copies) {wanted : String} {ends : Char → Bool}
    {atStart : Bool} {characters : List Char} {found : Found}
    (finds : findNamed pattern wanted ends atStart characters = some found) :
    found.expression ⊆ characters := by
  induction characters generalizing atStart with
  | nil =>
      rw [findNamed_nil] at finds
      exact copies (Option.eq_some_of_filter_eq_some finds)
  | cons character rest ih =>
      rw [findNamed_cons] at finds
      rcases Option.or_eq_some_iff.mp finds with here | ⟨-, later⟩
      · exact copies (Option.eq_some_of_filter_eq_some here)
      · exact List.subset_cons_of_subset _ (ih later)

variable {source : Source}

theorem markCount_ofList_of_subset {part : List Char} {text : String}
    (subset : part ⊆ text.toList) (plain : markCount text = 0) :
    markCount (String.ofList part) = 0 := by
  rw [markCount_eq_zero_iff] at plain ⊢
  rw [String.toList_ofList]
  exact fun member => plain (subset member)

/-- A key stands for an expression without question marks when there are none
in it, in the SELECT list and in the name of the first table. -/
theorem markCount_resolveKey {key : String} (key_plain : markCount key = 0)
    (fields_plain : markCount source.fields = 0)
    (qualifier_plain : ∀ qualifier ∈ source.qualifier?,
      markCount qualifier = 0) : markCount (source.resolveKey key) = 0 := by
  unfold resolveKey
  dsimp only
  split
  · rename_i found finds
    exact markCount_ofList_of_subset
      (expression_subset_of_findNamed copies_aliased finds) fields_plain
  split
  · rename_i found finds
    exact markCount_ofList_of_subset
      (expression_subset_of_findNamed copies_qualified finds) fields_plain
  split
  · rename_i qualifier named
    simp only [markCount_append, markCount_toString, key_plain,
      qualifier_plain qualifier named]
    decide
  · exact key_plain

/-- The fields that are selected have the question marks of those that are
named. -/
theorem markCount_selected (source : Source) :
    markCount source.selected = markCount source.fields := by
  unfold selected
  split
  · rename_i blank
    have plain : markCount source.fields = 0 := by
      rw [markCount_eq_zero_iff]
      intro member
      exact absurd (List.all_eq_true.mp blank _ member) (by decide)
    rw [plain]
    decide
  · rfl

theorem markCount_restricted (source : Source) (condition : String) :
    markCount (source.restricted condition) = markCount source.from_ +
      markCount source.condition + markCount condition := by
  have literals : markCount " FROM " = 0 ∧ markCount " WHERE (" = 0 ∧
      markCount ") AND " = 0 := by
    decide
  obtain ⟨before, between, behind⟩ := literals
  simp [restricted, before, between, behind]

theorem markCount_rowsText (source : Source) (condition orderBy : String) :
    markCount (source.rowsText condition orderBy) =
      markCount source.fields + markCount source.from_ +
        markCount source.condition + markCount condition +
          markCount orderBy := by
  have literals : markCount "SELECT " = 0 ∧ markCount " " = 0 := by decide
  have order_eq : markCount (if orderBy.isEmpty then "" else " " ++ orderBy) =
      markCount orderBy := by
    split
    · rename_i empty
      rw [String.isEmpty_iff.mp empty]
    · rw [markCount_append, literals.2, Nat.zero_add]
  simp only [rowsText, markCount_append, literals.1, markCount_selected,
    markCount_restricted, order_eq]
  omega

theorem markCount_countText (source : Source) (condition : String) :
    markCount (source.countText condition) = markCount source.from_ +
      markCount source.condition + markCount condition := by
  have literal : markCount "SELECT COUNT(1)" = 0 := by decide
  have counted := markCount_append "SELECT COUNT(1)"
    (source.restricted condition)
  rw [literal, Nat.zero_add, markCount_restricted] at counted
  exact counted

end DataGrid.Source
