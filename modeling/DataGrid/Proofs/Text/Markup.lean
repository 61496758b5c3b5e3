import DataGrid.Text.Markup
import Mathlib.Data.List.Infix

/-!
# Reading markup

A markup reader takes the five entities for their characters.  A text that was
written for it is read back whole, also where it looked like markup before, and
holds nothing that a reader could take for the end of a text or of an attribute.
-/

namespace DataGrid.Text

/-- The characters that a markup reader gets to see as entities only. -/
def markupCharacters : List Char :=
  ['&', '<', '>', '"', '\'']

/-- The characters that a reader of markup takes some characters for. -/
def readMarkup : List Char → List Char
  | '&' :: 'a' :: 'm' :: 'p' :: ';' :: rest => '&' :: readMarkup rest
  | '&' :: 'l' :: 't' :: ';' :: rest => '<' :: readMarkup rest
  | '&' :: 'g' :: 't' :: ';' :: rest => '>' :: readMarkup rest
  | '&' :: 'q' :: 'u' :: 'o' :: 't' :: ';' :: rest => '"' :: readMarkup rest
  | '&' :: '#' :: '3' :: '9' :: ';' :: rest => '\'' :: readMarkup rest
  | character :: rest => character :: readMarkup rest
  | [] => []

variable {character : Char}

theorem mem_markupCharacters_iff :
    character ∈ markupCharacters ↔
      character = '&' ∨ character = '<' ∨ character = '>' ∨ character = '"' ∨
        character = '\'' := by
  simp [markupCharacters]

theorem entity_of_notMem (ordinary : character ∉ markupCharacters) :
    entity character = [character] := by
  simp only [mem_markupCharacters_iff, not_or] at ordinary
  obtain ⟨noAmpersand, noLess, noGreater, noQuote, noMark⟩ := ordinary
  unfold entity
  split <;> trivial

theorem readMarkup_cons_of_ne (other : character ≠ '&') (rest : List Char) :
    readMarkup (character :: rest) = character :: readMarkup rest := by
  apply readMarkup.eq_6 <;> intro _ same <;> exact absurd same other

/-- A character is read back wherever it is written. -/
theorem readMarkup_entity_append (character : Char) (rest : List Char) :
    readMarkup (entity character ++ rest) = character :: readMarkup rest := by
  by_cases special : character ∈ markupCharacters
  · obtain rfl | rfl | rfl | rfl | rfl :=
      mem_markupCharacters_iff.mp special <;> rfl
  · have noAmpersand : character ≠ '&' := by
      rintro rfl
      exact special (by decide)
    rw [entity_of_notMem special, List.singleton_append,
      readMarkup_cons_of_ne noAmpersand]

theorem readMarkup_escapeMarkup (text : String) :
    readMarkup (escapeMarkup text).toList = text.toList := by
  rw [escapeMarkup, String.toList_ofList]
  induction text.toList with
  | nil => rfl
  | cons character rest ih =>
      rw [List.flatMap_cons, readMarkup_entity_append, ih]

/-- What is written for a character ends no text and no attribute. -/
theorem notMem_entity : ∀ mark ∈ ['<', '>', '"', '\''],
    mark ∉ entity character := by
  intro mark among
  have clean : markupCharacters.all (fun character =>
      ['<', '>', '"', '\''].all (!(entity character).contains ·)) = true := by
    decide
  by_cases special : character ∈ markupCharacters
  · simpa using
      List.all_eq_true.mp (List.all_eq_true.mp clean character special) mark
        among
  · rw [entity_of_notMem special, List.mem_singleton]
    rintro rfl
    exact special (List.mem_cons_of_mem _ among)

theorem notMem_escapeMarkup (text : String) :
    ∀ mark ∈ ['<', '>', '"', '\''], mark ∉ (escapeMarkup text).toList := by
  intro mark among
  rw [escapeMarkup, String.toList_ofList, List.mem_flatMap]
  rintro ⟨character, -, written⟩
  exact notMem_entity mark among written

/-- Behind characters without an ampersand, the first one stands in the rest. -/
theorem suffix_of_suffix_append {run rest after : List Char}
    (noAmpersand : '&' ∉ run) (ends : '&' :: after <:+ run ++ rest) :
    '&' :: after <:+ rest := by
  induction run with
  | nil => exact ends
  | cons character run ih =>
      simp only [List.mem_cons, not_or] at noAmpersand
      rcases List.suffix_cons_iff.mp ends with here | later
      · exact absurd (List.cons.inj here).1 noAmpersand.1
      · exact ih noAmpersand.2 later

/-- An entity has one ampersand, which it begins with. -/
theorem exists_entity_eq_cons (special : character ∈ markupCharacters) :
    ∃ name, entity character = '&' :: name ∧ '&' ∉ name := by
  obtain rfl | rfl | rfl | rfl | rfl := mem_markupCharacters_iff.mp special <;>
    exact ⟨_, rfl, by decide⟩

/-- Every ampersand in what is written begins one of the entities. -/
theorem entity_prefix_of_suffix {text : String} {after : List Char}
    (ends : '&' :: after <:+ (escapeMarkup text).toList) :
    ∃ character ∈ markupCharacters, entity character <+: '&' :: after := by
  rw [escapeMarkup, String.toList_ofList] at ends
  generalize text.toList = characters at ends
  induction characters with
  | nil => exact absurd (List.suffix_nil.mp ends) (List.cons_ne_nil _ _)
  | cons character rest ih =>
      rw [List.flatMap_cons] at ends
      by_cases special : character ∈ markupCharacters
      · obtain ⟨name, entity_eq, noAmpersand⟩ := exists_entity_eq_cons special
        rw [entity_eq, List.cons_append] at ends
        rcases List.suffix_cons_iff.mp ends with here | later
        · refine ⟨character, special, ?_⟩
          rw [here, entity_eq, ← List.cons_append]
          exact List.prefix_append _ _
        · exact ih (suffix_of_suffix_append noAmpersand later)
      · rw [entity_of_notMem special] at ends
        have noAmpersand : '&' ∉ [character] := by
          rw [List.mem_singleton]
          rintro rfl
          exact special List.mem_cons_self
        exact ih (suffix_of_suffix_append noAmpersand ends)

end DataGrid.Text
