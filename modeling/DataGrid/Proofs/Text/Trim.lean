import DataGrid.Text.Blank
import Mathlib.Data.List.DropRight

/-!
# Trimming

Trimming takes the white space off both ends of a text and leaves the rest as it
is.  What is left is trimmed, a trimmed text stays as it is, and nothing is left
of a text that is blank.
-/

namespace DataGrid.Text

/-- A text neither begins nor ends with white space. -/
structure Trimmed (text : String) : Prop where
  first : ∀ character ∈ text.toList.head?, isBlank character = false
  last : ∀ character ∈ text.toList.getLast?, isBlank character = false

theorem toList_trim (text : String) :
    (trim text).toList =
      (text.toList.dropWhile isBlank).rdropWhile isBlank := by
  rw [trim, String.toList_ofList]
  rfl

/-- Trimming leaves a part of the text. -/
theorem trim_infix (text : String) :
    (trim text).toList <:+: text.toList := by
  rw [toList_trim]
  exact (List.rdropWhile_prefix _ _).isInfix.trans
    (List.dropWhile_suffix _).isInfix

theorem trimmed_trim (text : String) : Trimmed (trim text) where
  first character member := by
    have dropped := List.head?_dropWhile_not isBlank text.toList
    obtain ⟨behind, whole⟩ := List.rdropWhile_prefix isBlank
      (text.toList.dropWhile isBlank)
    rw [toList_trim] at member
    rw [← whole, List.head?_append, Option.mem_def.mp member,
      Option.some_or] at dropped
    exact dropped
  last character member := by
    rw [toList_trim] at member
    obtain ⟨nonempty, rfl⟩ := List.mem_getLast?_eq_getLast member
    simpa using List.rdropWhile_last_not isBlank _ nonempty

theorem trim_eq_self {text : String} (trimmed : Trimmed text) :
    trim text = text := by
  have front : text.toList.dropWhile isBlank = text.toList := by
    rw [List.dropWhile_eq_self_iff]
    intro some_characters
    have first :=
      trimmed.first text.toList[0] (by simp [List.head?_eq_getElem?])
    simp [first]
  have back : text.toList.rdropWhile isBlank = text.toList := by
    rw [List.rdropWhile_eq_self_iff]
    intro nonempty
    have last := trimmed.last _ (List.getLast?_eq_some_getLast nonempty)
    simp [last]
  rw [← String.toList_inj, toList_trim, front, back]

/-- Nothing is left of a text without the blanks around it when it is blank. -/
theorem isEmpty_trim (text : String) :
    (trim text).isEmpty = allBlank text := by
  have parts := List.takeWhile_append_dropWhile (p := isBlank)
    (l := text.toList)
  have front : ∀ character ∈ text.toList.takeWhile isBlank,
      isBlank character = true := fun _ => List.mem_takeWhile_imp
  rw [Bool.eq_iff_iff, String.isEmpty_iff, ← String.toList_inj, toList_trim,
    String.toList_empty, List.rdropWhile_eq_nil_iff, allBlank,
    List.all_eq_true]
  conv_rhs => rw [← parts, List.forall_mem_append, and_iff_right front]

end DataGrid.Text
