import DataGrid.Row
import DataGrid.Text.Ascii
import DataGrid.Text.Percent

/-!
# Addresses of actions

A field's name in braces stands for the row's value of that field.
-/

namespace DataGrid

/-- The name between the brace that has just been passed and the next one, and
the rest behind that.  Only names of ASCII letters, digits and underscores
count. -/
def takeFieldName (characters : List Char) :
    Option (List Char × List Char) :=
  match characters.takeWhile Text.continuesIdentifier,
      characters.dropWhile Text.continuesIdentifier with
  | first :: name, '\x7d' :: rest => some (first :: name, rest)
  | _, _ => none

theorem length_of_takeFieldName {characters name rest : List Char}
    (taken : takeFieldName characters = some (name, rest)) :
    rest.length < characters.length := by
  unfold takeFieldName at taken
  split at taken
  · rename_i dropped
    simp only [Option.some.injEq, Prod.mk.injEq] at taken
    obtain ⟨-, rfl⟩ := taken
    have := (List.dropWhile_sublist Text.continuesIdentifier
      (l := characters)).length_le
    rw [dropped] at this
    simp only [List.length_cons] at this
    omega
  · simp at taken

/-- Put a row's values into an address, each encoded as one component.  A name
that the row does not have is left as it is. -/
def expandCharacters (row : Row) : List Char → List Char
  | [] => []
  | character :: rest =>
      if character == '\x7b' then
        match _found : takeFieldName rest with
        | some (name, remaining) =>
            let shown :=
              match Json.Fields.get? row (String.ofList name) with
              | some value => (Text.percentEncode value.plain).toList
              | none => '\x7b' :: name ++ ['\x7d']
            shown ++ expandCharacters row remaining
        | none => character :: expandCharacters row rest
      else character :: expandCharacters row rest
termination_by characters => characters.length
decreasing_by
  · have := length_of_takeFieldName (by assumption)
    simp only [List.length_cons]
    omega
  · simp
  · simp

def Row.expandAddress (row : Row) (template : String) : String :=
  String.ofList (expandCharacters row template.toList)

end DataGrid
