import DataGrid.Proofs.Sql.Placeholders
import DataGrid.Sql.Dialect

/-!
# Fragments without their values

Two fragments that are equal once their values are erased are written as the
same text.  Erasure goes through everything that fragments are built with, so
that it can be followed from the parts of a statement to the whole.
-/

namespace DataGrid.Sql

def Piece.erased : Piece → Piece
  | .text written => .text written
  | .value _ => .value .null

namespace Fragment

/-- A fragment with nothing in the places of its values. -/
def erased (fragment : Fragment) : Fragment :=
  fragment.map Piece.erased

@[simp]
theorem erased_text (text : String) (rest : Fragment) :
    erased (.text text :: rest) = .text text :: erased rest :=
  rfl

@[simp]
theorem erased_append (first second : Fragment) :
    erased (first ++ second) = first.erased ++ second.erased :=
  List.map_append

@[simp]
theorem erased_between (opening : String) (fragment : Fragment)
    (closing : String) :
    (fragment.between opening closing).erased =
      fragment.erased.between opening closing := by
  rw [between, between, erased_append, erased_text]
  rfl

theorem erased_join (separator : String) (fragments : List Fragment) :
    (join separator fragments).erased =
      join separator (fragments.map erased) := by
  induction fragments with
  | nil => rfl
  | cons fragment rest ih =>
      cases rest with
      | nil => rfl
      | cons next rest =>
          have joined : join separator (fragment :: next :: rest) =
              fragment ++ .text separator ::
                join separator (next :: rest) :=
            rfl
          rw [joined, erased_append, erased_text, ih]
          rfl

theorem erased_like (dialect : Dialect) (expression : String)
    (pattern : Fragment) (negate : Bool) :
    (dialect.like expression pattern negate).erased =
      dialect.like expression pattern.erased negate := by
  cases dialect <;> exact erased_between ..

theorem length_values_erased (fragment : Fragment) :
    fragment.erased.values.length = fragment.values.length := by
  induction fragment with
  | nil => rfl
  | cons piece rest ih =>
      cases piece with
      | text text => exact ih
      | value value => exact congrArg Nat.succ ih

theorem texts_erased (style : Style) (stem : String) (number : Nat)
    (fragment : Fragment) :
    fragment.erased.texts style stem number =
      fragment.texts style stem number := by
  induction fragment generalizing number with
  | nil => rfl
  | cons piece rest ih =>
      cases piece with
      | text text => exact congrArg (text :: ·) (ih number)
      | value value =>
          exact congrArg (placeholder style stem number :: ·)
            (ih (number + 1))

theorem write_erased (style : Style) (stem : String) (fragment : Fragment) :
    fragment.erased.write style stem = fragment.write style stem := by
  rw [write, write, texts_erased]

/-- Fragments that differ in their values only are written as one text. -/
theorem write_eq_of_erased_eq {first second : Fragment}
    (alike : first.erased = second.erased) (style : Style) (stem : String) :
    first.write style stem = second.write style stem := by
  rw [← write_erased, alike, write_erased]

theorem length_values_eq_of_erased_eq {first second : Fragment}
    (alike : first.erased = second.erased) :
    first.values.length = second.values.length := by
  rw [← length_values_erased, alike, length_values_erased]

end Fragment

theorem Params.length_withNames {names : List String} {values : List Value}
    (enough : names.length = values.length) (style : Style) :
    (withNames names values style).length = values.length := by
  cases style with
  | positional => rfl
  | named => simp [withNames, length, enough]

end DataGrid.Sql
