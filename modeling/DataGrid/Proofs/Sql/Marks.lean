import DataGrid.Proofs.Sql.DateFormat
import DataGrid.Proofs.Sql.Placeholders

/-!
# Question marks

A statement in the positional style has to have as many question marks as
values.  A fragment writes one for each of its values; all others stand in its
texts, and those come from the expressions that it is built with.
-/

namespace DataGrid.Sql

/-- The number of question marks in a text. -/
def markCount (text : String) : Nat :=
  text.toList.count '?'

@[simp]
theorem markCount_append (first second : String) :
    markCount (first ++ second) = markCount first + markCount second := by
  simp [markCount]

@[simp]
theorem markCount_toString (text : String) :
    markCount (toString text) = markCount text :=
  rfl

theorem markCount_eq_zero_iff {text : String} :
    markCount text = 0 ↔ '?' ∉ text.toList :=
  List.count_eq_zero

/-- A statement in the positional style has as many question marks as
values. -/
def Statement.Exact (statement : Statement) : Prop :=
  markCount statement.sql = statement.params.length

namespace Fragment

/-- The number of question marks in the texts of a fragment. -/
def markCount : Fragment → Nat
  | [] => 0
  | .text text :: rest => Sql.markCount text + markCount rest
  | .value _ :: rest => markCount rest

@[simp]
theorem markCount_nil : markCount [] = 0 :=
  rfl

@[simp]
theorem markCount_text (text : String) (rest : Fragment) :
    markCount (.text text :: rest) = Sql.markCount text + rest.markCount :=
  rfl

@[simp]
theorem markCount_value (value : Value) (rest : Fragment) :
    markCount (.value value :: rest) = rest.markCount :=
  rfl

@[simp]
theorem markCount_append (first second : Fragment) :
    markCount (first ++ second) = first.markCount + second.markCount := by
  induction first with
  | nil => simp
  | cons piece rest ih => cases piece <;> simp [ih, Nat.add_assoc]

@[simp]
theorem markCount_between (opening : String) (fragment : Fragment)
    (closing : String) :
    (fragment.between opening closing).markCount =
      Sql.markCount opening + fragment.markCount + Sql.markCount closing := by
  simp [between, Nat.add_assoc]

/-- Fragments without question marks are joined without any. -/
theorem markCount_join {separator : String}
    (separator_plain : Sql.markCount separator = 0)
    {fragments : List Fragment}
    (plain : ∀ fragment ∈ fragments, fragment.markCount = 0) :
    (join separator fragments).markCount = 0 := by
  induction fragments with
  | nil => rfl
  | cons fragment rest ih =>
      obtain ⟨first, others⟩ := List.forall_mem_cons.mp plain
      cases rest with
      | nil => exact first
      | cons next rest => simp [join, first, separator_plain, ih others]

theorem markCount_join_texts (stem : String) (number : Nat)
    (fragment : Fragment) :
    Sql.markCount (String.join (fragment.texts .positional stem number)) =
      fragment.values.length + fragment.markCount := by
  induction fragment generalizing number with
  | nil => rfl
  | cons piece rest ih =>
      cases piece with
      | text text =>
          simp only [texts, String.join_cons, Sql.markCount_append, ih,
            values_text, markCount_text]
          omega
      | value value =>
          have mark : Sql.markCount "?" = 1 := by decide
          simp only [texts, placeholder, String.join_cons,
            Sql.markCount_append, ih, values_value, markCount_value,
            List.length_cons, mark]
          omega

/-- A fragment is written with a question mark for each value, besides those in
its texts. -/
theorem markCount_write (stem : String) (fragment : Fragment) :
    Sql.markCount (fragment.write .positional stem) =
      fragment.values.length + fragment.markCount :=
  markCount_join_texts stem 0 fragment

end Fragment

namespace Dialect

/-- A match has the question marks of its expression and of its pattern. -/
theorem markCount_like (dialect : Dialect) (expression : String)
    (pattern : Fragment) (negate : Bool) :
    (dialect.like expression pattern negate).markCount =
      markCount expression + pattern.markCount := by
  have no_plain : markCount (if negate then "NOT " else "") = 0 := by
    cases negate <;> decide
  have literals : markCount "LOWER(" = 0 ∧ markCount ") " = 0 ∧
      markCount " " = 0 ∧ markCount "LIKE LOWER(" = 0 ∧
      markCount "ILIKE " = 0 ∧ markCount ") ESCAPE '\\'" = 0 ∧
      markCount " ESCAPE '\\'" = 0 ∧ markCount ") ESCAPE '\\\\'" = 0 := by
    decide
  cases dialect with
  | sqlite | mysql | postgres => simp [like, no_plain, literals]

theorem markCount_castToText (dialect : Dialect) (expression : String) :
    markCount (dialect.castToText expression) = markCount expression := by
  have literals : markCount "CAST(" = 0 ∧ markCount " AS TEXT)" = 0 ∧
      markCount " AS VARCHAR)" = 0 ∧ markCount " AS CHAR)" = 0 := by
    decide
  cases dialect <;> simp [castToText, literals]

/-- A spelled date format has no question mark that the format has not. -/
theorem markCount_dateFormat {dialect : Dialect} {format spelled : String}
    (spells : dialect.dateFormat format = .ok spelled)
    (plain : markCount format = 0) : markCount spelled = 0 := by
  unfold dateFormat at spells
  split at spells
  · rename_i characters respelled
    obtain rfl := Except.ok.inj spells
    obtain ⟨pieces, format_eq, rfl⟩ := FormatPiece.exists_of_respell respelled
    rw [markCount_eq_zero_iff] at plain ⊢
    rw [String.toList_ofList]
    rw [format_eq] at plain
    exact FormatPiece.mark_notMem_spelled plain
  · cases spells
  · cases spells

theorem markCount_stripQuotes {timezone : String}
    (plain : markCount timezone = 0) :
    markCount (stripQuotes timezone) = 0 := by
  rw [markCount_eq_zero_iff] at plain ⊢
  rw [stripQuotes, String.toList_ofList]
  exact fun member => plain (List.mem_of_mem_filter member)

theorem markCount_fixedZone {timezone : String}
    (plain : markCount timezone = 0) : markCount (fixedZone timezone) = 0 := by
  unfold fixedZone
  split
  · decide
  · exact plain

/-- A formatted moment has no question marks when its parts have none. -/
theorem markCount_formatTimestamp {dialect : Dialect}
    {column format timezone formatted : String}
    (formats : dialect.formatTimestamp column format timezone = .ok formatted)
    (column_plain : markCount column = 0) (format_plain : markCount format = 0)
    (zone_plain : markCount timezone = 0) : markCount formatted = 0 := by
  obtain ⟨spelled, spells, formats⟩ := (bind_eq_ok_iff _ _ _).mp formats
  have spelled_plain := markCount_dateFormat spells format_plain
  have zone_plain := markCount_fixedZone (markCount_stripQuotes zone_plain)
  cases dialect with
  | sqlite =>
      obtain rfl := Except.ok.inj formats
      simp only [markCount_append, markCount_toString, column_plain,
        spelled_plain]
      split <;> decide
  | postgres =>
      obtain rfl := Except.ok.inj formats
      simp only [markCount_append, markCount_toString, apply_ite markCount,
        column_plain, spelled_plain, zone_plain]
      split <;> decide
  | mysql =>
      obtain rfl := Except.ok.inj formats
      simp only [markCount_append, markCount_toString, apply_ite markCount,
        column_plain, spelled_plain, zone_plain]
      split <;> decide

end Dialect

end DataGrid.Sql
