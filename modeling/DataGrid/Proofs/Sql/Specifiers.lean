import DataGrid.Proofs.Outcome
import DataGrid.Sql.Dialect

/-!
# The specifiers of date formats

A percent sign and the character after it are one specifier.  A dialect refuses
a date format that has a specifier it does not know, or whose last percent sign
stands alone, and names the first such place.
-/

namespace DataGrid.Sql

/-- What stands after the percent signs of a date format, read from the left: a
character, or nothing when the format ends there. -/
def specifiers : List Char → List (Option Char)
  | [] => []
  | ['%'] => [none]
  | '%' :: letter :: rest => some letter :: specifiers rest
  | _ :: rest => specifiers rest

namespace Dialect

variable {dialect : Dialect}

/-- The characters that a dialect knows after a percent sign. -/
def letters : Dialect → List Char
  | postgres => ['Y', 'd', 'm', 'H', 'M', 's', 'S', 'w']
  | sqlite | mysql => ['Y', 'd', 'm', 'H', 'M', 's', 'S', 'w', '%']

theorem specifier?_eq_none_iff (letter : Char) :
    dialect.specifier? letter = none ↔ letter ∉ dialect.letters := by
  cases dialect <;> unfold specifier? <;> split <;> simp_all [letters]

/-- A dialect refuses a date format: its last percent sign stands alone, or one
is followed by a character that the dialect does not know. -/
def Refuses (dialect : Dialect) (format : String) : Prop :=
  none ∈ specifiers format.toList ∨
    ∃ letter, some letter ∈ specifiers format.toList ∧
      letter ∉ dialect.letters

/-- What a dialect finds wrong with a specifier. -/
def specifierFault? (dialect : Dialect) : Option Char → Option FormatFault
  | none => some .dangling
  | some letter => if letter ∈ dialect.letters then none else some .unknown

/-- What a dialect finds wrong with a date format, at the first place. -/
def fault? (dialect : Dialect) (format : String) : Option FormatFault :=
  (specifiers format.toList).findSome? dialect.specifierFault?

/-- The fault of a table that has the format. -/
def FormatFault.cause (format : String) : FormatFault → TableFault
  | dangling => .danglingPercent format
  | unknown => .unknownSpecifier format

theorem refuses_iff (format : String) :
    dialect.Refuses format ↔ ∃ fault, dialect.fault? format = some fault := by
  rw [← Option.isSome_iff_exists, fault?, List.findSome?_isSome_iff]
  constructor
  · rintro (dangling | ⟨letter, member, unknown⟩)
    · exact ⟨none, dangling, rfl⟩
    · exact ⟨some letter, member, by simp [specifierFault?, unknown]⟩
  · rintro ⟨specifier, member, refused⟩
    cases specifier with
    | none => exact .inl member
    | some letter =>
        refine .inr ⟨letter, member, fun known => ?_⟩
        simp [specifierFault?, known] at refused

theorem respell_eq_error_iff (format : List Char) (fault : FormatFault) :
    dialect.respell format = .error fault ↔
      (specifiers format).findSome? dialect.specifierFault? = some fault := by
  induction format using respell.induct dialect with
  | case1 => simp [respell, specifiers]
  | case2 => simp [respell, specifiers, specifierFault?]
  | case3 letter rest unknown =>
      have refused := (specifier?_eq_none_iff letter).mp unknown
      simp [respell, specifiers, specifierFault?, unknown, refused]
  | case4 letter rest own known ih =>
      have member : letter ∈ dialect.letters := by
        by_contra absent
        rw [(specifier?_eq_none_iff letter).mpr absent] at known
        cases known
      simp only [respell, known, specifiers, List.findSome?_cons,
        specifierFault?, member, if_true, ← ih]
      cases dialect.respell rest <;> simp
  | case5 character rest notLast notFirst ih =>
      simp only [respell, specifiers, ← ih]
      cases dialect.respell rest <;> simp

theorem dateFormat_eq_error_iff (format : String) (error : Error) :
    dialect.dateFormat format = .error error ↔
      ∃ fault, dialect.fault? format = some fault ∧
        error = .table (fault.cause format) := by
  have faults (fault : FormatFault) :
      dialect.respell format.toList = .error fault ↔
        dialect.fault? format = some fault :=
    respell_eq_error_iff format.toList fault
  rw [dateFormat]
  cases respelled : dialect.respell format.toList with
  | ok spelling => simp [← faults, respelled]
  | error fault =>
      cases fault <;>
        simp [← faults, respelled, FormatFault.cause, eq_comm]

/-- A moment can be shown unless its format is refused. -/
theorem formatTimestamp_eq_error_iff (column format timezone : String)
    (error : Error) :
    dialect.formatTimestamp column format timezone = .error error ↔
      ∃ fault, dialect.fault? format = some fault ∧
        error = .table (fault.cause format) := by
  rw [← dateFormat_eq_error_iff, formatTimestamp]
  cases dialect.dateFormat format with
  | error other => simp
  | ok spelling => cases dialect <;> simp

end Dialect

end DataGrid.Sql
