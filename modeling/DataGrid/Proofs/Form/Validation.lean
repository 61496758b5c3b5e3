import DataGrid.Proofs.Decimal.Grammar
import DataGrid.Proofs.Request.Order
import DataGrid.Proofs.Text.Trim

/-!
# Which fields are rejected

Every field of a form is checked against its own rules, and a field that breaks
one gets a message under its name; of fields with the same name the last message
stays.  What counts as a number are the numerals and, besides them, the names of
infinity and of what is not a number.
-/

namespace DataGrid

namespace FieldErrors

theorem insert_eq_insertField (errors : FieldErrors) (name message : String) :
    errors.insert name message = Request.insertField name message errors := by
  induction errors with
  | nil => rfl
  | cons error rest ih => rw [insert, Request.insertField, ih]

theorem lookup_insert (errors : FieldErrors) (name message other : String) :
    (errors.insert name message).lookup other =
      if name = other then some message else errors.lookup other := by
  induction errors with
  | nil => grind [insert]
  | cons error rest ih => grind [insert]

/-- The fields with a message, in the order of their names and each once. -/
def names (errors : FieldErrors) : List String :=
  errors.map Prod.fst

theorem mem_names_iff (errors : FieldErrors) (name : String) :
    name ∈ errors.names ↔ (errors.lookup name).isSome = true := by
  simp [names, List.lookup_isSome_iff]

end FieldErrors

namespace FormField

/-- A field breaks a rule of its own: a value is required and missing, or a
value is given that is no number where one is expected, or too long. -/
inductive Violated (isNumber : List Char → Prop) (field : FormField)
    (value : String) : Prop
  | missing (required : field.required = true)
      (blank : Text.allBlank value = true)
  | noNumber (given : Text.allBlank value = false)
      (expected : field.kind = .number)
      (other : ¬ isNumber (Text.trim value).toList)
  | tooLong (given : Text.allBlank value = false)
      (suits : field.kind = .number → isNumber (Text.trim value).toList)
      {limit : Nat} (limited : field.maxLength = some limit)
      (exceeded : limit < value.length)

variable {isNumber : List Char → Prop} {field : FormField} {value : String}

theorem violated_iff_of_blank (blank : Text.allBlank value = true) :
    field.Violated isNumber value ↔ field.required = true := by
  constructor
  · rintro (⟨required, -⟩ | ⟨given, -, -⟩ | ⟨given, -, -, -⟩)
    · exact required
    · cases blank.symm.trans given
    · cases blank.symm.trans given
  · exact fun required => .missing required blank

/-- A value that suits its field may still be too long. -/
theorem violated_iff_of_suits (given : Text.allBlank value = false)
    (suits : field.kind = .number → isNumber (Text.trim value).toList) :
    field.Violated isNumber value ↔
      ∃ limit, field.maxLength = some limit ∧ limit < value.length := by
  constructor
  · rintro (⟨-, blank⟩ | ⟨-, expected, other⟩ |
      ⟨-, -, limited, exceeded⟩)
    · cases blank.symm.trans given
    · exact absurd (suits expected) other
    · exact ⟨_, limited, exceeded⟩
  · rintro ⟨limit, limited, exceeded⟩
    exact .tooLong given suits limited exceeded

/-- What a field of numbers accepts: numerals and the names of numbers. -/
def AcceptsNumber (characters : List Char) : Prop :=
  Decimal.IsNumeral characters ∨ Decimal.IsNamed characters

/-- A field has something wrong exactly when it breaks one of its rules. -/
theorem isSome_complaint?_iff :
    (field.complaint? value).isSome = true ↔
      field.Violated AcceptsNumber value := by
  have number_iff : Decimal.namesNumber (Text.trim value) = true ↔
      AcceptsNumber (Text.trim value).toList :=
    Decimal.namesNumber_iff (Text.trim value)
  simp only [complaint?, Text.isEmpty_trim]
  split
  · rename_i blank
    rw [violated_iff_of_blank blank]
    split <;> simp_all
  rename_i given
  rw [Bool.not_eq_true] at given
  split
  · rename_i unsuitable
    rw [Bool.and_eq_true, decide_eq_true_eq, Bool.not_eq_true',
      ← Bool.not_eq_true, number_iff] at unsuitable
    simpa using Violated.noNumber given unsuitable.1 unsuitable.2
  · rename_i suitable
    have suits : field.kind = .number →
        AcceptsNumber (Text.trim value).toList := by
      intro expected
      rw [← number_iff]
      simpa [expected] using suitable
    rw [violated_iff_of_suits given suits]
    cases field.maxLength with
    | none => simp
    | some limit => by_cases exceeded : limit < value.length <;> simp [exceeded]

/-- A field that expects a number is given the name of one. -/
def NamedNumber (field : FormField) (value : String) : Prop :=
  field.kind = .number ∧ Decimal.IsNamed (Text.trim value).toList

theorem allBlank_of_isNamed
    (named : Decimal.IsNamed (Text.trim value).toList) :
    Text.allBlank value = false := by
  rw [← Text.isEmpty_trim, Bool.eq_false_iff, Ne, String.isEmpty_iff]
  intro empty
  rw [empty, Decimal.isNamed_iff] at named
  exact absurd named (by decide)

/-- With numerals as the only numbers, the fields that are given the name of a
number break a rule besides those that do anyway. -/
theorem violated_isNumeral_iff :
    field.Violated Decimal.IsNumeral value ↔
      field.Violated AcceptsNumber value ∨ field.NamedNumber value := by
  constructor
  · rintro (⟨required, blank⟩ | ⟨given, expected, other⟩ |
      ⟨given, suits, limited, exceeded⟩)
    · exact .inl (.missing required blank)
    · by_cases named : Decimal.IsNamed (Text.trim value).toList
      · exact .inr ⟨expected, named⟩
      · exact .inl (.noNumber given expected (not_or.mpr ⟨other, named⟩))
    · exact .inl (.tooLong given (fun expected => .inl (suits expected))
        limited exceeded)
  · rintro ((⟨required, blank⟩ | ⟨given, expected, other⟩ |
      ⟨given, suits, limited, exceeded⟩) | ⟨expected, named⟩)
    · exact .missing required blank
    · exact .noNumber given expected (not_or.mp other).1
    · by_cases unsuitable : field.kind = .number ∧
          ¬ Decimal.IsNumeral (Text.trim value).toList
      · exact .noNumber given unsuitable.1 unsuitable.2
      · exact .tooLong given (fun expected => by_contra fun other =>
          unsuitable ⟨expected, other⟩) limited exceeded
    · exact .noNumber (allBlank_of_isNamed named) expected fun spelled =>
        Decimal.not_isNamed_of_isNumeral spelled named

end FormField

namespace Form

variable (form : Form) (data : Row)

/-- What is wrong with a field, when it has the given name. -/
def complaintOn? (data : Row) (name : String) (field : FormField) :
    Option String :=
  if field.name = name then field.complaint? (data.cellText name) else none

/-- The messages, with the one on a further field among them. -/
def addComplaint (data : Row) (errors : FieldErrors) (field : FormField) :
    FieldErrors :=
  match field.complaint? (data.cellText field.name) with
  | some message => errors.insert field.name message
  | none => errors

theorem validate_eq_foldl :
    form.validate data = form.fields.foldl (addComplaint data) [] := by
  refine List.foldl_ext _ _ _ fun errors field _ => ?_
  unfold addComplaint
  cases field.complaint? (data.cellText field.name) <;> rfl

theorem lookup_addComplaint (errors : FieldErrors) (field : FormField)
    (name : String) :
    (addComplaint data errors field).lookup name =
      (complaintOn? data name field).or (errors.lookup name) := by
  unfold addComplaint complaintOn?
  by_cases named : field.name = name
  · subst named
    rw [if_pos rfl]
    cases field.complaint? (data.cellText field.name) with
    | none => rfl
    | some message => simp [FieldErrors.lookup_insert]
  · rw [if_neg named]
    cases field.complaint? (data.cellText field.name) with
    | none => rfl
    | some message => simp [FieldErrors.lookup_insert, named]

theorem lookup_foldl_addComplaint (fields : List FormField)
    (errors : FieldErrors) (name : String) :
    (fields.foldl (addComplaint data) errors).lookup name =
      (fields.filterMap (complaintOn? data name)).getLast?.or
        (errors.lookup name) := by
  induction fields generalizing errors with
  | nil => rfl
  | cons field rest ih =>
      rw [List.foldl_cons, ih, lookup_addComplaint, List.filterMap_cons,
        ← Option.or_assoc]
      cases complaintOn? data name field with
      | none => rw [Option.or_none]
      | some message =>
          rw [List.getLast?_cons]
          cases (rest.filterMap (complaintOn? data name)).getLast? <;> rfl

/-- The message on a name is what is wrong with the last field of that name that
has something wrong. -/
theorem lookup_validate (name : String) :
    (form.validate data).lookup name =
      (form.fields.filterMap (complaintOn? data name)).getLast? := by
  rw [validate_eq_foldl, lookup_foldl_addComplaint, List.lookup_nil,
    Option.or_none]

theorem sorted_foldl_addComplaint {errors : FieldErrors}
    (sorted : Request.Sorted errors) (fields : List FormField) :
    Request.Sorted (fields.foldl (addComplaint data) errors) := by
  induction fields generalizing errors with
  | nil => exact sorted
  | cons field rest ih =>
      rw [List.foldl_cons]
      refine ih ?_
      unfold addComplaint
      split
      · rw [FieldErrors.insert_eq_insertField]
        exact sorted.insertField _ _
      · exact sorted

theorem mem_names_validate_iff (name : String) :
    name ∈ (form.validate data).names ↔
      ∃ field ∈ form.fields, field.name = name ∧
        field.Violated FormField.AcceptsNumber (data.cellText name) := by
  rw [FieldErrors.mem_names_iff, lookup_validate, List.getLast?_isSome, Ne,
    List.filterMap_eq_nil_iff]
  push Not
  refine exists_congr fun field => and_congr_right fun _ => ?_
  rw [← Option.isSome_iff_ne_none, ← FormField.isSome_complaint?_iff,
    complaintOn?]
  split <;> simp_all

/-- The fields with a message stand in the order of their names, each once, and
are those that break one of their rules.  With numerals as the only numbers this
says the same exactly when every field that is given the name of a number has a
message for another reason. -/
theorem validate_rejects_violated :
    (form.validate data).names.Pairwise (· < ·) ∧
      (∀ name, name ∈ (form.validate data).names ↔
        ∃ field ∈ form.fields, field.name = name ∧
          field.Violated FormField.AcceptsNumber (data.cellText name)) ∧
      ((∀ name, name ∈ (form.validate data).names ↔
          ∃ field ∈ form.fields, field.name = name ∧
            field.Violated Decimal.IsNumeral (data.cellText name)) ↔
        ∀ field ∈ form.fields, field.NamedNumber (data.cellText field.name) →
          field.name ∈ (form.validate data).names) := by
  have exact_iff := mem_names_validate_iff form data
  refine ⟨?sorted, exact_iff, ?same, ?differs⟩
  case sorted =>
    have sorted : Request.Sorted (form.validate data) := by
      rw [validate_eq_foldl]
      exact sorted_foldl_addComplaint data .nil form.fields
    rw [FieldErrors.names, List.pairwise_map]
    exact sorted
  case same =>
    intro rejected field member named
    exact (rejected field.name).mpr ⟨field, member, rfl,
      FormField.violated_isNumeral_iff.mpr (.inr named)⟩
  case differs =>
    intro messages name
    constructor
    · intro known
      obtain ⟨field, member, same, violated⟩ := (exact_iff name).mp known
      exact ⟨field, member, same,
        FormField.violated_isNumeral_iff.mpr (.inl violated)⟩
    · rintro ⟨field, member, rfl, violated⟩
      rcases FormField.violated_isNumeral_iff.mp violated with breaks | named
      · exact (exact_iff field.name).mpr ⟨field, member, rfl, breaks⟩
      · exact messages field member named

/-- A form with a field that expects a number. -/
def measurement : Form where
  id := "measurement"
  title := "Measurement"
  fields := [{ name := "value", label := "Value", kind := .number }]

/-- What is not a number by its own name is accepted where a number has to be
entered. -/
theorem not_forall_validate_rejects_violated :
    ¬ ∀ (form : Form) (data : Row) (name : String),
      name ∈ (form.validate data).names ↔
        ∃ field ∈ form.fields, field.name = name ∧
          field.Violated Decimal.IsNumeral (data.cellText name) := by
  intro every
  let data : Row := [("value", .text "nan")]
  have accepted : (measurement.validate data).names = [] := by
    decide +kernel
  have named : Decimal.IsNamed (Text.trim (data.cellText "value")).toList :=
    (Decimal.isNamed_iff _).mpr (by decide +kernel)
  have known := (every measurement data "value").mpr
    ⟨_, List.mem_singleton_self _, rfl,
      FormField.violated_isNumeral_iff.mpr (.inr ⟨rfl, named⟩)⟩
  rw [accepted] at known
  exact absurd known List.not_mem_nil

end Form

end DataGrid
