import DataGrid.Proofs.Filter.Shape
import DataGrid.Proofs.Json.Points

/-!
# Numbers sent to be compared

A column of numbers is compared with what a client typed, in which points
separate thousands.  A number that is sent as a number is turned into text and
read in the same way, so it loses the point that its text may have.
-/

namespace DataGrid

namespace Decimal.Pointless

variable (pointless : Pointless)

theorem isBlank_of_isDigit {digit : Char} (isDigit : digit.isDigit = true) :
    Text.isBlank digit = false ∧ digit ≠ ',' := by
  obtain ⟨lower, upper⟩ := code_of_isDigit isDigit
  constructor
  · rw [Bool.eq_false_iff]
    intro blank
    simp [Text.isBlank] at blank
    omega
  · rintro rfl
    exact absurd lower (by decide)

/-- No white space and no comma stands in a numeral without a point. -/
theorem isBlank_eq_false {character : Char}
    (member : character ∈ pointless.characters) :
    Text.isBlank character = false ∧ character ≠ ',' := by
  have letter (known : character = '-' ∨ character = '+' ∨
      character = 'e') : Text.isBlank character = false ∧ character ≠ ',' := by
    rcases known with rfl | rfl | rfl <;> decide
  have digit (isDigit : character.isDigit = true) := isBlank_of_isDigit isDigit
  simp only [characters, List.mem_append] at member
  rcases member with sign | given | behind
  · refine letter (.inl ?_)
    revert sign
    cases pointless.negative <;> simp
  · exact digit (pointless.all_isDigit character given)
  · revert behind
    cases pointless.exponent? with
    | none => simp [exponentCharacters]
    | some exponent =>
        simp only [exponentCharacters, List.mem_cons]
        rintro (mark | sign | given)
        · exact letter (.inr (.inr mark))
        · refine letter ?_
          split at sign
          · exact .inl sign
          · exact .inr (.inl sign)
        · exact digit (isDigit_of_mem_toDigits given)

/-- No white space stands in front of a numeral without a point. -/
theorem exists_plain_first :
    ∃ first rest, pointless.characters = first :: rest ∧
      Text.isBlank first = false := by
  have nonempty : pointless.characters ≠ [] := by
    simp [characters, pointless.nonempty]
  obtain ⟨first, rest, characters_eq⟩ := List.exists_cons_of_ne_nil nonempty
  exact ⟨first, rest, characters_eq,
    (pointless.isBlank_eq_false (characters_eq ▸ List.mem_cons_self)).1⟩

end Decimal.Pointless

namespace Filter

open Sql

section Reading

variable {text : String} {pointless : Decimal.Pointless}
  (left : Json.withoutPoints text.toList = pointless.characters)

include left

theorem toList_normalizeNumber :
    (normalizeNumber text).toList = pointless.characters := by
  rw [normalizeNumber, String.toList_ofList]
  change List.map _ (Json.withoutPoints text.toList) = _
  rw [left]
  refine (List.map_congr_left fun character member => ?_).trans
    (List.map_id _)
  have noComma := (pointless.isBlank_eq_false member).2
  simp [noComma]

theorem allBlank_normalizeNumber :
    Text.allBlank (normalizeNumber text) = false := by
  obtain ⟨first, rest, characters_eq, plain⟩ := pointless.exists_plain_first
  rw [Text.allBlank, toList_normalizeNumber left, characters_eq]
  simp [plain]

theorem leadingNumber_normalizeNumber :
    leadingNumber (normalizeNumber text) = pointless.numeral.toDouble := by
  obtain ⟨first, rest, characters_eq, plain⟩ := pointless.exists_plain_first
  have trimmed : Text.trimStart pointless.characters =
      pointless.characters := by
    rw [characters_eq, Text.trimStart, List.dropWhile_cons_of_neg
      (by simp [plain])]
  rw [leadingNumber, toList_normalizeNumber left, trimmed,
    pointless.take_characters]

end Reading

/-- What a number is read as when it was sent to a column of numbers. -/
theorem read_number (number : Json.Number)
    (finite : number.toDouble.isFinite = true) :
    Text.allBlank (normalizeNumber (Json.number number).plain) = false ∧
      (leadingNumber (normalizeNumber (Json.number number).plain) =
        number.toDouble ↔
          '.' ∉ number.characters ∨ number.toDouble.isZero = true) := by
  obtain ⟨pointless, left, read⟩ := number.exists_pointless finite
  have text_eq : (Json.number number).plain.toList = number.characters :=
    String.toList_ofList
  rw [← text_eq] at left
  rw [leadingNumber_normalizeNumber left]
  exact ⟨allBlank_normalizeNumber left, read⟩

/-- A number is sent to be compared by an operator: as the value of a
comparison, or as a bound of a range, whose lower bound may stand alone. -/
inductive Sends : FilterFunction → Json → Json.Number → String → Prop
  | value {function : FilterFunction} {number : Json.Number}
      {operator : String} (compares : operator? function = some operator) :
      Sends function (.number number) number operator
  | alone {number : Json.Number} :
      Sends .between (.number number) number ">="
  | lower {number : Json.Number} {others : List Json} :
      Sends .between (.list (.number number :: others)) number ">="
  | upper {number : Json.Number} {first : Json} {others : List Json} :
      Sends .between (.list (first :: .number number :: others)) number "<="

/-- A comparison of an expression with a number. -/
def compares (expression operator : String) (number : Double) : Fragment :=
  [.text s!"{expression} {operator} ", .value (.real number)]

/-- The condition of a filter compares its column with a number, and compares it
by the same operator with nothing else. -/
def Compares (context : Context) (filter : Filter) (column : Column)
    (operator : String) (number : Double) : Prop :=
  ∃ front behind,
    clause context filter = .ok (some (Fragment.join " AND "
      (front ++ compares (context.source.resolve column) operator number ::
        behind))) ∧
    ∀ other ∈ front ++ behind, ∃ operator' number', operator' ≠ operator ∧
      other = compares (context.source.resolve column) operator' number'

theorem eq_compares_of_mem_side {expression operator text : String}
    {fragment : Fragment} (member : fragment ∈ side expression operator text) :
    fragment = compares expression operator (leadingNumber text) := by
  unfold side at member
  split at member
  · cases member
  · exact List.eq_of_mem_singleton member

section Sent

variable {context : Context} {column : Column} {function : FilterFunction}

theorem predicate_of_operator? {operator : String}
    (compares : operator? function = some operator) {value : FilterValue}
    (given : Text.allBlank value.text = false) :
    predicate context column function value =
      .ok (some (comparison (context.source.resolve column) operator
        value.text)) := by
  cases function <;> cases compares <;>
    simp [predicate, given, operator?]

theorem side_of_given {expression operator text : String}
    (given : Text.allBlank text = false) :
    side expression operator text = [comparison expression operator text] :=
  if_neg (by simp [given])

theorem predicate_between {value : FilterValue} {sides : List Fragment}
    (sides_eq : side (context.source.resolve column) ">=" (value.bound 0) ++
      side (context.source.resolve column) "<=" (value.bound 1) = sides)
    (given : sides ≠ []) :
    predicate context column .between value =
      .ok (some (Fragment.join " AND " sides)) := by
  obtain ⟨first, rest, rfl⟩ := List.exists_cons_of_ne_nil given
  simp only [predicate, sides_eq]

variable {filter : Filter} {json : Json} {number : Json.Number}
  {operator : String}

theorem clause_eq_predicate
    (named : FilterFunction.ofName? filter.function = some function)
    (found : context.columns.get? filter.column = some column)
    (canFilter : column.canFilter = true)
    (typed : context.typeOf column = .number) :
    clause context filter =
      predicate context column function (filter.value.map normalizeNumber) := by
  have typed_eq : context.typed column = normalizeNumber := by
    funext text
    exact if_pos typed
  rw [clause, named, found]
  simp [Option.filter, canFilter, typed_eq]

theorem compares_lower {value : FilterValue} {text : String}
    (asked : clause context filter = predicate context column .between value)
    (bound_eq : value.bound 0 = text) (given : Text.allBlank text = false) :
    Compares context filter column ">=" (leadingNumber text) := by
  refine ⟨[], side (context.source.resolve column) "<=" (value.bound 1),
    asked.trans (predicate_between ?_ (by simp)), fun other member => ?_⟩
  · rw [bound_eq, side_of_given given]
    rfl
  · exact ⟨"<=", _, by decide, eq_compares_of_mem_side member⟩

theorem compares_upper {value : FilterValue} {text : String}
    (asked : clause context filter = predicate context column .between value)
    (bound_eq : value.bound 1 = text) (given : Text.allBlank text = false) :
    Compares context filter column "<=" (leadingNumber text) := by
  refine ⟨side (context.source.resolve column) ">=" (value.bound 0), [],
    asked.trans (predicate_between ?_ (by simp)), fun other member => ?_⟩
  · rw [bound_eq, side_of_given given]
    rfl
  · rw [List.append_nil] at member
    exact ⟨">=", _, by decide, eq_compares_of_mem_side member⟩

/-- A number that is sent to be compared is compared as what it is read as. -/
theorem Sends.compares (sends : Sends function json number operator)
    (value_eq : filter.value = .ofJson json)
    (asked : clause context filter =
      predicate context column function (filter.value.map normalizeNumber))
    (given : Text.allBlank (normalizeNumber (Json.number number).plain) =
      false) :
    Compares context filter column operator
      (leadingNumber (normalizeNumber (Json.number number).plain)) := by
  rw [value_eq] at asked
  cases sends with
  | value compares =>
      refine ⟨[], [], asked.trans (predicate_of_operator? compares given), ?_⟩
      simp
  | alone => exact compares_lower asked rfl given
  | lower => exact compares_lower asked rfl given
  | upper => exact compares_upper asked rfl given

/-- A number that is sent to a column of numbers is compared with the column as
that number, unless its text has a point.  The point is taken for a separator of
thousands, so that what is written compares the column with another number. -/
theorem compares_sent_number
    (named : FilterFunction.ofName? filter.function = some function)
    (found : context.columns.get? filter.column = some column)
    (canFilter : column.canFilter = true)
    (typed : context.typeOf column = .number)
    (value_eq : filter.value = .ofJson json)
    (sends : Sends function json number operator)
    (finite : number.toDouble.isFinite = true) :
    Writes (writeClause context filter) (clause context filter) ∧
    ∃ bound, Compares context filter column operator bound ∧
      (bound = number.toDouble ↔
        '.' ∉ number.characters ∨ number.toDouble.isZero = true) := by
  obtain ⟨given, read⟩ := read_number number finite
  exact ⟨writes_clause context filter, _, sends.compares value_eq
    (clause_eq_predicate named found canFilter typed) given, read⟩

end Sent

/-- The number 1.5. -/
def oneAndHalf : Double := { negative := false, place := 0x3FF8000000000000 }

theorem people_age :
    ∃ column, peopleContext.columns.get? "age" = some column ∧
      column.canFilter = true ∧ peopleContext.typeOf column = .number :=
  ⟨_, rfl, rfl, rfl⟩

/-- Of an age between 34 and 1.5 the lower bound is 34 and the upper one is not
1.5. -/
theorem people_compares_sent_number :
    let filter : Filter := ⟨"age", some "between", .ofJson
      (.list [.number (.integer 34), .number (.real oneAndHalf)])⟩
    ∃ column upper, peopleContext.columns.get? "age" = some column ∧
      column.canFilter = true ∧ peopleContext.typeOf column = .number ∧
      Compares peopleContext filter column ">=" (.ofInt 34) ∧
      Compares peopleContext filter column "<=" upper ∧
      upper ≠ oneAndHalf := by
  intro filter
  have named : FilterFunction.ofName? filter.function = some .between := rfl
  obtain ⟨column, found, canFilter, typed⟩ := people_age
  obtain ⟨-, lower, comparesLower, lower_iff⟩ :=
    compares_sent_number named found canFilter typed rfl .lower
      (show (Json.Number.integer 34).toDouble.isFinite = true by
        decide +kernel)
  obtain ⟨-, upper, comparesUpper, upper_iff⟩ :=
    compares_sent_number named found canFilter typed rfl .upper
      (show (Json.Number.real oneAndHalf).toDouble.isFinite = true by
        decide +kernel)
  have lower_eq : lower = .ofInt 34 :=
    lower_iff.mpr (.inl (by decide +kernel))
  refine ⟨column, upper, found, canFilter, typed, lower_eq ▸ comparesLower,
    comparesUpper, fun same => ?_⟩
  exact absurd (upper_iff.mp same) (by decide +kernel)

theorem mem_values_of_compares {context : Context} {filter : Filter}
    {column : Column} {operator : String} {number : Double}
    (compares : Compares context filter column operator number) :
    ∃ fragment, clause context filter = .ok (some fragment) ∧
      .real number ∈ fragment.values := by
  obtain ⟨front, behind, clause_eq, -⟩ := compares
  refine ⟨_, clause_eq, ?_⟩
  rw [Fragment.values_join]
  simp [Filter.compares, Fragment.values]

/-- Not every number that is sent to a column of numbers is compared as that
number. -/
theorem not_forall_compares_sent_number :
    ¬ ∀ (context : Context) (filter : Filter) (column : Column)
        (function : FilterFunction) (json : Json) (number : Json.Number)
        (operator : String),
      FilterFunction.ofName? filter.function = some function →
      context.columns.get? filter.column = some column →
      column.canFilter = true → context.typeOf column = .number →
      filter.value = .ofJson json → Sends function json number operator →
      number.toDouble.isFinite = true →
      Compares context filter column operator number.toDouble := by
  intro every
  obtain ⟨column, found, canFilter, typed⟩ := people_age
  let sent : Json := .number (.real oneAndHalf)
  let filter : Filter := ⟨"age", some "greaterThan", .ofJson sent⟩
  have named : FilterFunction.ofName? filter.function = some .greaterThan :=
    rfl
  obtain ⟨fragment, claimed, member⟩ := mem_values_of_compares
    (every peopleContext filter column .greaterThan sent (.real oneAndHalf) ">"
      named found canFilter typed rfl (.value rfl) (by decide +kernel))
  have asked := (clause_eq_predicate named found canFilter typed).trans
    (predicate_of_operator? rfl (by decide +kernel))
  rw [asked] at claimed
  obtain rfl := Option.some.inj (Except.ok.inj claimed)
  have read : leadingNumber (normalizeNumber sent.plain) = oneAndHalf :=
    (Value.real.inj (List.eq_of_mem_singleton member)).symm
  exact absurd read (by decide +kernel)

end Filter

end DataGrid
