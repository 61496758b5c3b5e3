import DataGrid.Decimal.Integer
import DataGrid.Json.Writer
import Mathlib.Logic.Basic
import Mathlib.Tactic.ByContra

/-!
# Decimals of integers

An integer is written in one way, its decimal, and read in many: a plus sign may
stand in front of it, and so may zeros.  Reading a decimal gives the integer
back, and what is read as an integer is its decimal unless it is spelled in one
of those other ways.
-/

namespace DataGrid.Decimal

theorem digitsValue_eq_ofDigitChars (digits : List Char) :
    digitsValue digits = Nat.ofDigitChars 10 digits 0 :=
  rfl

@[simp]
theorem digitsValue_toDigits (value : Nat) :
    digitsValue (Nat.toDigits 10 value) = value :=
  Nat.ofDigitChars_ten_toDigits

theorem isDigit_of_mem_toDigits {value : Nat} {digit : Char}
    (member : digit ∈ Nat.toDigits 10 value) : digit.isDigit = true :=
  Nat.isDigit_of_mem_toDigits (by decide) (by decide) member

theorem readDigits_eq_some_iff {digits : List Char} {value : Nat} :
    readDigits digits = some value ↔
      digits ≠ [] ∧ (∀ digit ∈ digits, digit.isDigit = true) ∧
        digitsValue digits = value := by
  cases digits <;> simp [readDigits, and_assoc]

theorem readDigits_toDigits (value : Nat) :
    readDigits (Nat.toDigits 10 value) = some value :=
  readDigits_eq_some_iff.mpr ⟨Nat.toDigits_ne_nil,
    fun _ => isDigit_of_mem_toDigits, digitsValue_toDigits value⟩

theorem code_of_isDigit {digit : Char} (isDigit : digit.isDigit = true) :
    0x30 ≤ digit.toNat ∧ digit.toNat ≤ 0x39 := by
  simpa [Char.isDigit, UInt32.le_iff_toNat_le] using isDigit

theorem toDigits_code {digit : Char} (isDigit : digit.isDigit = true) :
    Nat.toDigits 10 (digit.toNat - 0x30) = [digit] := by
  obtain ⟨lower, upper⟩ := code_of_isDigit isDigit
  have value_lt : digit.toNat - 0x30 < 10 := by omega
  have rebuilt : Nat.digitChar (digit.toNat - 0x30) = digit := by
    apply Char.toNat_inj.mp
    rw [Nat.toNat_digitChar_of_lt_ten value_lt]
    omega
  rw [Nat.toDigits_of_lt_base value_lt, rebuilt]

/-- Digits behind the decimal of a positive number make the decimal of the
number that they make it. -/
theorem toDigits_ofDigitChars {value : Nat} (positive : 0 < value)
    {digits : List Char} (all : ∀ digit ∈ digits, digit.isDigit = true) :
    Nat.toDigits 10 (Nat.ofDigitChars 10 digits value) =
      Nat.toDigits 10 value ++ digits := by
  induction digits generalizing value with
  | nil => simp
  | cons digit rest ih =>
      rw [List.forall_mem_cons] at all
      obtain ⟨lower, upper⟩ := code_of_isDigit all.1
      have appended := Nat.toDigits_append_toDigits (b := 10)
        (d := digit.toNat - 0x30) (by decide) positive (by omega)
      rw [toDigits_code all.1] at appended
      have zero : '0'.toNat = 0x30 := rfl
      rw [Nat.ofDigitChars_cons, zero, ih (by omega) all.2, ← appended]
      simp

/-- Digits without a zero in front are the decimal of their value. -/
theorem toDigits_digitsValue {first : Char} {rest : List Char}
    (all : ∀ digit ∈ first :: rest, digit.isDigit = true)
    (nonzero : first ≠ '0') :
    Nat.toDigits 10 (digitsValue (first :: rest)) = first :: rest := by
  rw [List.forall_mem_cons] at all
  obtain ⟨lower, upper⟩ := code_of_isDigit all.1
  have positive : 0 < first.toNat - 0x30 := by
    have differs : first.toNat ≠ 0x30 := fun same =>
      nonzero (Char.toNat_inj.mp same)
    omega
  have zero : '0'.toNat = 0x30 := rfl
  rw [digitsValue_eq_ofDigitChars, Nat.ofDigitChars_cons, zero, Nat.mul_zero,
    Nat.zero_add, toDigits_ofDigitChars positive all.2, toDigits_code all.1,
    List.singleton_append]

/-- Only the decimal of zero begins with a zero. -/
theorem head?_toDigits {value : Nat} (positive : 0 < value) :
    (Nat.toDigits 10 value).head? ≠ some '0' := by
  induction value using Nat.strongRecOn with
  | ind value ih =>
      rcases Nat.lt_or_ge value 10 with single | more
      · have nonzero : ∀ value < 10, 0 < value →
            Nat.digitChar value ≠ '0' := by
          decide
        rw [Nat.toDigits_of_lt_base single]
        simpa using nonzero value single positive
      · have front := ih (value / 10) (by omega) (by omega)
        obtain ⟨first, rest, shape⟩ :=
          List.exists_cons_of_ne_nil (Nat.toDigits_ne_nil (n := value / 10))
        rw [shape] at front
        rwa [Nat.toDigits_of_base_le (by decide) more, shape]

/-- Digits are the decimal of their value when no zero stands in front of
them. -/
theorem toDigits_eq_iff {digits : List Char} {value : Nat}
    (read : readDigits digits = some value) :
    Nat.toDigits 10 value = digits ↔
      digits = ['0'] ∨ digits.head? ≠ some '0' := by
  obtain ⟨nonempty, all, rfl⟩ := readDigits_eq_some_iff.mp read
  obtain ⟨first, rest, rfl⟩ := List.exists_cons_of_ne_nil nonempty
  constructor
  · intro decimal
    rcases Nat.eq_zero_or_pos (digitsValue (first :: rest)) with zero | positive
    · rw [zero] at decimal
      exact .inl decimal.symm
    · exact .inr (decimal ▸ head?_toDigits positive)
  · rintro (zero | nonzero)
    · rw [zero]
      rfl
    · exact toDigits_digitsValue all (by simpa using nonzero)

/-- A text spells an integer: digits with or without a sign. -/
inductive Spells : List Char → Int → Prop
  | plain {digits : List Char} {value : Nat}
      (read : readDigits digits = some value) : Spells digits value
  | plus {digits : List Char} {value : Nat}
      (read : readDigits digits = some value) : Spells ('+' :: digits) value
  | minus {digits : List Char} {value : Nat}
      (read : readDigits digits = some value) : Spells ('-' :: digits) (-value)

/-- A sign is no digit. -/
theorem readDigits_cons_of_not_isDigit {sign : Char}
    (noDigit : sign.isDigit = false) (digits : List Char) :
    readDigits (sign :: digits) = none := by
  simp [readDigits, noDigit]

theorem readCharacters_eq_some_iff {characters : List Char} {value : Int} :
    readCharacters characters = some value ↔
      fits value = true ∧ Spells characters value := by
  unfold readCharacters
  simp only [Option.filter_eq_some_iff, and_comm (b := fits value = true)]
  refine and_congr_right fun _ => ?_
  split
  case h_1 digits =>
    constructor
    · intro reads
      obtain ⟨_, written, rfl⟩ := Option.map_eq_some_iff.mp reads
      obtain ⟨size, read, same⟩ := Option.bind_eq_some_iff.mp written
      obtain rfl := Option.some.inj same
      exact .minus read
    · generalize shape : '-' :: digits = characters
      rintro (read | read | read)
      · rw [← shape, readDigits_cons_of_not_isDigit rfl] at read
        cases read
      · simp at shape
      · simp [(List.cons.inj shape).2, read]
  case h_2 digits =>
    constructor
    · intro reads
      obtain ⟨size, read, rfl⟩ := Option.map_eq_some_iff.mp reads
      exact .plus read
    · generalize shape : '+' :: digits = characters
      rintro (read | read | read)
      · rw [← shape, readDigits_cons_of_not_isDigit rfl] at read
        cases read
      · simp [(List.cons.inj shape).2, read]
      · simp at shape
  case h_3 noMinus noPlus =>
    constructor
    · intro reads
      obtain ⟨size, read, rfl⟩ := Option.map_eq_some_iff.mp reads
      exact .plain read
    · rintro (read | read | read)
      · simp [read]
      · exact absurd rfl (noPlus _)
      · exact absurd rfl (noMinus _)

theorem integerText_natCast (value : Nat) :
    Json.integerText value = Nat.toDigits 10 value := by
  have positive : ¬ (value : Int) < 0 := by omega
  rw [Json.integerText, if_neg positive]
  rfl

theorem integerText_neg {value : Nat} (positive : 0 < value) :
    Json.integerText (-(value : Int)) = '-' :: Nat.toDigits 10 value := by
  have negative : -(value : Int) < 0 := by omega
  rw [Json.integerText, if_pos negative]
  simp [Json.digitsOf]

/-- The decimal of an integer spells it. -/
theorem spells_integerText (value : Int) :
    Spells (Json.integerText value) value := by
  obtain ⟨size, rfl | rfl⟩ := value.eq_nat_or_neg
  · rw [integerText_natCast]
    exact .plain (readDigits_toDigits size)
  · rcases Nat.eq_zero_or_pos size with rfl | positive
    · exact .plain (readDigits_toDigits 0)
    · rw [integerText_neg positive]
      exact .minus (readDigits_toDigits size)

/-- The spellings that are no decimal: with a plus sign, with a zero behind a
minus sign, and with a zero in front of something else. -/
def isSpelledOtherwise : List Char → Bool
  | '+' :: _ | '-' :: '0' :: _ | '0' :: _ :: _ => true
  | _ => false

theorem isSpelledOtherwise_minus (digits : List Char) :
    isSpelledOtherwise ('-' :: digits) = true ↔ digits.head? = some '0' := by
  cases digits with
  | nil => simp [isSpelledOtherwise]
  | cons first rest =>
      by_cases zero : first = '0' <;> simp [isSpelledOtherwise, zero]

theorem isSpelledOtherwise_digits {digits : List Char} {value : Nat}
    (read : readDigits digits = some value) :
    isSpelledOtherwise digits = true ↔
      digits.head? = some '0' ∧ digits ≠ ['0'] := by
  obtain ⟨nonempty, all, -⟩ := readDigits_eq_some_iff.mp read
  obtain ⟨first, rest, rfl⟩ := List.exists_cons_of_ne_nil nonempty
  have first_isDigit := all first List.mem_cons_self
  unfold isSpelledOtherwise
  split
  case h_1 shape => simp [List.head_eq_of_cons_eq shape] at first_isDigit
  case h_2 shape => simp [List.head_eq_of_cons_eq shape] at first_isDigit
  case h_3 shape =>
    rw [shape]
    simp
  case h_4 noPlus noMinus noZero =>
    have single : first = '0' → rest = [] := by
      rintro rfl
      by_contra more
      obtain ⟨second, others, rfl⟩ := List.exists_cons_of_ne_nil more
      exact noZero _ _ rfl
    have absent : ¬ (first = '0' ∧ first :: rest ≠ ['0']) := by
      rintro ⟨zero, more⟩
      exact more (by rw [zero, single zero])
    simpa using absent

/-- What spells an integer is its decimal unless it is spelled otherwise. -/
theorem Spells.integerText_eq_iff {characters : List Char} {value : Int}
    (spells : Spells characters value) :
    Json.integerText value = characters ↔
      isSpelledOtherwise characters = false := by
  rw [← Bool.not_eq_true]
  cases spells with
  | plain read =>
      rw [integerText_natCast, toDigits_eq_iff read,
        isSpelledOtherwise_digits read, not_and_or, not_not, or_comm]
  | @plus digits value read =>
      have noDecimal : Json.integerText value ≠ '+' :: digits := by
        rw [integerText_natCast]
        intro same
        have member : '+' ∈ Nat.toDigits 10 value := by simp [same]
        exact absurd (isDigit_of_mem_toDigits member) (by decide)
      simp [noDecimal, isSpelledOtherwise]
  | @minus digits value read =>
      rw [isSpelledOtherwise_minus]
      rcases Nat.eq_zero_or_pos value with rfl | positive
      · -- There is no minus sign in the decimal of zero.
        have begins : digits.head? = some '0' := by
          by_contra nonzero
          have decimal := (toDigits_eq_iff read).mpr (.inr nonzero)
          rw [← decimal] at nonzero
          exact nonzero rfl
        have noDecimal : Json.integerText 0 ≠ '-' :: digits := by
          change ['0'] ≠ '-' :: digits
          simp
        simp [noDecimal, begins]
      · have noZero : digits ≠ ['0'] := by
          rintro rfl
          have zero : value = 0 := (Option.some.inj read).symm
          omega
        rw [integerText_neg positive, List.cons.injEq, toDigits_eq_iff read]
        simp [noZero]

end DataGrid.Decimal
