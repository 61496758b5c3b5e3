import DataGrid.Json.Writer
import DataGrid.Proofs.Decimal.Pointless

/-!
# Texts of numbers without their points

The text of a number whose points are dropped is a numeral without a point.  The
numeral of an integer is the integer.  The numeral of a double precision number
has as many tens too many as there were digits behind the point, so it is the
number only when there was no point to drop.
-/

namespace DataGrid

namespace Decimal

theorem digitsValue_append_zeros (digits : List Char) (count : ℕ) :
    digitsValue (digits ++ List.replicate count '0') =
      digitsValue digits * 10 ^ count := by
  induction count with
  | zero => simp
  | succ count ih =>
      rw [List.replicate_succ', ← List.append_assoc, digitsValue,
        List.foldl_append]
      change 10 * digitsValue (digits ++ List.replicate count '0') + 0 = _
      rw [ih, Nat.pow_succ]
      ring

theorem digitsValue_zeros_append (count : ℕ) (digits : List Char) :
    digitsValue (List.replicate count '0' ++ digits) = digitsValue digits := by
  have zeros := digitsValue_append_zeros [] count
  rw [List.nil_append] at zeros
  have none : digitsValue [] = 0 := rfl
  rw [none, Nat.zero_mul] at zeros
  rw [digitsValue, List.foldl_append]
  change List.foldl _ (digitsValue (List.replicate count '0')) digits = _
  rw [zeros]
  rfl

end Decimal

namespace Json

/-- What is left of a text when its points are dropped. -/
def withoutPoints (text : List Char) : List Char :=
  text.filter (· != '.')

theorem withoutPoints_append (front back : List Char) :
    withoutPoints (front ++ back) = withoutPoints front ++ withoutPoints back :=
  List.filter_append ..

theorem withoutPoints_of_not_mem {text : List Char} (none : '.' ∉ text) :
    withoutPoints text = text := by
  refine List.filter_eq_self.mpr fun character member => ?_
  rw [bne_iff_ne]
  rintro rfl
  exact none member

theorem not_mem_of_isDigit {digits : List Char}
    (all : ∀ digit ∈ digits, digit.isDigit = true) : '.' ∉ digits :=
  fun member => absurd (all _ member) (by decide)

theorem withoutPoints_of_isDigit {digits : List Char}
    (all : ∀ digit ∈ digits, digit.isDigit = true) :
    withoutPoints digits = digits :=
  withoutPoints_of_not_mem (not_mem_of_isDigit all)

theorem isDigit_of_mem_zeros {count : ℕ} {digit : Char}
    (member : digit ∈ List.replicate count '0') : digit.isDigit = true := by
  rw [List.eq_of_mem_replicate member]
  rfl

/-- Digits with a point are the digits without it, among zeros.  There are more
digits than stood in front of the point. -/
theorem withoutPoints_pointed {digits : List Char} (nonempty : digits ≠ [])
    (all : ∀ digit ∈ digits, digit.isDigit = true) (count : ℤ) :
    '.' ∈ pointed digits count ∧
      ∃ front behind tens : ℕ,
        withoutPoints (pointed digits count) =
          List.replicate front '0' ++
            (digits ++ List.replicate behind '0') ∧
        0 < tens ∧ (behind : ℤ) = count - digits.length + tens := by
  have length_pos := List.length_pos_iff.mpr nonempty
  have zeros (zeros : ℕ) : withoutPoints (List.replicate zeros '0') =
      List.replicate zeros '0' :=
    withoutPoints_of_isDigit fun _ => isDigit_of_mem_zeros
  have digits_eq := withoutPoints_of_isDigit all
  unfold pointed
  split
  · refine ⟨by simp, (-count).toNat + 1, 0,
      (digits.length - count).toNat, ?_, by omega, by omega⟩
    rw [withoutPoints_append, digits_eq]
    change '0' :: withoutPoints (List.replicate _ '0') ++ digits = _
    rw [zeros, List.replicate_zero, List.append_nil]
    rfl
  · split
    · refine ⟨by simp, 0, count.toNat - digits.length + 1, 1, ?_, by omega,
        by omega⟩
      rw [withoutPoints_append, withoutPoints_append, digits_eq, zeros,
        List.replicate_succ']
      change _ ++ ['0'] = [] ++ _
      rw [List.nil_append, List.append_assoc]
    · refine ⟨by simp, 0, 0, digits.length - count.toNat, ?_, by omega,
        by omega⟩
      rw [withoutPoints_append]
      change _ ++ withoutPoints (digits.drop count.toNat) = [] ++ (digits ++ [])
      rw [← withoutPoints_append, List.take_append_drop, digits_eq,
        List.nil_append, List.append_nil]

theorem isDigit_of_mem_digitsOf {value : ℕ} {digit : Char}
    (member : digit ∈ digitsOf value) : digit.isDigit = true :=
  Decimal.isDigit_of_mem_toDigits member

theorem digitsOf_ne_nil (value : ℕ) : digitsOf value ≠ [] :=
  Nat.toDigits_ne_nil

theorem not_mem_digitsOf (value : ℕ) : '.' ∉ digitsOf value :=
  not_mem_of_isDigit fun _ => isDigit_of_mem_digitsOf

theorem not_mem_exponentCharacters (exponent? : Option ℤ) :
    '.' ∉ Decimal.Pointless.exponentCharacters exponent? := by
  cases exponent? with
  | none => simp [Decimal.Pointless.exponentCharacters]
  | some exponent =>
      have digits := not_mem_digitsOf exponent.natAbs
      by_cases negative : exponent < 0 <;>
        simp [Decimal.Pointless.exponentCharacters, negative, digits]

/-- A text is digits, perhaps with an exponent, when its points are dropped.
They come to as many tens too many as there were digits behind the point. -/
structure Loses (text : List Char) (factor : ℕ) (grid : ℤ)
    (digits : List Char) (exponent? : Option ℤ) (tens : ℕ) : Prop where
  left : withoutPoints text =
    digits ++ Decimal.Pointless.exponentCharacters exponent?
  nonempty : digits ≠ []
  all_isDigit : ∀ digit ∈ digits, digit.isDigit = true
  value_eq : (Decimal.digitsValue digits : ℚ) * 10 ^ exponent?.getD 0 =
    factor * 10 ^ (grid + tens)
  exponent_eq : tens = 0 → exponent?.getD 0 = grid
  point : '.' ∈ text ↔ tens ≠ 0

theorem loses_pointed (factor : ℕ) {grid : ℤ} (count : ℤ) (exponent? : Option ℤ)
    (counted : count - (digitsOf factor).length + exponent?.getD 0 = grid) :
    ∃ digits tens,
      Loses (pointed (digitsOf factor) count ++
          Decimal.Pointless.exponentCharacters exponent?)
        factor grid digits exponent? tens := by
  obtain ⟨point, front, behind, tens, left, tens_pos, behind_eq⟩ :=
    withoutPoints_pointed (digitsOf_ne_nil factor)
      (fun _ => isDigit_of_mem_digitsOf) count
  refine ⟨List.replicate front '0' ++
    (digitsOf factor ++ List.replicate behind '0'), tens, ?_, ?_, ?_, ?_,
    by omega, iff_of_true (List.mem_append_left _ point) tens_pos.ne'⟩
  · rw [withoutPoints_append, left,
      withoutPoints_of_not_mem (not_mem_exponentCharacters _)]
  · simp [digitsOf]
  · intro digit member
    simp only [List.mem_append] at member
    rcases member with zero | given | zero
    · exact isDigit_of_mem_zeros zero
    · exact isDigit_of_mem_digitsOf given
    · exact isDigit_of_mem_zeros zero
  · rw [Decimal.digitsValue_zeros_append, Decimal.digitsValue_append_zeros,
      digitsOf, Decimal.digitsValue_toDigits, Nat.cast_mul, Nat.cast_pow,
      Nat.cast_ofNat, mul_assoc, ← zpow_natCast, ← zpow_add₀ (by norm_num)]
    congr 2
    omega

theorem magnitudeText_eq {place factor : ℕ} {grid : ℤ}
    (found : Decimal.shortest place = (factor, grid)) :
    magnitudeText place =
      if -5 ≤ grid + (digitsOf factor).length - 1 &&
        grid + (digitsOf factor).length - 1 ≤ 15 then
          pointed (digitsOf factor) (grid + (digitsOf factor).length - 1 + 1)
      else
        (match digitsOf factor with
          | [digit] => [digit]
          | digits => pointed digits 1) ++
          Decimal.Pointless.exponentCharacters
            (some (grid + (digitsOf factor).length - 1)) := by
  unfold magnitudeText
  rw [found]
  rfl

/-- The text of a magnitude loses as many tens as there are digits behind its
point. -/
theorem loses_magnitudeText {place factor : ℕ} {grid : ℤ}
    (found : Decimal.shortest place = (factor, grid)) :
    ∃ digits exponent? tens,
      Loses (magnitudeText place) factor grid digits exponent? tens := by
  rw [magnitudeText_eq found]
  split
  · obtain ⟨digits, tens, loses⟩ := loses_pointed factor
      (grid + (digitsOf factor).length - 1 + 1) none
      (show _ = grid by simp)
    rw [Decimal.Pointless.exponentCharacters, List.append_nil] at loses
    exact ⟨digits, none, tens, loses⟩
  · split
    · -- A single digit in front of an exponent has no point behind it.
      rename_i digit single
      have all : ∀ character ∈ [digit], character.isDigit = true := by
        intro character member
        exact isDigit_of_mem_digitsOf (single ▸ member)
      have value_eq : Decimal.digitsValue [digit] = factor := by
        rw [← single]
        exact Decimal.digitsValue_toDigits factor
      have exponent_eq : grid + ((digitsOf factor).length : ℤ) - 1 = grid := by
        simp [single]
      have none := not_mem_of_isDigit all
      have none' := not_mem_exponentCharacters (some grid)
      rw [exponent_eq]
      refine ⟨[digit], some grid, 0, ?_, by simp, all, ?_, fun _ => rfl, ?_⟩
      · rw [withoutPoints_append, withoutPoints_of_not_mem none,
          withoutPoints_of_not_mem none']
      · simp [value_eq]
      · simpa using ⟨by simpa using none, none'⟩
    · obtain ⟨digits, tens, loses⟩ := loses_pointed factor 1
        (some (grid + (digitsOf factor).length - 1)) (show _ = grid by simp)
      exact ⟨digits, _, tens, loses⟩

/-- The double precision number that a number denotes. -/
def Number.toDouble : Number → Double
  | .integer value => .ofInt value
  | .real value => value

theorem withoutPoints_signed (negative : Bool) (text : List Char) :
    withoutPoints (if negative then '-' :: text else text) =
      (if negative then ['-'] else []) ++ withoutPoints text := by
  cases negative <;> rfl

theorem withoutPoints_integerText (value : ℤ) :
    withoutPoints (integerText value) = integerText value := by
  refine withoutPoints_of_not_mem fun member => ?_
  have digits := not_mem_digitsOf value.natAbs
  unfold integerText at member
  split at member <;> simp [digits] at member

/-- An integer is read as the number nearest to it. -/
theorem exists_pointless_integer (value : ℤ) :
    ∃ pointless : Decimal.Pointless,
      withoutPoints (integerText value) = pointless.characters ∧
        pointless.numeral.toDouble = .ofInt value := by
  refine ⟨⟨decide (value < 0), digitsOf value.natAbs, none,
    digitsOf_ne_nil _, fun _ => isDigit_of_mem_digitsOf⟩, ?_, ?_⟩
  · rw [withoutPoints_integerText]
    by_cases negative : value < 0 <;>
      simp [integerText, Decimal.Pointless.characters,
        Decimal.Pointless.exponentCharacters, negative]
  · have digits_eq : Decimal.digitsValue (digitsOf value.natAbs) =
        value.natAbs :=
      Decimal.digitsValue_toDigits _
    rw [Decimal.Pointless.toDouble_numeral]
    simp [digits_eq, Double.ofDecimal, Double.ofInt]

theorem realText_of_zero {number : Double} (zero : number.place = 0) :
    realText number =
      if number.negative then '-' :: ['0', '.', '0'] else ['0', '.', '0'] := by
  simp [realText, Double.isZero, zero]

theorem realText_of_pos {number : Double} (place_pos : 0 < number.place) :
    realText number =
      if number.negative then '-' :: magnitudeText number.place
      else magnitudeText number.place := by
  simp [realText, Double.isZero, place_pos.ne']

theorem exists_pointless_zero {number : Double} (zero : number.place = 0) :
    ∃ pointless : Decimal.Pointless,
      withoutPoints (realText number) = pointless.characters ∧
        pointless.numeral.toDouble = number := by
  refine ⟨⟨number.negative, ['0', '0'], none, by simp,
    List.all_eq_true.mp rfl⟩, ?_, ?_⟩
  · rw [realText_of_zero zero, withoutPoints_signed]
    rfl
  · rw [Decimal.Pointless.toDouble_numeral]
    exact Double.ext rfl zero.symm

/-- A number that is not zero is left when it had no point. -/
theorem exists_pointless_real {number : Double} (place_pos : 0 < number.place)
    (finite : number.place < Double.infinity) :
    ∃ pointless : Decimal.Pointless,
      withoutPoints (realText number) = pointless.characters ∧
        (pointless.numeral.toDouble = number ↔ '.' ∉ realText number) := by
  rcases found : Decimal.shortest number.place with ⟨factor, grid⟩
  obtain ⟨digits, exponent?, tens, loses⟩ := loses_magnitudeText found
  refine ⟨⟨number.negative, digits, exponent?, loses.nonempty,
    loses.all_isDigit⟩, ?_, ?_⟩
  · rw [realText_of_pos place_pos, withoutPoints_signed, loses.left]
    rfl
  · have point : '.' ∈ realText number ↔ '.' ∈ magnitudeText number.place := by
      rw [realText_of_pos place_pos]
      cases number.negative <;> simp
    rw [point, loses.point, not_not]
    exact Decimal.Pointless.toDouble_eq_iff _ place_pos finite found rfl
      loses.value_eq

/-- Without its point a number is left that is the number itself when it is zero
or has no point. -/
theorem Number.exists_pointless (number : Number)
    (finite : number.toDouble.isFinite = true) :
    ∃ pointless : Decimal.Pointless,
      withoutPoints number.characters = pointless.characters ∧
        (pointless.numeral.toDouble = number.toDouble ↔
          '.' ∉ number.characters ∨ number.toDouble.isZero = true) := by
  cases number with
  | integer value =>
      obtain ⟨pointless, left, read⟩ := exists_pointless_integer value
      have none : '.' ∉ integerText value := by
        rw [← withoutPoints_integerText]
        simp [withoutPoints]
      exact ⟨pointless, left, iff_of_true read (.inl none)⟩
  | real value =>
      rcases Nat.eq_zero_or_pos value.place with zero | place_pos
      · obtain ⟨pointless, left, read⟩ := exists_pointless_zero zero
        have isZero : value.isZero = true := by simp [Double.isZero, zero]
        exact ⟨pointless, left, iff_of_true read (.inr isZero)⟩
      · obtain ⟨pointless, left, read⟩ :=
          exists_pointless_real place_pos (of_decide_eq_true finite)
        have notZero : value.isZero = false := by
          simp [Double.isZero, place_pos.ne']
        refine ⟨pointless, left, ?_⟩
        simpa [Number.toDouble, Number.characters, notZero] using read

end Json

end DataGrid
