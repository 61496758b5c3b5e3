import DataGrid.Proofs.Decimal.Value

/-!
# Numerals without a point

A numeral without a point is digits, a sign in front of them if it is negative,
and perhaps an exponent.  It is taken whole, and its value is its digits times
the power of ten.
-/

namespace DataGrid.Decimal

/-- A numeral without a point. -/
structure Pointless where
  negative : Bool
  digits : List Char
  exponent? : Option ℤ
  nonempty : digits ≠ []
  all_isDigit : ∀ digit ∈ digits, digit.isDigit = true

namespace Pointless

variable (pointless : Pointless)

def exponentCharacters : Option ℤ → List Char
  | none => []
  | some exponent =>
      'e' :: (if exponent < 0 then '-' else '+') ::
        Json.digitsOf exponent.natAbs

def characters : List Char :=
  (if pointless.negative then ['-'] else []) ++
    (pointless.digits ++ exponentCharacters pointless.exponent?)

def numeral : Numeral where
  negative := pointless.negative
  whole := pointless.digits
  fraction := []
  exponentNegative := pointless.exponent?.any fun exponent => exponent < 0
  exponent :=
    (pointless.exponent?.map fun exponent =>
      Json.digitsOf exponent.natAbs).getD []

theorem significand_numeral :
    pointless.numeral.significand = digitsValue pointless.digits := by
  simp [Numeral.significand, numeral]

theorem scale_numeral :
    pointless.numeral.scale = pointless.exponent?.getD 0 := by
  unfold Numeral.scale numeral
  cases pointless.exponent? with
  | none => simp [digitsValue]
  | some exponent =>
      simp only [Option.any_some, Option.map_some, Option.getD_some,
        Json.digitsOf, digitsValue_toDigits, decide_eq_true_eq,
        List.length_nil]
      split <;> omega

theorem takeDigits_digitsOf (value : ℕ) :
    Numeral.takeDigits (Json.digitsOf value) = (Json.digitsOf value, []) := by
  have taken : Numeral.takeDigits (Json.digitsOf value ++ []) =
      (Json.digitsOf value, []) :=
    Numeral.takeDigits_append (fun _ => isDigit_of_mem_toDigits) (by simp)
  rwa [List.append_nil] at taken

theorem isEmpty_digitsOf (value : ℕ) :
    (Json.digitsOf value).isEmpty = false := by
  rw [List.isEmpty_eq_false_iff]
  exact Nat.toDigits_ne_nil

theorem takeExponent_exponentCharacters (exponent? : Option ℤ) :
    Numeral.takeExponent (exponentCharacters exponent?) =
      (exponent?.any fun exponent => exponent < 0,
        (exponent?.map fun exponent =>
          Json.digitsOf exponent.natAbs).getD [], []) := by
  cases exponent? with
  | none => rfl
  | some exponent =>
      rw [exponentCharacters, Numeral.takeExponent]
      by_cases negative : exponent < 0 <;>
        simp [negative, Numeral.takeSign, takeDigits_digitsOf,
          isEmpty_digitsOf]

theorem takeSign_characters :
    Numeral.takeSign pointless.characters =
      (pointless.negative,
        pointless.digits ++ exponentCharacters pointless.exponent?) := by
  unfold characters
  cases pointless.negative with
  | true => rfl
  | false =>
      obtain ⟨first, rest, digits_eq⟩ :=
        List.exists_cons_of_ne_nil pointless.nonempty
      have first_isDigit := pointless.all_isDigit first (by simp [digits_eq])
      rw [digits_eq]
      refine Numeral.takeSign_of_head? ?_
      rintro _ ⟨rfl⟩
      constructor <;>
        · rintro rfl
          cases first_isDigit

theorem takeDigits_characters :
    Numeral.takeDigits
        (pointless.digits ++ exponentCharacters pointless.exponent?) =
      (pointless.digits, exponentCharacters pointless.exponent?) := by
  refine Numeral.takeDigits_append pointless.all_isDigit ?_
  cases pointless.exponent? with
  | none => simp [exponentCharacters]
  | some exponent => simp [exponentCharacters]

theorem takeFraction_exponentCharacters (exponent? : Option ℤ) :
    Numeral.takeFraction (exponentCharacters exponent?) =
      ([], exponentCharacters exponent?) := by
  cases exponent? <;> rfl

/-- The whole text is taken. -/
theorem take_characters :
    Numeral.take pointless.characters = some (pointless.numeral, []) := by
  have some_digits : pointless.digits.isEmpty = false :=
    List.isEmpty_eq_false_iff.mpr pointless.nonempty
  unfold Numeral.take
  simp only [takeSign_characters, takeDigits_characters,
    takeFraction_exponentCharacters, takeExponent_exponentCharacters,
    some_digits, Bool.false_and, Bool.false_eq_true, if_false]
  rfl

theorem toDouble_numeral :
    pointless.numeral.toDouble =
      .ofDecimal pointless.negative (digitsValue pointless.digits)
        (pointless.exponent?.getD 0) := by
  have all : ∀ digit ∈ pointless.numeral.whole ++ pointless.numeral.fraction,
      digit.isDigit = true := by
    simpa [numeral] using pointless.all_isDigit
  rw [Numeral.toDouble_eq_ofDecimal all, significand_numeral, scale_numeral]
  rfl

/-- A numeral that has the shortest digits of a number, perhaps with some tens
more, is the number when there are no more tens. -/
theorem toDouble_eq_iff {number : Double} (place_pos : 0 < number.place)
    (finite : number.place < Double.infinity) {factor tens : ℕ} {grid : ℤ}
    (found : shortest number.place = (factor, grid))
    (sign : pointless.negative = number.negative)
    (value_eq : (digitsValue pointless.digits : ℚ) *
      10 ^ pointless.exponent?.getD 0 = factor * 10 ^ (grid + tens)) :
    pointless.numeral.toDouble = number ↔ tens = 0 := by
  have place_iff := Double.place_ofDecimal_eq_iff_tens place_pos finite found
    value_eq pointless.negative
  rw [toDouble_numeral]
  constructor
  · rintro rfl
    exact place_iff.mp rfl
  · intro none
    exact Double.ext ((Double.negative_ofDecimal _ _ _).trans sign)
      (place_iff.mpr none)

end Pointless

end DataGrid.Decimal
