import DataGrid.Proofs.Decimal.Grammar
import DataGrid.Proofs.Decimal.Shortest

/-!
# The value of a numeral

A numeral stands for its digits times a power of ten.  The number it is read as
is the nearest one at every scale: where the scale alone settles that the number
is zero or infinite, rounding comes to the same.
-/

namespace DataGrid

namespace Double

section Far

variable {numerator denominator : ℕ} (numerator_pos : 0 < numerator)
  (denominator_pos : 0 < denominator)

include numerator_pos denominator_pos

/-- Far above the greatest finite magnitude everything is infinite. -/
theorem placeOfRatio_of_great
    (great : (2 : ℚ) ^ (1100 : ℤ) ≤ numerator / denominator) :
    placeOfRatio numerator denominator = infinity := by
  obtain ⟨row, significand, place_eq, -, below, -⟩ :=
    placeOfRatio_eq numerator_pos denominator_pos
  rw [div_lt_iff₀ (two_zpow_pos _), leadingBit_cast,
    ← zpow_one_add₀ two_ne_zero, ← zpow_add₀ two_ne_zero] at below
  have exponents := (zpow_lt_zpow_iff_right₀ one_lt_two).mp
    (great.trans_lt below)
  have rows := Nat.mul_le_mul_right leadingBit (show 2047 ≤ row by omega)
  have infinity_eq : infinity = 2047 * leadingBit := rfl
  omega

/-- Far below the least magnitude everything is zero. -/
theorem placeOfRatio_of_small
    (small : (numerator / denominator : ℚ) < 2 ^ (-1100 : ℤ)) :
    placeOfRatio numerator denominator = 0 := by
  obtain ⟨row, significand, place_eq, rounds, -, normal⟩ :=
    placeOfRatio_eq numerator_pos denominator_pos
  have least : row = 0 := by
    refine normal.resolve_right fun leading => ?_
    rw [le_div_iff₀ (two_zpow_pos _), leadingBit_cast,
      ← zpow_add₀ two_ne_zero] at leading
    have exponents := (zpow_lt_zpow_iff_right₀ one_lt_two).mp
      (leading.trans_lt small)
    omega
  subst least
  have scaled_lt : (numerator / denominator / 2 ^ (((0 : ℕ) : ℤ) - 1074) : ℚ) <
      1 / 2 := by
    rw [div_lt_iff₀ (two_zpow_pos _)]
    have half : (1 / 2 : ℚ) = 2 ^ (-1 : ℤ) := by norm_num
    rw [half, ← zpow_add₀ two_ne_zero]
    exact small.trans_le (zpow_le_zpow_right₀ one_le_two (by decide))
  have significand_lt : (significand : ℚ) < 1 := by
    have lower := rounds.1
    linarith
  have significand_eq : significand = 0 := by
    have less : significand < 1 := by exact_mod_cast significand_lt
    omega
  rw [place_eq, significand_eq]
  rfl

end Far

/-- The magnitudes end well within four hundred decimal places. -/
theorem two_zpow_lt_ten_zpow : (2 : ℚ) ^ (1100 : ℤ) < 10 ^ (400 : ℤ) :=
  calc (2 : ℚ) ^ (1100 : ℤ) < 2 ^ ((3 : ℤ) * 400) :=
        zpow_lt_zpow_right₀ one_lt_two (by decide)
    _ = (2 ^ (3 : ℤ)) ^ (400 : ℤ) := zpow_mul _ _ _
    _ ≤ 10 ^ (400 : ℤ) :=
        zpow_le_zpow_left₀ (by decide) (by positivity) (by norm_num)

theorem place_ofDecimal_zero (negative : Bool) (exponent : ℤ) :
    (ofDecimal negative 0 exponent).place = 0 := by
  rw [place_ofDecimal, Nat.zero_mul]
  rfl

variable {digits : ℕ} (digits_pos : 0 < digits) {exponent : ℤ}

include digits_pos

theorem place_ofDecimal_of_great (negative : Bool) (great : 400 < exponent) :
    (ofDecimal negative digits exponent).place = infinity := by
  rw [place_ofDecimal]
  refine placeOfRatio_of_great
    (Nat.mul_pos digits_pos (powNumerator_pos (by decide) _))
    (powDenominator_pos (by decide) _) ?_
  rw [Decimal.ratio_eq_zpow]
  have one_le : (1 : ℚ) ≤ digits := by exact_mod_cast digits_pos
  calc (2 : ℚ) ^ (1100 : ℤ) ≤ 10 ^ (400 : ℤ) := two_zpow_lt_ten_zpow.le
    _ ≤ 10 ^ exponent := zpow_le_zpow_right₀ (by norm_num) great.le
    _ ≤ digits * 10 ^ exponent :=
      le_mul_of_one_le_left (by positivity) one_le

theorem place_ofDecimal_of_small (negative : Bool) {length : ℕ}
    (digits_lt : digits < 10 ^ length) (small : exponent + length < -400) :
    (ofDecimal negative digits exponent).place = 0 := by
  rw [place_ofDecimal]
  refine placeOfRatio_of_small
    (Nat.mul_pos digits_pos (powNumerator_pos (by decide) _))
    (powDenominator_pos (by decide) _) ?_
  rw [Decimal.ratio_eq_zpow]
  have digits_lt : (digits : ℚ) < 10 ^ (length : ℤ) := by
    exact_mod_cast digits_lt
  calc (digits : ℚ) * 10 ^ exponent
      < 10 ^ (length : ℤ) * 10 ^ exponent :=
        mul_lt_mul_of_pos_right digits_lt (by positivity)
    _ = 10 ^ (exponent + length) := by
        rw [← zpow_add₀ (by norm_num), add_comm]
    _ ≤ 10 ^ (-400 : ℤ) := zpow_le_zpow_right₀ (by norm_num) small.le
    _ < 2 ^ (-1100 : ℤ) := by
        rw [zpow_neg, zpow_neg]
        exact inv_strictAnti₀ (by positivity) two_zpow_lt_ten_zpow

end Double

namespace Decimal

theorem digitsValue_lt {digits : List Char}
    (all : ∀ digit ∈ digits, digit.isDigit = true) :
    digitsValue digits < 10 ^ digits.length := by
  induction digits using List.reverseRecOn with
  | nil => exact Nat.one_pos
  | append_singleton digits digit ih =>
      rw [List.forall_mem_append] at all
      obtain ⟨lower, upper⟩ := code_of_isDigit (all.2 digit (by simp))
      have front := ih all.1
      have value_eq : digitsValue (digits ++ [digit]) =
          10 * digitsValue digits + (digit.toNat - 0x30) := by
        simp [digitsValue]
      rw [value_eq, List.length_append, List.length_singleton, pow_succ]
      omega

namespace Numeral

variable {characters rest : List Char} {numeral : Numeral}

theorem isDigit_of_mem_takeFraction {digit : Char}
    (member : digit ∈ (takeFraction characters).1) : digit.isDigit = true := by
  unfold takeFraction at member
  split at member
  · exact isDigit_of_mem_takeDigits member
  · cases member

/-- What a numeral is made of when it is taken off a text are digits. -/
theorem isDigit_of_take (taken : take characters = some (numeral, rest)) :
    ∀ digit ∈ numeral.whole ++ numeral.fraction, digit.isDigit = true := by
  unfold take at taken
  dsimp only at taken
  split at taken
  · cases taken
  · obtain ⟨rfl, -⟩ := Prod.mk.inj (Option.some.inj taken)
    intro digit member
    exact (List.mem_append.mp member).elim isDigit_of_mem_takeDigits
      isDigit_of_mem_takeFraction

/-- No scale is settled otherwise than by rounding. -/
theorem toDouble_eq_ofDecimal
    (all : ∀ digit ∈ numeral.whole ++ numeral.fraction, digit.isDigit = true) :
    numeral.toDouble =
      .ofDecimal numeral.negative numeral.significand numeral.scale := by
  have digits_lt := digitsValue_lt all
  unfold toDouble
  dsimp only
  refine Double.ext ?_ ?_
  · rw [Double.negative_ofDecimal]
    split_ifs <;> first | rfl | exact Double.negative_ofDecimal _ _ _
  · split_ifs with zero great small
    · rw [zero, Double.place_ofDecimal_zero]
      rfl
    · exact (Double.place_ofDecimal_of_great (Nat.pos_of_ne_zero zero) _
        great).symm
    · exact (Double.place_ofDecimal_of_small (Nat.pos_of_ne_zero zero) _
        digits_lt small).symm
    · rfl

/-- A number has the sign of a numeral, and its magnitude is the one nearest to
the digits at their scale. -/
structure RoundsTo (numeral : Numeral) (number : Double) : Prop where
  sign : number.negative = numeral.negative
  zero : numeral.significand = 0 → number.place = 0
  nearest : 0 < numeral.significand → ∀ place < Double.infinity,
    number.place = place ↔
      Double.Spans ((Double.parts place).1 % 2 = 0)
        ((Double.parts place).1 - Double.gapBelow place)
        ((Double.parts place).1 + 1 / 2)
        (numeral.significand * 10 ^ numeral.scale /
          2 ^ (Double.parts place).2)

/-- There is one number that a numeral rounds to. -/
theorem RoundsTo.unique {number other : Double}
    (rounds : numeral.RoundsTo number) (rounds' : numeral.RoundsTo other) :
    number = other := by
  refine Double.ext (rounds.sign.trans rounds'.sign.symm) ?_
  rcases Nat.eq_zero_or_pos numeral.significand with zero | positive
  · rw [rounds.zero zero, rounds'.zero zero]
  · have same := fun place finite =>
      (rounds.nearest positive place finite).trans
        (rounds'.nearest positive place finite).symm
    rcases Nat.lt_or_eq_of_le number.place_le with finite | infinite
    · exact ((same _ finite).mp rfl).symm
    · rcases Nat.lt_or_eq_of_le other.place_le with finite | infinite'
      · exact (same _ finite).mpr rfl
      · rw [infinite, infinite']

theorem roundsTo_toDouble (taken : take characters = some (numeral, rest)) :
    numeral.RoundsTo numeral.toDouble := by
  rw [toDouble_eq_ofDecimal (isDigit_of_take taken)]
  exact {
    sign := Double.negative_ofDecimal _ _ _
    zero := fun zero => by rw [zero, Double.place_ofDecimal_zero]
    nearest := fun positive _ finite =>
      Double.place_ofDecimal_eq_iff finite _ positive _ }

end Numeral

end Decimal

end DataGrid
