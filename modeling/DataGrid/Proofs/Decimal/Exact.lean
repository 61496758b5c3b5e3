import DataGrid.Decimal.Double
import Mathlib.Data.Nat.Log
import Mathlib.Tactic.Ring
import Mathlib.Tactic.Positivity

/-!
# Exact numbers

A ratio whose numerator has at most fifty-three bits and whose denominator is a
power of two is a double precision number without rounding.  Arithmetic on such
numbers is arithmetic on the ratios, as long as these stay as small.
-/

namespace DataGrid.Double

theorem nearest_mul_right (quotient : Nat) {divisor : Nat}
    (positive : 0 < divisor) :
    nearest (quotient * divisor) divisor = quotient := by
  simp [nearest, Nat.mul_div_cancel _ positive, positive]

/-- A ratio keeps its nearest integer when both of its parts are multiplied. -/
theorem nearest_scale (numerator denominator : Nat) {factor : Nat}
    (positive : 0 < factor) :
    nearest (numerator * factor) (denominator * factor) =
      nearest numerator denominator := by
  have twice : 2 * (numerator * factor % (denominator * factor)) =
      2 * (numerator % denominator) * factor := by
    rw [Nat.mul_mod_mul_right, Nat.mul_assoc]
  unfold nearest
  simp only [twice, Nat.mul_div_mul_right _ _ positive,
    Nat.mul_lt_mul_right positive]

theorem log2_mul_pow {number : Nat} (nonzero : number ≠ 0) (power : Nat) :
    Nat.log2 (number * 2 ^ power) = Nat.log2 number + power := by
  have scaled : number * 2 ^ power ≠ 0 := by positivity
  obtain ⟨lower, upper⟩ := (Nat.log2_eq_iff nonzero).mp rfl
  rw [Nat.log2_eq_iff scaled, Nat.pow_add, Nat.add_right_comm, Nat.pow_add]
  exact ⟨Nat.mul_le_mul_right _ lower,
    Nat.mul_lt_mul_of_pos_right upper (by positivity)⟩

section Scale

variable {numerator denominator : Nat} (numerator_ne : numerator ≠ 0)
  (denominator_ne : denominator ≠ 0) (power : Nat)

include numerator_ne denominator_ne in
theorem binade_scale :
    binade (numerator * 2 ^ power) (denominator * 2 ^ power) =
      binade numerator denominator := by
  have positive : 0 < 2 ^ power := by positivity
  have guess : ((Nat.log2 numerator + power : Nat) : Int) -
      (Nat.log2 denominator + power : Nat) =
        (Nat.log2 numerator : Int) - Nat.log2 denominator := by
    omega
  unfold binade
  simp only [log2_mul_pow numerator_ne, log2_mul_pow denominator_ne, guess,
    Nat.mul_right_comm _ (2 ^ power), Nat.mul_le_mul_right_iff positive]

theorem units_scale (exponent : Int) :
    units (numerator * 2 ^ power) (denominator * 2 ^ power) exponent =
      units numerator denominator exponent := by
  have positive : 0 < 2 ^ power := by positivity
  unfold units
  simp only [Nat.mul_right_comm _ (2 ^ power), nearest_scale _ _ positive]

include denominator_ne in
/-- A ratio keeps its place when both of its parts are multiplied by a power of
two. -/
theorem placeOfRatio_scale (numerator : Nat) :
    placeOfRatio (numerator * 2 ^ power) (denominator * 2 ^ power) =
      placeOfRatio numerator denominator := by
  unfold placeOfRatio
  by_cases zero : numerator = 0
  · simp [zero]
  · have scaled : numerator * 2 ^ power ≠ 0 := by positivity
    simp only [if_neg zero, if_neg scaled,
      binade_scale zero denominator_ne, units_scale]

end Scale

theorem binade_pow {numerator : Nat} (nonzero : numerator ≠ 0) (power : Nat) :
    binade numerator (2 ^ power) = (Nat.log2 numerator : Int) - power := by
  have lower := Nat.log2_self_le nonzero
  unfold binade
  simp only [Nat.log2_two_pow, Nat.pow_eq]
  refine if_pos ?_
  rcases Nat.le_total power (Nat.log2 numerator) with fits | exceeds
  · have guess : ((Nat.log2 numerator : Int) - power).toNat =
        Nat.log2 numerator - power := by
      omega
    have reached : 2 ^ power * 2 ^ (Nat.log2 numerator - power) ≤
        numerator := by
      rwa [← Nat.pow_add, Nat.add_sub_cancel' fits]
    simp [fits, guess, reached]
  · have guess : (-((Nat.log2 numerator : Int) - power)).toNat =
        power - Nat.log2 numerator := by
      omega
    have reached : 2 ^ power ≤
        numerator * 2 ^ (power - Nat.log2 numerator) :=
      calc 2 ^ power
          = 2 ^ Nat.log2 numerator * 2 ^ (power - Nat.log2 numerator) := by
            rw [← Nat.pow_add, Nat.add_sub_cancel' exceeds]
        _ ≤ numerator * 2 ^ (power - Nat.log2 numerator) :=
            Nat.mul_le_mul_right _ lower
    split
    · -- The two cases overlap where the logarithms are equal.
      rename_i fits
      have same : power = Nat.log2 numerator := by omega
      simpa [same] using lower
    · simpa [guess] using reached

/-- What the numerator of a small ratio is multiplied by to have fifty-three
bits. -/
def headroom (numerator : Nat) : Nat :=
  52 - Nat.log2 numerator

theorem log2_le_of_small {numerator : Nat} (nonzero : numerator ≠ 0)
    (small : numerator < 2 ^ 53) : Nat.log2 numerator ≤ 52 :=
  Nat.lt_succ_iff.mp ((Nat.log2_lt nonzero).mpr small)

/-- A small numerator fills fifty-three bits when it is moved up. -/
theorem shifted_bounds {numerator : Nat} (nonzero : numerator ≠ 0)
    (small : numerator < 2 ^ 53) :
    leadingBit ≤ numerator * 2 ^ headroom numerator ∧
      numerator * 2 ^ headroom numerator < 2 * leadingBit := by
  have log2_le := log2_le_of_small nonzero small
  have total : Nat.log2 numerator + headroom numerator = 52 := by
    unfold headroom
    omega
  have scaled : numerator * 2 ^ headroom numerator ≠ 0 := by positivity
  have log2_eq : Nat.log2 (numerator * 2 ^ headroom numerator) = 52 := by
    rw [log2_mul_pow nonzero, total]
  exact (Nat.log2_eq_iff scaled).mp log2_eq

/-- The units of a small ratio are its numerator moved up. -/
theorem units_pow {numerator : Nat} (nonzero : numerator ≠ 0)
    (small : numerator < 2 ^ 53) (power : Nat) :
    units numerator (2 ^ power)
        ((Nat.log2 numerator : Int) - power - 52) =
      numerator * 2 ^ headroom numerator := by
  have log2_le := log2_le_of_small nonzero small
  have positive : 0 < 2 ^ power := by positivity
  unfold units headroom
  simp only [Nat.pow_eq]
  split
  · have power_eq : power = 0 := by omega
    have log2_eq : Nat.log2 numerator = 52 := by omega
    have exponent : ((Nat.log2 numerator : Int) - power - 52).toNat = 0 := by
      omega
    rw [exponent, power_eq, log2_eq]
    simpa using nearest_mul_right numerator Nat.one_pos
  · have exponent : (-((Nat.log2 numerator : Int) - power - 52)).toNat =
        52 - Nat.log2 numerator + power := by
      omega
    rw [exponent, Nat.pow_add, ← Nat.mul_assoc]
    exact nearest_mul_right _ positive

/-- A small ratio lies below infinity. -/
theorem place_lt_infinity {numerator : Nat} (nonzero : numerator ≠ 0)
    (small : numerator < 2 ^ 53) (power : Nat) :
    (1022 + Nat.log2 numerator - power) * leadingBit +
      numerator * 2 ^ headroom numerator < infinity := by
  have log2_le := log2_le_of_small nonzero small
  obtain ⟨-, upper⟩ := shifted_bounds nonzero small
  have row_le : 1022 + Nat.log2 numerator - power ≤ 1074 := by omega
  have below := Nat.mul_le_mul_right leadingBit row_le
  have rows : 1076 * leadingBit < infinity := by decide
  omega

theorem placeOfRatio_pow {numerator power : Nat} (nonzero : numerator ≠ 0)
    (small : numerator < 2 ^ 53) (power_le : power ≤ 1000) :
    placeOfRatio numerator (2 ^ power) =
      (1022 + Nat.log2 numerator - power) * leadingBit +
        numerator * 2 ^ headroom numerator := by
  have log2_le := log2_le_of_small nonzero small
  have finite := place_lt_infinity nonzero small power
  have exponent : max ((Nat.log2 numerator : Int) - power - 52) (-1074) =
      (Nat.log2 numerator : Int) - power - 52 := by
    omega
  have row : ((Nat.log2 numerator : Int) - power - 52 + 1074).toNat =
      1022 + Nat.log2 numerator - power := by
    omega
  unfold placeOfRatio
  simp only [if_neg nonzero, binade_pow nonzero, exponent, row,
    units_pow nonzero small]
  exact min_eq_right finite.le

theorem ofRatio_scale (negative : Bool) (numerator : Nat) {denominator : Nat}
    (nonzero : denominator ≠ 0) (power : Nat) :
    ofRatio negative (numerator * 2 ^ power) (denominator * 2 ^ power) =
      ofRatio negative numerator denominator := by
  simp only [ofRatio, placeOfRatio_scale nonzero]

/-- The parts of the place of a normal number. -/
theorem parts_add (row : Nat) {significand : Nat}
    (lower : leadingBit ≤ significand) (upper : significand < 2 * leadingBit) :
    parts (row * leadingBit + significand) =
      (significand, (row : Int) - 1074) := by
  obtain ⟨low, rfl⟩ := Nat.exists_eq_add_of_le lower
  have low_lt : low < leadingBit := by omega
  have positive : 0 < leadingBit := by decide
  have regroup : row * leadingBit + (leadingBit + low) =
      low + leadingBit * (row + 1) := by
    rw [Nat.mul_add, Nat.mul_comm leadingBit row]
    omega
  have quotient : (row * leadingBit + (leadingBit + low)) / leadingBit =
      row + 1 := by
    rw [regroup, Nat.add_mul_div_left _ _ positive, Nat.div_eq_of_lt low_lt,
      Nat.zero_add]
  have rest : (row * leadingBit + (leadingBit + low)) % leadingBit = low := by
    rw [regroup, Nat.add_mul_mod_self_left, Nat.mod_eq_of_lt low_lt]
  unfold parts
  simp only [quotient, rest, Nat.add_comm low leadingBit]
  refine (if_neg (Nat.succ_ne_zero row)).trans (Prod.ext rfl ?_)
  push_cast
  omega

theorem ratioOfUnits_neg (significand power : Nat) :
    ratioOfUnits significand (-(power : Int)) = (significand, 2 ^ power) := by
  unfold ratioOfUnits
  split
  · have none : power = 0 := by omega
    simp [none]
  · rw [neg_neg, Int.toNat_natCast, Nat.pow_eq]

@[simp]
theorem negative_ofRatio (negative : Bool) (numerator denominator : Nat) :
    (ofRatio negative numerator denominator).negative = negative :=
  rfl

/-- A small ratio is a number of the same value: its two parts have only been
multiplied by a power of two. -/
theorem ratio_ofRatio {numerator power : Nat} (small : numerator < 2 ^ 53)
    (power_le : power ≤ 1000) (negative : Bool) :
    ∃ shift, (ofRatio negative numerator (2 ^ power)).ratio =
      (numerator * 2 ^ shift, 2 ^ power * 2 ^ shift) := by
  unfold ratio
  by_cases zero : numerator = 0
  · -- Zero is the one magnitude here that is not normal.
    refine ⟨1074 - power, ?_⟩
    have place_eq : (ofRatio negative numerator (2 ^ power)).place = 0 := by
      simp [ofRatio, placeOfRatio, zero]
    have exponent : (-1074 : Int) = -(power + (1074 - power) : Nat) := by
      omega
    have parts_eq : parts 0 = (0, -1074) := rfl
    simp only [place_eq, parts_eq]
    rw [exponent, ratioOfUnits_neg, Nat.pow_add, zero, Nat.zero_mul]
  · refine ⟨headroom numerator, ?_⟩
    obtain ⟨lower, upper⟩ := shifted_bounds zero small
    have log2_le := log2_le_of_small zero small
    have exponent : ((1022 + Nat.log2 numerator - power : Nat) : Int) - 1074 =
        -(power + headroom numerator : Nat) := by
      unfold headroom
      omega
    have place_eq : (ofRatio negative numerator (2 ^ power)).place =
        (1022 + Nat.log2 numerator - power) * leadingBit +
          numerator * 2 ^ headroom numerator :=
      placeOfRatio_pow zero small power_le
    simp only [place_eq, parts_add _ lower upper]
    rw [exponent, ratioOfUnits_neg, Nat.pow_add]

variable {first second power other : Nat}

/-- The product of small ratios is rounded once. -/
theorem mul_ofRatio (first_small : first < 2 ^ 53) (power_le : power ≤ 1000)
    (second_small : second < 2 ^ 53) (other_le : other ≤ 1000)
    (negative negative' : Bool) :
    (ofRatio negative first (2 ^ power)).mul
        (ofRatio negative' second (2 ^ other)) =
      ofRatio (negative != negative') (first * second)
        (2 ^ (power + other)) := by
  obtain ⟨shift, ratio_eq⟩ := ratio_ofRatio first_small power_le negative
  obtain ⟨shift', ratio_eq'⟩ := ratio_ofRatio second_small other_le negative'
  have numerators : first * 2 ^ shift * (second * 2 ^ shift') =
      first * second * 2 ^ (shift + shift') := by
    ring
  have denominators : 2 ^ power * 2 ^ shift * (2 ^ other * 2 ^ shift') =
      2 ^ (power + other) * 2 ^ (shift + shift') := by
    ring
  unfold mul
  rw [ratio_eq, ratio_eq']
  simp only [numerators, denominators]
  exact ofRatio_scale _ _ (by positivity) _

/-- The sum of small ratios with the same denominator is rounded once. -/
theorem add_ofRatio (first_small : first < 2 ^ 53)
    (second_small : second < 2 ^ 53) (power_le : power ≤ 1000) :
    (ofRatio false first (2 ^ power)).add (ofRatio false second (2 ^ power)) =
      ofRatio false (first + second) (2 ^ power) := by
  obtain ⟨shift, ratio_eq⟩ := ratio_ofRatio first_small power_le false
  obtain ⟨shift', ratio_eq'⟩ := ratio_ofRatio second_small power_le false
  have numerators : first * 2 ^ shift * (2 ^ power * 2 ^ shift') +
      second * 2 ^ shift' * (2 ^ power * 2 ^ shift) =
        (first + second) * 2 ^ (power + shift + shift') := by
    ring
  have denominators : 2 ^ power * 2 ^ shift * (2 ^ power * 2 ^ shift') =
      2 ^ power * 2 ^ (power + shift + shift') := by
    ring
  unfold add
  rw [ratio_eq, ratio_eq']
  simp only [negative_ofRatio, Bool.false_eq_true, if_false, Bool.and_false,
    Bool.or_false, ← Int.natCast_add, numerators, denominators,
    Int.natAbs_natCast]
  have sign : decide ((((first + second) *
      2 ^ (power + shift + shift') : Nat) : Int) < 0) = false :=
    decide_eq_false (Int.not_lt.mpr (Int.natCast_nonneg _))
  rw [sign]
  exact ofRatio_scale _ _ (by positivity) _

/-- A half is added without rounding. -/
theorem add_half {whole : Nat} (small : whole * 2 < 2 ^ 53) :
    (ofRatio false whole (2 ^ 0)).add (ofRatio false 1 2) =
      ofRatio false (whole * 2 + 1) (2 ^ 1) := by
  have doubled : ofRatio false whole (2 ^ 0) =
      ofRatio false (whole * 2) (2 ^ 1) := by
    simpa using (ofRatio_scale false whole one_ne_zero 1).symm
  have two : ofRatio false 1 2 = ofRatio false 1 (2 ^ 1) := rfl
  rw [doubled, two]
  exact add_ofRatio small (by omega) (by omega)

/-- The integer part of a small ratio is its quotient. -/
theorem toInteger_ofRatio (small : first < 2 ^ 53) (power_le : power ≤ 1000) :
    (ofRatio false first (2 ^ power)).toInteger =
      (first / 2 ^ power : Nat) := by
  obtain ⟨shift, ratio_eq⟩ := ratio_ofRatio small power_le false
  have quotient : first * 2 ^ shift / (2 ^ power * 2 ^ shift) =
      first / 2 ^ power :=
    Nat.mul_div_mul_right _ _ (by positivity)
  unfold toInteger
  rw [ratio_eq]
  simp only [negative_ofRatio, Bool.false_eq_true, if_false, quotient,
    Int.ofNat_eq_natCast]
  have quotient_le : first / 2 ^ power ≤ first := Nat.div_le_self _ _
  generalize first / 2 ^ power = whole at quotient_le ⊢
  unfold Decimal.saturate Decimal.least Decimal.greatest
  rw [min_eq_right (by omega), max_eq_right (by omega)]

/-- A small ratio compares with an integer as its numerator does with as many
times the denominator. -/
theorem compareInt_ofRatio (small : first < 2 ^ 53) (power_le : power ≤ 1000)
    (value : Int) :
    (ofRatio false first (2 ^ power)).compareInt value =
      compare (first : Int) (value * 2 ^ power) := by
  obtain ⟨shift, ratio_eq⟩ := ratio_ofRatio small power_le false
  have positive : (0 : Int) < 2 ^ shift := by positivity
  unfold compareInt
  rw [ratio_eq]
  simp only [negative_ofRatio, Bool.false_eq_true, if_false]
  push_cast
  rw [← mul_assoc, ← cmp_eq_compare, ← cmp_eq_compare]
  exact cmp_mul_pos_right positive _ _

theorem isFinite_ofRatio (small : first < 2 ^ 53) (power_le : power ≤ 1000)
    (negative : Bool) :
    (ofRatio negative first (2 ^ power)).isFinite = true := by
  unfold isFinite
  refine decide_eq_true ?_
  by_cases zero : first = 0
  · have place_eq : (ofRatio negative first (2 ^ power)).place = 0 := by
      simp [ofRatio, placeOfRatio, zero]
    rw [place_eq]
    decide
  · simp only [ofRatio, placeOfRatio_pow zero small power_le]
    exact place_lt_infinity zero small power

theorem ofInt_natCast (value : Nat) :
    ofInt value = ofRatio false value (2 ^ 0) := by
  have sign : decide ((value : Int) < 0) = false :=
    decide_eq_false (Int.not_lt.mpr (Int.natCast_nonneg _))
  rw [ofInt, sign, Int.natAbs_natCast, Nat.pow_zero]

end DataGrid.Double
