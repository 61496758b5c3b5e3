import DataGrid.Proofs.Decimal.Exact
import Mathlib.Data.Rat.Floor
import Mathlib.Data.Int.Log
import Mathlib.Algebra.Order.Field.Power
import Mathlib.Tactic.Linarith
import Mathlib.Tactic.FieldSimp

/-!
# Rounding to the nearest magnitude

Which magnitude a ratio is rounded to is a matter of two bounds: the ratio lies
between the midpoints to the neighbours of the magnitude, and on a midpoint only
if the magnitude is the even one of the two.  The bounds are taken in units of
the magnitude's last place.
-/

namespace DataGrid.Double

/-- A rational lies between two others, or on one of them if they count. -/
def Spans (closed : Prop) (low high value : ℚ) : Prop :=
  low ≤ value ∧ value ≤ high ∧ (closed ∨ low < value ∧ value < high)

theorem zpow_of_nonneg (base : ℕ) {exponent : ℤ} (nonneg : 0 ≤ exponent) :
    (base : ℚ) ^ exponent = (base ^ exponent.toNat : ℕ) := by
  obtain ⟨power, rfl⟩ := Int.eq_ofNat_of_zero_le nonneg
  simp

theorem zpow_of_neg (base : ℕ) {exponent : ℤ} (negative : ¬ 0 ≤ exponent) :
    (base : ℚ) ^ exponent = ((base ^ (-exponent).toNat : ℕ) : ℚ)⁻¹ := by
  obtain ⟨power, power_eq⟩ := Int.eq_ofNat_of_zero_le
    (show 0 ≤ -exponent by omega)
  have exponent_eq : exponent = -(power : ℤ) := by omega
  rw [power_eq, exponent_eq]
  simp

/-- The numerator of a power with any exponent. -/
def powNumerator (base : ℕ) (exponent : ℤ) : ℕ :=
  if 0 ≤ exponent then Nat.pow base exponent.toNat else 1

/-- The denominator of a power with any exponent. -/
def powDenominator (base : ℕ) (exponent : ℤ) : ℕ :=
  if 0 ≤ exponent then 1 else Nat.pow base (-exponent).toNat

theorem zpow_eq_div (base : ℕ) (exponent : ℤ) :
    (base : ℚ) ^ exponent =
      (powNumerator base exponent : ℚ) / powDenominator base exponent := by
  unfold powNumerator powDenominator
  split
  · rename_i nonneg
    rw [zpow_of_nonneg base nonneg]
    simp
  · rename_i negative
    rw [zpow_of_neg base negative]
    simp

theorem powNumerator_pos {base : ℕ} (positive : 0 < base) (exponent : ℤ) :
    0 < powNumerator base exponent := by
  unfold powNumerator
  split
  · exact Nat.pow_pos positive
  · exact Nat.one_pos

theorem powDenominator_pos {base : ℕ} (positive : 0 < base) (exponent : ℤ) :
    0 < powDenominator base exponent := by
  unfold powDenominator
  split
  · exact Nat.one_pos
  · exact Nat.pow_pos positive

section Ratio

variable {numerator denominator : ℕ}

/-- A rational lies within one half of an integer, or at one half if that is
even. -/
def Rounds (value : ℚ) (integer : ℕ) : Prop :=
  Spans (integer % 2 = 0) (integer - 1 / 2) (integer + 1 / 2) value

theorem Rounds.not_lt {value : ℚ} {integer other : ℕ}
    (rounds : Rounds value integer) (rounds' : Rounds value other) :
    ¬ integer < other := by
  intro less
  obtain ⟨-, upper, closed⟩ := rounds
  obtain ⟨lower, -, closed'⟩ := rounds'
  have successor : (integer : ℚ) + 1 ≤ other := by exact_mod_cast less
  have next : (other : ℚ) = integer + 1 := by linarith
  have even : integer % 2 = 0 :=
    closed.resolve_right fun strict => by linarith [strict.2]
  have even' : other % 2 = 0 :=
    closed'.resolve_right fun strict => by linarith [strict.1]
  have next_eq : other = integer + 1 := by exact_mod_cast next
  omega

theorem Rounds.unique {value : ℚ} {integer other : ℕ}
    (rounds : Rounds value integer) (rounds' : Rounds value other) :
    integer = other :=
  Nat.le_antisymm (Nat.le_of_not_lt (rounds'.not_lt rounds))
    (Nat.le_of_not_lt (rounds.not_lt rounds'))

theorem rounds_nearest (positive : 0 < denominator) :
    Rounds (numerator / denominator) (nearest numerator denominator) := by
  have positive_rat : (0 : ℚ) < denominator := by exact_mod_cast positive
  have whole : (denominator : ℚ) * (numerator / denominator : ℕ) +
      (numerator % denominator : ℕ) = numerator := by
    exact_mod_cast Nat.div_add_mod numerator denominator
  have rest_lt : numerator % denominator < denominator :=
    Nat.mod_lt _ positive
  unfold nearest
  generalize numerator / denominator = quotient at whole ⊢
  generalize numerator % denominator = rest at whole rest_lt ⊢
  have value_eq : (numerator : ℚ) / denominator =
      quotient + (rest : ℚ) / denominator := by
    rw [← whole]
    field_simp
  have part_nonneg : (0 : ℚ) ≤ rest / denominator := by positivity
  have part_lt : (rest : ℚ) / denominator < 1 := by
    rw [div_lt_one positive_rat]
    exact_mod_cast rest_lt
  have low : 2 * rest < denominator ↔ (rest : ℚ) / denominator < 1 / 2 := by
    rw [div_lt_div_iff₀ positive_rat two_pos, one_mul, mul_comm]
    exact_mod_cast Iff.rfl
  have high : denominator < 2 * rest ↔ 1 / 2 < (rest : ℚ) / denominator := by
    rw [div_lt_div_iff₀ two_pos positive_rat, one_mul, mul_comm (rest : ℚ)]
    exact_mod_cast Iff.rfl
  simp only [low, high]
  rw [value_eq]
  generalize (rest : ℚ) / denominator = part at part_nonneg part_lt ⊢
  unfold Rounds Spans
  split
  · exact ⟨by linarith, by linarith, .inr ⟨by linarith, by linarith⟩⟩
  · rename_i notLow
    split
    · push_cast
      exact ⟨by linarith, by linarith, .inr ⟨by linarith, by linarith⟩⟩
    · rename_i notHigh
      have half : part = 1 / 2 := by linarith
      split
      · rename_i even
        exact ⟨by linarith, by linarith, .inl even⟩
      · rename_i odd
        push_cast
        exact ⟨by linarith, by linarith, .inl (by omega)⟩

/-- The nearest integer is the one that the ratio rounds to. -/
theorem nearest_eq_iff (positive : 0 < denominator) (integer : ℕ) :
    nearest numerator denominator = integer ↔
      Rounds (numerator / denominator) integer :=
  ⟨fun same => same ▸ rounds_nearest positive,
    fun rounds => (rounds_nearest positive).unique rounds⟩

theorem two_zpow_pos (exponent : ℤ) : (0 : ℚ) < 2 ^ exponent :=
  zpow_pos two_pos exponent

theorem log2_spec {number : ℕ} (positive : 0 < number) :
    (2 : ℚ) ^ (number.log2 : ℤ) ≤ number ∧
      (number : ℚ) < 2 ^ ((number.log2 : ℤ) + 1) := by
  have lower := Nat.log2_self_le positive.ne'
  have upper := Nat.lt_log2_self (n := number)
  refine ⟨by exact_mod_cast lower, ?_⟩
  exact_mod_cast upper

/-- Comparison with a power of two, the exponent on the side where it is not
negative. -/
theorem pow_le_ratio_iff (numerator : ℕ) (positive : 0 < denominator)
    (exponent : ℤ) :
    (if 0 ≤ exponent then denominator * Nat.pow 2 exponent.toNat ≤ numerator
      else denominator ≤ numerator * Nat.pow 2 (-exponent).toNat) ↔
      (2 : ℚ) ^ exponent ≤ numerator / denominator := by
  have positive_rat : (0 : ℚ) < denominator := by exact_mod_cast positive
  rw [le_div_iff₀ positive_rat]
  simp only [Nat.pow_eq]
  split
  · rename_i nonneg
    have power := zpow_of_nonneg 2 nonneg
    rw [Nat.cast_ofNat] at power
    rw [power, mul_comm denominator]
    exact_mod_cast Iff.rfl
  · rename_i negative
    have power := zpow_of_neg 2 negative
    rw [Nat.cast_ofNat] at power
    have power_pos : (0 : ℚ) < (2 ^ (-exponent).toNat : ℕ) := by positivity
    rw [power, inv_mul_le_iff₀ power_pos, mul_comm numerator]
    exact_mod_cast Iff.rfl

theorem binade_spec (numerator_pos : 0 < numerator)
    (denominator_pos : 0 < denominator) :
    (2 : ℚ) ^ binade numerator denominator ≤ numerator / denominator ∧
      (numerator / denominator : ℚ) <
        2 ^ (binade numerator denominator + 1) := by
  have positive_rat : (0 : ℚ) < denominator := by exact_mod_cast denominator_pos
  obtain ⟨lower, upper⟩ := log2_spec numerator_pos
  obtain ⟨lower', upper'⟩ := log2_spec denominator_pos
  have reached := pow_le_ratio_iff numerator denominator_pos
    ((numerator.log2 : ℤ) - denominator.log2)
  unfold binade
  generalize guess_eq : (numerator.log2 : ℤ) - denominator.log2 = guess
    at reached ⊢
  simp only [reached]
  split
  · rename_i fits
    refine ⟨fits, ?_⟩
    rw [div_lt_iff₀ positive_rat]
    calc (numerator : ℚ) < 2 ^ ((numerator.log2 : ℤ) + 1) := upper
      _ = 2 ^ (guess + 1) * 2 ^ (denominator.log2 : ℤ) := by
          rw [← zpow_add₀ two_ne_zero]
          congr 1
          omega
      _ ≤ 2 ^ (guess + 1) * denominator := by gcongr
  · rename_i exceeds
    rw [not_le] at exceeds
    refine ⟨?_, by rwa [Int.sub_add_cancel]⟩
    rw [le_div_iff₀ positive_rat]
    calc (2 : ℚ) ^ (guess - 1) * denominator
        ≤ 2 ^ (guess - 1) * 2 ^ ((denominator.log2 : ℤ) + 1) := by gcongr
      _ = 2 ^ (numerator.log2 : ℤ) := by
          rw [← zpow_add₀ two_ne_zero]
          congr 1
          omega
      _ ≤ numerator := lower

theorem units_eq_iff (positive : 0 < denominator) (exponent : ℤ)
    (significand : ℕ) :
    units numerator denominator exponent = significand ↔
      Rounds (numerator / denominator / 2 ^ exponent) significand := by
  unfold units
  simp only [Nat.pow_eq]
  split
  · rename_i nonneg
    have power := zpow_of_nonneg 2 nonneg
    rw [Nat.cast_ofNat] at power
    rw [nearest_eq_iff (by positivity), power, Nat.cast_mul, div_div]
  · rename_i negative
    have power := zpow_of_neg 2 negative
    rw [Nat.cast_ofNat] at power
    rw [nearest_eq_iff positive, power, Nat.cast_mul, div_inv_eq_mul,
      div_mul_eq_mul_div]

end Ratio

/-- The exponent of two that the units of a ratio have when it is rounded. -/
def scaleOf (numerator denominator : ℕ) : ℤ :=
  max (binade numerator denominator - 52) (-1074)

theorem leadingBit_cast : ((leadingBit : ℕ) : ℚ) = 2 ^ (52 : ℤ) := by
  norm_num [leadingBit]

theorem Rounds.le_of_le {value : ℚ} {integer bound : ℕ}
    (rounds : Rounds value integer) (le : value ≤ bound) : integer ≤ bound := by
  have lower := rounds.1
  have less : (integer : ℚ) < bound + 1 := by linarith
  exact Nat.lt_succ_iff.mp (by exact_mod_cast less)

theorem Rounds.le_of_ge {value : ℚ} {integer bound : ℕ}
    (rounds : Rounds value integer) (ge : bound ≤ value) : bound ≤ integer := by
  have upper := rounds.2.1
  have less : (bound : ℚ) < integer + 1 := by linarith
  exact Nat.lt_succ_iff.mp (by exact_mod_cast less)

section Place

variable {numerator denominator : ℕ} (numerator_pos : 0 < numerator)
  (denominator_pos : 0 < denominator)

include numerator_pos denominator_pos

/-- In its own units a ratio has fifty-three bits before the point, fewer only
at the least exponent. -/
theorem scaled_spec :
    ∃ row : ℕ, scaleOf numerator denominator = (row : ℤ) - 1074 ∧
      (numerator / denominator / 2 ^ ((row : ℤ) - 1074) : ℚ) <
        2 * leadingBit ∧
      (row = 0 ∨ (leadingBit : ℚ) ≤
        numerator / denominator / 2 ^ ((row : ℤ) - 1074)) := by
  obtain ⟨lower, upper⟩ := binade_spec numerator_pos denominator_pos
  have row_eq : (((scaleOf numerator denominator + 1074).toNat : ℕ) : ℤ) =
      scaleOf numerator denominator + 1074 := by
    unfold scaleOf
    omega
  refine ⟨(scaleOf numerator denominator + 1074).toNat, ?_⟩
  rw [row_eq, Int.add_sub_cancel, div_lt_iff₀ (two_zpow_pos _),
    le_div_iff₀ (two_zpow_pos _), leadingBit_cast,
    ← zpow_one_add₀ two_ne_zero,
    ← zpow_add₀ two_ne_zero, ← zpow_add₀ two_ne_zero]
  refine ⟨rfl, ?_, ?_⟩
  · refine upper.trans_le (zpow_le_zpow_right₀ one_le_two ?_)
    unfold scaleOf
    omega
  · rw [or_iff_not_imp_left]
    intro nonzero
    refine le_trans (zpow_le_zpow_right₀ one_le_two ?_) lower
    unfold scaleOf at nonzero ⊢
    omega

/-- The place of a ratio is made of its row and its units. -/
theorem placeOfRatio_eq :
    ∃ row significand : ℕ,
      placeOfRatio numerator denominator =
        min infinity (row * leadingBit + significand) ∧
      Rounds (numerator / denominator / 2 ^ ((row : ℤ) - 1074)) significand ∧
      (numerator / denominator / 2 ^ ((row : ℤ) - 1074) : ℚ) <
        2 * leadingBit ∧
      (row = 0 ∨ (leadingBit : ℚ) ≤
        numerator / denominator / 2 ^ ((row : ℤ) - 1074)) := by
  obtain ⟨row, scale_eq, below, normal⟩ :=
    scaled_spec numerator_pos denominator_pos
  refine ⟨row, units numerator denominator ((row : ℤ) - 1074), ?_,
    (units_eq_iff denominator_pos _ _).mp rfl, below, normal⟩
  unfold placeOfRatio
  rw [if_neg numerator_pos.ne']
  change min infinity ((scaleOf numerator denominator + 1074).toNat *
    leadingBit + units numerator denominator (scaleOf numerator denominator)) =
      _
  rw [scale_eq, Int.sub_add_cancel, Int.toNat_natCast]

end Place

/-- The parts of a magnitude: its place is made of them, and the leading bit is
set unless the exponent is the least one. -/
theorem parts_spec (place : ℕ) :
    ∃ row : ℕ, (parts place).2 = (row : ℤ) - 1074 ∧
      place = row * leadingBit + (parts place).1 ∧
      (parts place).1 < 2 * leadingBit ∧
      (row = 0 ∨ leadingBit ≤ (parts place).1) := by
  have positive : 0 < leadingBit := by decide
  have whole := Nat.div_add_mod' place leadingBit
  have rest_lt := Nat.mod_lt place positive
  rcases row_eq : place / leadingBit with _ | row
  · have parts_eq : parts place = (place, -1074) := if_pos row_eq
    rw [row_eq] at whole
    rw [parts_eq]
    exact ⟨0, rfl, by simp, by omega, .inl rfl⟩
  · have parts_eq : parts place = (place % leadingBit + leadingBit,
        ((place / leadingBit : ℕ) : ℤ) - 1075) :=
      if_neg (by omega)
    rw [row_eq, Nat.succ_mul] at whole
    rw [parts_eq, row_eq]
    exact ⟨row, by push_cast; omega, by simp only; omega,
      by simp only; omega, .inr (by simp)⟩

/-- How far below a magnitude the midpoint to the magnitude before it lies, in
units of its last place. -/
def gapBelow (place : ℕ) : ℚ :=
  if (parts place).1 = leadingBit ∧ -1074 < (parts place).2 then 1 / 4
  else 1 / 2

section Rows

variable {row row' significand significand' : ℕ} {scaled scaled' : ℚ}

/-- In one row a place is given by its units. -/
theorem spans_same_row (rounds : Rounds scaled significand)
    (normal : row = 0 ∨ (leadingBit : ℚ) ≤ scaled) :
    significand = significand' ↔
      Spans (significand' % 2 = 0)
        (significand' - if significand' = leadingBit ∧
          -1074 < (row : ℤ) - 1074 then 1 / 4 else 1 / 2)
        (significand' + 1 / 2) scaled := by
  have same : significand = significand' ↔ Rounds scaled significand' :=
    ⟨fun same => same ▸ rounds, rounds.unique⟩
  rw [same]
  split
  · -- A power of two: nothing of its row lies below it.
    rename_i power
    obtain ⟨rfl, above⟩ := power
    have lower : (leadingBit : ℚ) ≤ scaled := normal.resolve_left (by omega)
    have even : leadingBit % 2 = 0 := rfl
    constructor
    · rintro ⟨-, upper, -⟩
      exact ⟨by linarith, upper, .inl even⟩
    · rintro ⟨-, upper, -⟩
      exact ⟨by linarith, upper, .inl even⟩
  · rfl

/-- The only place of the next row is that of a power of two, to which a ratio
just below it is rounded up. -/
theorem spans_next_row (rounds : Rounds scaled significand)
    (below : scaled < 2 * leadingBit)
    (normal' : leadingBit ≤ significand') :
    significand = leadingBit + significand' ↔
      Spans (significand' % 2 = 0)
        (significand' - if significand' = leadingBit ∧
          -1074 < ((row + 1 : ℕ) : ℤ) - 1074 then 1 / 4 else 1 / 2)
        (significand' + 1 / 2) (scaled / 2) := by
  have above : -1074 < ((row + 1 : ℕ) : ℤ) - 1074 := by omega
  have even : leadingBit % 2 = 0 := rfl
  simp only [above, and_true]
  split
  · rename_i power
    subst power
    have double : ((leadingBit + leadingBit : ℕ) : ℚ) = 2 * leadingBit := by
      push_cast
      ring
    constructor
    · rintro rfl
      have lower := rounds.1
      rw [double] at lower
      exact ⟨by linarith, by linarith, .inl even⟩
    · rintro ⟨lower, -, -⟩
      refine rounds.unique ?_
      unfold Rounds
      rw [double]
      exact ⟨by linarith, by linarith, .inl (by omega)⟩
  · rename_i more
    have next : leadingBit + 1 ≤ significand' := by omega
    have next_rat : (leadingBit : ℚ) + 1 ≤ significand' := by
      exact_mod_cast next
    have units_le : significand ≤ 2 * leadingBit :=
      rounds.le_of_le (by push_cast; exact below.le)
    constructor
    · intro same
      omega
    · rintro ⟨lower, -, -⟩
      linarith

/-- A ratio lies below every row but its own and the next one. -/
theorem not_spans_above {closed : Prop} {gap factor : ℚ}
    (gap_le : gap ≤ 1 / 2) (factor_ge : 4 ≤ factor)
    (below : scaled * factor < 2 * leadingBit)
    (normal' : leadingBit ≤ significand') :
    ¬ Spans closed (significand' - gap) (significand' + 1 / 2) scaled := by
  rintro ⟨lower, -, -⟩
  have normal_rat : (leadingBit : ℚ) ≤ significand' := by
    exact_mod_cast normal'
  have size : (1 : ℚ) ≤ leadingBit := by norm_num [leadingBit]
  have scaled_ge : leadingBit - 1 / 2 ≤ scaled := by linarith
  have product : (leadingBit - 1 / 2) * 4 ≤ scaled * factor :=
    mul_le_mul scaled_ge factor_ge (by norm_num) (by linarith)
  linarith

/-- A ratio lies above every row in front of its own. -/
theorem not_spans_below {closed : Prop} {low factor : ℚ}
    (factor_nonneg : 0 ≤ factor) (factor_le : factor ≤ 1 / 2)
    (normal : leadingBit ≤ scaled * factor)
    (below' : significand' < 2 * leadingBit) :
    ¬ Spans closed low (significand' + 1 / 2) scaled := by
  rintro ⟨-, upper, -⟩
  have small : (significand' : ℚ) + 1 ≤ 2 * leadingBit := by
    exact_mod_cast below'
  have size : (1 : ℚ) ≤ leadingBit := by norm_num [leadingBit]
  have scaled_le : scaled ≤ 2 * leadingBit - 1 / 2 := by linarith
  have product : scaled * factor ≤ (2 * leadingBit - 1 / 2) * (1 / 2) :=
    mul_le_mul scaled_le factor_le factor_nonneg (by linarith)
  linarith

/-- The place that a ratio has in its own row is the one that it lies next to,
in whatever row that is. -/
theorem placed_iff {value : ℚ}
    (rounds : Rounds (value / 2 ^ ((row : ℤ) - 1074)) significand)
    (below : value / 2 ^ ((row : ℤ) - 1074) < 2 * leadingBit)
    (normal : row = 0 ∨ (leadingBit : ℚ) ≤ value / 2 ^ ((row : ℤ) - 1074))
    (below' : significand' < 2 * leadingBit)
    (normal' : row' = 0 ∨ leadingBit ≤ significand') :
    row * leadingBit + significand = row' * leadingBit + significand' ↔
      Spans (significand' % 2 = 0)
        (significand' - if significand' = leadingBit ∧
          -1074 < (row' : ℤ) - 1074 then 1 / 4 else 1 / 2)
        (significand' + 1 / 2) (value / 2 ^ ((row' : ℤ) - 1074)) := by
  have units_le : significand ≤ 2 * leadingBit :=
    rounds.le_of_le (by push_cast; exact below.le)
  have le_units : row = 0 ∨ leadingBit ≤ significand :=
    normal.imp_right rounds.le_of_ge
  have positive : 0 < leadingBit := by decide
  have shift : value / 2 ^ ((row : ℤ) - 1074) =
      value / 2 ^ ((row' : ℤ) - 1074) * 2 ^ ((row' : ℤ) - row) := by
    rw [div_mul_eq_mul_div, div_eq_div_iff (two_zpow_pos _).ne'
      (two_zpow_pos _).ne', mul_assoc, ← zpow_add₀ two_ne_zero]
    congr 2
    omega
  rcases Nat.lt_trichotomy row row' with less | rfl | greater
  · have leading := normal'.resolve_left (by omega)
    by_cases next : row' = row + 1
    · subst next
      have half : value / 2 ^ (((row + 1 : ℕ) : ℤ) - 1074) =
          value / 2 ^ ((row : ℤ) - 1074) / 2 := by
        rw [shift]
        simp
      rw [half, ← spans_next_row rounds below leading, Nat.succ_mul,
        Nat.add_assoc, Nat.add_left_cancel_iff]
    · have rows := Nat.mul_le_mul_right leadingBit
        (show row + 2 ≤ row' by omega)
      rw [Nat.add_mul] at rows
      refine iff_of_false (by omega) (not_spans_above ?_ ?_
        (shift ▸ below) leading)
      · split <;> norm_num
      · calc (4 : ℚ) = 2 ^ (2 : ℤ) := by norm_num
          _ ≤ 2 ^ ((row' : ℤ) - row) :=
            zpow_le_zpow_right₀ one_le_two (by omega)
  · rw [Nat.add_left_cancel_iff]
    exact spans_same_row rounds normal
  · have rows := Nat.mul_le_mul_right leadingBit
      (show row' + 1 ≤ row by omega)
    rw [Nat.add_mul] at rows
    have leading := le_units.resolve_left (by omega)
    have leading_rat := normal.resolve_left (by omega)
    refine iff_of_false (by omega) (not_spans_below (two_zpow_pos _).le ?_
      (shift ▸ leading_rat) below')
    calc (2 : ℚ) ^ ((row' : ℤ) - row) ≤ 2 ^ (-1 : ℤ) :=
          zpow_le_zpow_right₀ one_le_two (by omega)
      _ = 1 / 2 := by norm_num

end Rows

/-- A positive ratio is rounded to a finite magnitude when it lies between the
midpoints to the neighbours of the magnitude. -/
theorem placeOfRatio_eq_iff {numerator denominator place : ℕ}
    (numerator_pos : 0 < numerator) (denominator_pos : 0 < denominator)
    (finite : place < infinity) :
    placeOfRatio numerator denominator = place ↔
      Spans ((parts place).1 % 2 = 0) ((parts place).1 - gapBelow place)
        ((parts place).1 + 1 / 2)
        (numerator / denominator / 2 ^ (parts place).2) := by
  obtain ⟨row, significand, place_eq, rounds, below, normal⟩ :=
    placeOfRatio_eq numerator_pos denominator_pos
  obtain ⟨row', exponent_eq, made, below', normal'⟩ := parts_spec place
  have unbounded : placeOfRatio numerator denominator = place ↔
      row * leadingBit + significand = place := by
    rw [place_eq]
    omega
  unfold gapBelow
  rw [unbounded, exponent_eq]
  refine Iff.trans ?_ (placed_iff rounds below normal below' normal')
  rw [← made]

end DataGrid.Double
