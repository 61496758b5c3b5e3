import DataGrid.Decimal.Shortest
import DataGrid.Proofs.Decimal.Rounding
import Mathlib.Algebra.Order.Floor.Semifield

/-!
# Decimals that read back

The interval of a magnitude holds exactly the ratios that are rounded to it.
What is found in it is therefore read back, and a number that is ten times as
large or larger is not.
-/

namespace DataGrid

namespace Double

theorem spans_scale {closed : Prop} {low high value factor : ℚ}
    (positive : 0 < factor) :
    Spans closed (low * factor) (high * factor) (value * factor) ↔
      Spans closed low high value := by
  simp only [Spans, mul_le_mul_iff_left₀ positive,
    mul_lt_mul_iff_left₀ positive]

theorem gapBelow_eq (place : ℕ) :
    gapBelow place = ((if (parts place).1 = leadingBit &&
      1 < place / leadingBit then 1 else 2 : ℕ) : ℚ) / 4 := by
  have above : (parts place).1 = leadingBit →
      (-1074 < (parts place).2 ↔ 1 < place / leadingBit) := by
    by_cases first : place / leadingBit = 0
    · -- The magnitudes of the first row lie below the leading bit.
      have parts_eq : parts place = (place, -1074) := if_pos first
      rw [parts_eq]
      rintro rfl
      exact absurd first (by decide)
    · have parts_eq : parts place = (place % leadingBit + leadingBit,
          ((place / leadingBit : ℕ) : ℤ) - 1075) :=
        if_neg first
      rw [parts_eq]
      simp only
      omega
  have same : (parts place).1 = leadingBit ∧ -1074 < (parts place).2 ↔
      (parts place).1 = leadingBit ∧ 1 < place / leadingBit :=
    and_congr_right above
  unfold gapBelow
  simp only [same, Bool.and_eq_true, decide_eq_true_eq]
  split <;> norm_num

theorem gapBelow_le (place : ℕ) : gapBelow place ≤ 1 / 2 := by
  unfold gapBelow
  split <;> norm_num

theorem nearest_eq_or (numerator denominator : ℕ) :
    nearest numerator denominator = numerator / denominator ∨
      nearest numerator denominator = numerator / denominator + 1 := by
  unfold nearest
  simp only
  split
  · exact .inl rfl
  · split
    · exact .inr rfl
    · split
      · exact .inl rfl
      · exact .inr rfl

theorem parts_pos {place : ℕ} (positive : 0 < place) :
    0 < (parts place).1 := by
  obtain ⟨row, -, made, -, normal⟩ := parts_spec place
  have size : 0 < leadingBit := by decide
  rcases normal with rfl | leading
  · omega
  · omega

end Double

namespace Decimal

open Double

theorem Interval.contains_iff_spans (interval : Interval)
    (numerator : ℕ) {denominator : ℕ} (positive : 0 < denominator) :
    interval.contains numerator denominator = true ↔
      Spans (interval.closed = true) interval.low interval.high
        ((numerator * interval.denominator : ℕ) / denominator) := by
  have positive_rat : (0 : ℚ) < denominator := by exact_mod_cast positive
  have le_value (bound value : ℕ) : (bound : ℚ) ≤ value / denominator ↔
      bound * denominator ≤ value := by
    rw [le_div_iff₀ positive_rat]
    exact_mod_cast Iff.rfl
  have value_le (bound value : ℕ) : (value : ℚ) / denominator ≤ bound ↔
      value ≤ bound * denominator := by
    rw [div_le_iff₀ positive_rat]
    exact_mod_cast Iff.rfl
  unfold Spans contains
  simp only [← not_le, le_value, value_le]
  cases interval.closed
  · simp only [Bool.false_eq_true, if_false, Bool.and_eq_true,
      decide_eq_true_eq, false_or]
    omega
  · simp

theorem Interval.ofPlace_eq (place : ℕ) :
    Interval.ofPlace place =
      { low := (4 * (parts place).1 -
          if (parts place).1 = leadingBit && 1 < place / leadingBit then 1
          else 2) * powNumerator 2 (parts place).2
        middle := 4 * (parts place).1 * powNumerator 2 (parts place).2
        high := (4 * (parts place).1 + 2) * powNumerator 2 (parts place).2
        denominator := 4 * powDenominator 2 (parts place).2
        closed := (parts place).1 % 2 = 0 } :=
  rfl

/-- The interval of a magnitude holds the ratios between the midpoints to its
neighbours. -/
theorem Interval.contains_ofPlace_iff_spans {place denominator : ℕ}
    (place_pos : 0 < place) (numerator : ℕ) (positive : 0 < denominator) :
    (Interval.ofPlace place).contains numerator denominator = true ↔
      Spans ((parts place).1 % 2 = 0) ((parts place).1 - gapBelow place)
        ((parts place).1 + 1 / 2)
        (numerator / denominator / 2 ^ (parts place).2) := by
  have significand_pos := parts_pos place_pos
  have power := zpow_eq_div 2 (parts place).2
  rw [Nat.cast_ofNat] at power
  rw [contains_iff_spans _ _ positive, ofPlace_eq, gapBelow_eq, power]
  simp only [decide_eq_true_eq]
  generalize gap_eq : (if (parts place).1 = leadingBit &&
    1 < place / leadingBit then 1 else 2 : ℕ) = gap
  generalize (parts place).1 = significand at significand_pos gap_eq ⊢
  have gap_le : gap ≤ 4 * significand := by
    rw [← gap_eq]
    split <;> omega
  have up_pos : (0 : ℚ) < powNumerator 2 (parts place).2 := by
    exact_mod_cast powNumerator_pos two_pos _
  have down_pos : (0 : ℚ) < powDenominator 2 (parts place).2 := by
    exact_mod_cast powDenominator_pos two_pos _
  generalize powNumerator 2 (parts place).2 = up at up_pos ⊢
  generalize powDenominator 2 (parts place).2 = down at down_pos ⊢
  have positive_rat : (0 : ℚ) < denominator := by exact_mod_cast positive
  have low_eq : (((4 * significand - gap) * up : ℕ) : ℚ) =
      (significand - (gap : ℚ) / 4) * (4 * up) := by
    rw [Nat.cast_mul, Nat.cast_sub gap_le]
    push_cast
    ring
  have high_eq : (((4 * significand + 2) * up : ℕ) : ℚ) =
      (significand + 1 / 2) * (4 * up) := by
    push_cast
    ring
  have value_eq : ((numerator * (4 * down) : ℕ) : ℚ) / denominator =
      (numerator : ℚ) / denominator / (up / down) * (4 * up) := by
    push_cast
    field_simp
  rw [low_eq, high_eq, value_eq, spans_scale (by positivity)]

/-- A multiple of a power of ten lies in the interval. -/
def Interval.hits (interval : Interval) (grid : ℤ) (factor : ℕ) : Bool :=
  interval.contains (factor * powNumerator 10 grid) (powDenominator 10 grid)

theorem ratio_eq_zpow (factor : ℕ) (grid : ℤ) :
    ((factor * powNumerator 10 grid : ℕ) : ℚ) / powDenominator 10 grid =
      factor * 10 ^ grid := by
  have power := zpow_eq_div 10 grid
  rw [Nat.cast_ofNat] at power
  rw [power, Nat.cast_mul, mul_div_assoc]

/-- A multiple of a power of ten lies in the interval of a magnitude when it
lies between the midpoints to its neighbours. -/
theorem Interval.hits_ofPlace_iff {place : ℕ} (place_pos : 0 < place)
    (grid : ℤ) (factor : ℕ) :
    (Interval.ofPlace place).hits grid factor = true ↔
      Spans ((parts place).1 % 2 = 0) ((parts place).1 - gapBelow place)
        ((parts place).1 + 1 / 2)
        (factor * 10 ^ grid / 2 ^ (parts place).2) := by
  rw [← ratio_eq_zpow]
  exact contains_ofPlace_iff_spans place_pos _
    (powDenominator_pos (by decide) _)

/-- The multiple of a power of ten that is next below the middle. -/
def Interval.below (interval : Interval) (grid : ℤ) : ℕ :=
  interval.middle * powDenominator 10 grid /
    (interval.denominator * powNumerator 10 grid)

/-- On a grid the multiples around the middle are tried, the nearer one
first. -/
theorem Interval.onGrid_eq (interval : Interval) (grid : ℤ) :
    ∃ near other, interval.onGrid grid =
        (if interval.hits grid near then some near
        else if interval.hits grid other then some other
        else none) ∧
      (near = interval.below grid ∧ other = interval.below grid + 1 ∨
        near = interval.below grid + 1 ∧ other = interval.below grid) := by
  refine ⟨_, _, rfl, ?_⟩
  rcases nearest_eq_or (interval.middle * powDenominator 10 grid)
    (interval.denominator * powNumerator 10 grid) with near | near
  · exact .inl ⟨near, if_pos near⟩
  · exact .inr ⟨near, if_neg (near ▸ Nat.succ_ne_self _)⟩

/-- What is found on a grid lies in the interval. -/
theorem Interval.hits_of_onGrid {interval : Interval} {grid : ℤ}
    {factor : ℕ} (found : interval.onGrid grid = some factor) :
    interval.hits grid factor = true := by
  obtain ⟨near, other, onGrid_eq, -⟩ := interval.onGrid_eq grid
  rw [onGrid_eq] at found
  split at found
  · rename_i hits
    exact Option.some.inj found ▸ hits
  · split at found
    · rename_i hits
      exact Option.some.inj found ▸ hits
    · cases found

theorem Interval.onGrid_isSome {interval : Interval} {grid : ℤ}
    (hits : interval.hits grid (interval.below grid + 1) = true) :
    (interval.onGrid grid).isSome = true := by
  obtain ⟨near, other, onGrid_eq, order⟩ := interval.onGrid_eq grid
  rw [onGrid_eq]
  obtain ⟨rfl, rfl⟩ | ⟨rfl, rfl⟩ := order
  · rw [if_pos hits]
    split <;> rfl
  · rw [if_pos hits]
    rfl

theorem Interval.below_spec (place : ℕ) (grid : ℤ) :
    ((Interval.ofPlace place).below grid : ℚ) * 10 ^ grid ≤
        (parts place).1 * 2 ^ (parts place).2 ∧
      ((parts place).1 : ℚ) * 2 ^ (parts place).2 <
        ((Interval.ofPlace place).below grid + 1) * 10 ^ grid := by
  have tens_pos : (0 : ℚ) < 10 ^ grid := zpow_pos (by norm_num) grid
  have power := zpow_eq_div 2 (parts place).2
  have tens := zpow_eq_div 10 grid
  rw [Nat.cast_ofNat] at power tens
  have ratio_eq : (((Interval.ofPlace place).middle *
      powDenominator 10 grid : ℕ) : ℚ) /
      ((Interval.ofPlace place).denominator * powNumerator 10 grid : ℕ) =
        (parts place).1 * 2 ^ (parts place).2 / 10 ^ grid := by
    rw [ofPlace_eq, power, tens]
    push_cast
    have up_pos := powNumerator_pos (show 0 < 10 by decide) grid
    have down_pos := powDenominator_pos (show 0 < 10 by decide) grid
    have twos_pos := powDenominator_pos two_pos (parts place).2
    field_simp
  rw [← le_div_iff₀ tens_pos, ← div_lt_iff₀ tens_pos, ← ratio_eq]
  unfold below
  rw [← @Nat.floor_div_eq_div ℚ]
  exact ⟨Nat.floor_le (by positivity), Nat.lt_floor_add_one _⟩

/-- On a grid finer than half a unit the next multiple above the middle lies in
the interval. -/
theorem Interval.hits_of_fine {place : ℕ} (place_pos : 0 < place) {grid : ℤ}
    (fine : (2 : ℚ) * 10 ^ grid < 2 ^ (parts place).2) :
    (Interval.ofPlace place).hits grid
      ((Interval.ofPlace place).below grid + 1) = true := by
  have unit_pos := two_zpow_pos (parts place).2
  have gap_pos : 0 < gapBelow place := by
    unfold gapBelow
    split <;> norm_num
  obtain ⟨lower, upper⟩ := below_spec place grid
  rw [hits_ofPlace_iff place_pos]
  push_cast
  have above : ((parts place).1 : ℚ) <
      ((Interval.ofPlace place).below grid + 1) * 10 ^ grid /
        2 ^ (parts place).2 := by
    rwa [lt_div_iff₀ unit_pos]
  have near : ((Interval.ofPlace place).below grid + 1) * 10 ^ grid /
      2 ^ (parts place).2 < (parts place).1 + (1 : ℚ) / 2 := by
    rw [div_lt_iff₀ unit_pos]
    linarith
  exact ⟨by linarith, near.le, .inr ⟨by linarith, near⟩⟩

/-- The power of ten of the coarsest grid. -/
def topGrid (place : ℕ) : ℤ :=
  ((Nat.log2 (parts place).1 : ℤ) + (parts place).2) * 30103 / 100000 + 2

theorem parts_bounds {place : ℕ} (finite : place < infinity) :
    Nat.log2 (parts place).1 ≤ 52 ∧ -1074 ≤ (parts place).2 ∧
      (parts place).2 ≤ 971 := by
  obtain ⟨row, exponent_eq, made, below, normal⟩ := parts_spec place
  have end_ : infinity = 2047 * leadingBit := rfl
  have row_le : row ≤ 2045 := by
    by_contra more
    have size : leadingBit = 0x10000000000000 := rfl
    have leading := normal.resolve_left (by omega)
    have rows := Nat.mul_le_mul_right leadingBit
      (show 2046 ≤ row by omega)
    omega
  refine ⟨?_, by omega, by omega⟩
  rcases Nat.eq_zero_or_pos (parts place).1 with zero | positive
  · rw [zero]
    decide
  · exact log2_le_of_small positive.ne' below

/-- Powers of ten and of two compare as those of a power of each do. -/
theorem ten_zpow_le_of {tens twos : ℕ} {exponent bound : ℤ}
    (nonzero : tens ≠ 0)
    (compare : ((10 : ℚ) ^ tens) ^ exponent ≤ (2 ^ twos) ^ exponent)
    (le : twos * exponent ≤ tens * bound) :
    (10 : ℚ) ^ exponent ≤ 2 ^ bound := by
  have ten_pos : (0 : ℚ) < 10 ^ exponent := zpow_pos (by norm_num) _
  rw [← pow_le_pow_iff_left₀ ten_pos.le (two_zpow_pos bound).le nonzero]
  calc ((10 : ℚ) ^ exponent) ^ tens
      = (10 ^ tens) ^ exponent := by
        rw [← zpow_natCast, ← zpow_natCast, ← zpow_mul, ← zpow_mul, mul_comm]
    _ ≤ (2 ^ twos) ^ exponent := compare
    _ = 2 ^ ((twos : ℤ) * exponent) := by
        rw [← zpow_natCast, ← zpow_mul]
    _ ≤ 2 ^ ((tens : ℤ) * bound) := zpow_le_zpow_right₀ one_le_two le
    _ = (2 ^ bound) ^ tens := by
        rw [mul_comm, zpow_mul, zpow_natCast]

/-- A power of ten is hardly greater than the power of two that it stands for
when three tenths and a little more are taken for the logarithm of two. -/
theorem ten_zpow_le {exponent : ℤ} (least : -1074 ≤ exponent)
    (greatest : exponent ≤ 1023) :
    (10 : ℚ) ^ (exponent * 30103 / 100000) ≤ 2 ^ (exponent + 8) := by
  rcases Int.lt_or_le exponent 0 with negative | nonneg
  · refine @ten_zpow_le_of 10 33 _ _ (by decide) ?_ (by omega)
    obtain ⟨power, power_eq⟩ := Int.eq_ofNat_of_zero_le
      (show 0 ≤ -(exponent * 30103 / 100000) by omega)
    rw [← neg_neg (exponent * 30103 / 100000), power_eq, zpow_neg, zpow_neg,
      zpow_natCast, zpow_natCast]
    exact inv_anti₀ (by positivity) (pow_le_pow_left₀ (by norm_num)
      (by norm_num) power)
  · refine @ten_zpow_le_of 3 10 _ _ (by decide) ?_ (by omega)
    exact zpow_le_zpow_left₀ (by omega) (by norm_num) (by norm_num)

/-- The finest grid is finer than half a unit. -/
theorem finest_grid {place : ℕ} (finite : place < infinity) :
    (2 : ℚ) * 10 ^ (topGrid place - 23) < 2 ^ (parts place).2 := by
  obtain ⟨log2_le, least, greatest⟩ := parts_bounds finite
  have tens := ten_zpow_le
    (show -1074 ≤ (Nat.log2 (parts place).1 : ℤ) + (parts place).2 by omega)
    (by omega)
  have exponent_eq : topGrid place - 23 =
      ((Nat.log2 (parts place).1 : ℤ) + (parts place).2) * 30103 / 100000 +
        -21 := by
    unfold topGrid
    omega
  have unit_pos := two_zpow_pos (parts place).2
  rw [exponent_eq, zpow_add₀ (by norm_num)]
  calc (2 : ℚ) * (10 ^ (((Nat.log2 (parts place).1 : ℤ) +
          (parts place).2) * 30103 / 100000) * 10 ^ (-21 : ℤ))
      ≤ 2 * (2 ^ ((Nat.log2 (parts place).1 : ℤ) + (parts place).2 + 8) *
          10 ^ (-21 : ℤ)) := by gcongr
    _ ≤ 2 * (2 ^ ((parts place).2 + 60) * 10 ^ (-21 : ℤ)) := by
        have exponent_le : (Nat.log2 (parts place).1 : ℤ) +
            (parts place).2 + 8 ≤ (parts place).2 + 60 := by
          omega
        have power_le := zpow_le_zpow_right₀ (show (1 : ℚ) ≤ 2 by norm_num)
          exponent_le
        gcongr
    _ < 2 ^ (parts place).2 := by
        rw [zpow_add₀ two_ne_zero]
        norm_num
        linarith

theorem shortest_eq (place : ℕ) :
    shortest place =
      ((List.range 24).findSome? fun (step : ℕ) =>
        ((Interval.ofPlace place).onGrid (topGrid place - step)).map
          (·, topGrid place - (step : ℤ))).getD (0, 0) :=
  rfl

/-- The digits of a finite magnitude lie in its interval, and their power of ten
is a moderate one. -/
theorem shortest_spec {place factor : ℕ} {grid : ℤ} (place_pos : 0 < place)
    (finite : place < infinity) (found : shortest place = (factor, grid)) :
    (Interval.ofPlace place).hits grid factor = true ∧
      -350 ≤ grid ∧ grid ≤ 350 := by
  have bounds := parts_bounds finite
  have top_le : -323 ≤ topGrid place ∧ topGrid place ≤ 310 := by
    unfold topGrid
    omega
  rw [shortest_eq] at found
  generalize search_eq : ((List.range 24).findSome? fun (step : ℕ) =>
    ((Interval.ofPlace place).onGrid (topGrid place - step)).map
      (·, topGrid place - (step : ℤ))) = search at found
  cases search with
  | none =>
      have finest := Interval.onGrid_isSome
        (Interval.hits_of_fine place_pos (finest_grid finite))
      have missed := List.findSome?_eq_none_iff.mp search_eq 23 (by decide)
      rw [Option.map_eq_none_iff] at missed
      rw [show topGrid place - 23 = topGrid place - ((23 : ℕ) : ℤ) from rfl,
        missed] at finest
      cases finest
  | some pair =>
      obtain rfl : pair = (factor, grid) := found
      obtain ⟨step, member, here⟩ := List.exists_of_findSome?_eq_some search_eq
      obtain ⟨factor', onGrid, same⟩ := Option.map_eq_some_iff.mp here
      obtain ⟨rfl, rfl⟩ := Prod.mk.inj same
      have step_lt := List.mem_range.mp member
      exact ⟨Interval.hits_of_onGrid onGrid, by omega, by omega⟩

section Found

variable {place factor : ℕ} {grid : ℤ} (place_pos : 0 < place)
  (finite : place < infinity) (found : shortest place = (factor, grid))

include place_pos finite found

theorem shortest_spans :
    Spans ((parts place).1 % 2 = 0) ((parts place).1 - gapBelow place)
      ((parts place).1 + 1 / 2) (factor * 10 ^ grid / 2 ^ (parts place).2) :=
  (Interval.hits_ofPlace_iff place_pos grid factor).mp
    (shortest_spec place_pos finite found).1

theorem shortest_pos : 0 < factor := by
  rw [Nat.pos_iff_ne_zero]
  rintro rfl
  have lower := (shortest_spans place_pos finite found).1
  have gap_le := gapBelow_le place
  have significand_pos : (1 : ℚ) ≤ (parts place).1 := by
    exact_mod_cast parts_pos place_pos
  rw [Nat.cast_zero, zero_mul, zero_div] at lower
  linarith

end Found

end Decimal

namespace Double

theorem ext {first second : Double} (sign : first.negative = second.negative)
    (magnitude : first.place = second.place) : first = second := by
  cases first
  cases second
  subst sign magnitude
  rfl

theorem negative_ofDecimal (negative : Bool) (digits : ℕ) (exponent : ℤ) :
    (ofDecimal negative digits exponent).negative = negative := by
  unfold ofDecimal
  split <;> rfl

theorem place_ofDecimal (negative : Bool) (digits : ℕ) (exponent : ℤ) :
    (ofDecimal negative digits exponent).place =
      placeOfRatio (digits * powNumerator 10 exponent)
        (powDenominator 10 exponent) := by
  unfold ofDecimal powNumerator powDenominator
  split
  · rfl
  · rw [Nat.mul_one]
    rfl

variable {place factor : ℕ} {grid : ℤ} (place_pos : 0 < place)
  (finite : place < infinity)
  (found : Decimal.shortest place = (factor, grid))

include finite

/-- A decimal is read as a magnitude when it lies between the midpoints to the
neighbours of the magnitude. -/
theorem place_ofDecimal_eq_iff (negative : Bool) {digits : ℕ}
    (digits_pos : 0 < digits) (exponent : ℤ) :
    (ofDecimal negative digits exponent).place = place ↔
      Spans ((parts place).1 % 2 = 0) ((parts place).1 - gapBelow place)
        ((parts place).1 + 1 / 2)
        (digits * 10 ^ exponent / 2 ^ (parts place).2) := by
  rw [place_ofDecimal, ← Decimal.ratio_eq_zpow]
  exact placeOfRatio_eq_iff
    (Nat.mul_pos digits_pos (powNumerator_pos (by decide) _))
    (powDenominator_pos (by decide) _) finite

include place_pos found

variable {digits tens : ℕ} {exponent : ℤ}
  (value_eq : (digits : ℚ) * 10 ^ exponent = factor * 10 ^ (grid + tens))

include value_eq

theorem digits_pos_of_value_eq : 0 < digits := by
  have factor_pos : (0 : ℚ) < factor := by
    exact_mod_cast Decimal.shortest_pos place_pos finite found
  rw [Nat.pos_iff_ne_zero]
  rintro rfl
  have value_pos : (0 : ℚ) < factor * 10 ^ (grid + tens) := by positivity
  rw [← value_eq] at value_pos
  simp at value_pos

/-- What has the value of the shortest digits is read back, and what is ten
times as much, or more tens times, is not. -/
theorem place_ofDecimal_eq_iff_tens (negative : Bool) :
    (ofDecimal negative digits exponent).place = place ↔ tens = 0 := by
  have spans := Decimal.shortest_spans place_pos finite found
  have digits_pos := digits_pos_of_value_eq place_pos finite found value_eq
  rw [place_ofDecimal_eq_iff finite negative digits_pos, value_eq]
  constructor
  · rintro ⟨-, upper, -⟩
    by_contra some_tens
    have lower := spans.1
    have gap_le := gapBelow_le place
    have significand_pos : (1 : ℚ) ≤ (parts place).1 := by
      exact_mod_cast parts_pos place_pos
    have tenfold : (10 : ℚ) ≤ 10 ^ (tens : ℤ) := by
      rw [zpow_natCast]
      exact le_self_pow₀ (by norm_num) some_tens
    rw [zpow_add₀ (by norm_num), ← mul_assoc, mul_div_right_comm] at upper
    have value_pos : (0 : ℚ) ≤ factor * 10 ^ grid / 2 ^ (parts place).2 := by
      positivity
    have grown := mul_le_mul_of_nonneg_left tenfold value_pos
    linarith
  · rintro rfl
    rwa [Nat.cast_zero, Int.add_zero]

end Double

end DataGrid
