import DataGrid.Proofs.Time.Calendar
import DataGrid.Time.Format
import DataGrid.Time.Instant
import Mathlib.Algebra.Order.Ring.Nat

/-!
# Digits of moments

A number can be written in as many digits as are wanted, or in its own digits
filled up with zeros.  For the parts of an ordinary moment both are the same.
-/

namespace DataGrid

namespace Instant

theorem char_eq_digitChar {digit : Nat} (digit_lt : digit < 10) :
    Char.ofNat (0x30 + digit) = Nat.digitChar digit := by
  decide +revert

/-- So many digits of a number that has no more of them are its digits behind
zeros. -/
theorem fixedDigits_eq_toDigits (count : Nat) {value : Nat}
    (value_lt : value < 10 ^ (count + 1)) :
    fixedDigits (count + 1) value =
      List.replicate (count + 1 - (Nat.toDigits 10 value).length) '0' ++
        Nat.toDigits 10 value := by
  induction count generalizing value with
  | zero =>
      have value_lt : value < 10 := value_lt
      rw [Nat.toDigits_of_lt_base value_lt]
      simp [fixedDigits, Nat.mod_eq_of_lt value_lt, char_eq_digitChar value_lt]
  | succ count ih =>
      have last := char_eq_digitChar (Nat.mod_lt value (by decide : 10 > 0))
      have rest_lt : value / 10 < 10 ^ (count + 1) :=
        Nat.div_lt_of_lt_mul (by rwa [Nat.pow_succ, Nat.mul_comm] at value_lt)
      rw [fixedDigits, ih rest_lt, last]
      by_cases single : value < 10
      · rw [Nat.div_eq_of_lt single, Nat.toDigits_of_lt_base single,
          Nat.toDigits_of_lt_base (by decide : 0 < 10),
          Nat.mod_eq_of_lt single]
        simp only [List.length_singleton, Nat.add_sub_cancel,
          List.replicate_succ']
        rfl
      · rw [Nat.toDigits_of_base_le (by decide) (Nat.not_lt.mp single)]
        simp

/-- A quotation mark is not a digit. -/
theorem quote_notMem_fixedDigits (count value : Nat) :
    '\'' ∉ fixedDigits count value := by
  induction count generalizing value with
  | zero => exact List.not_mem_nil
  | succ count ih =>
      have other : ∀ digit < 10, '\'' ≠ Char.ofNat (0x30 + digit) := by
        decide
      simp [fixedDigits, ih, other (value % 10) (Nat.mod_lt _ (by decide))]

end Instant

namespace Time

theorem twoDigits_eq_fixedDigits {value : Nat} (value_lt : value < 100) :
    twoDigits value .zero = Instant.fixedDigits 2 value := by
  have tens_lt : value / 10 < 10 := by omega
  unfold twoDigits
  simp only [Instant.fixedDigits, Nat.mod_eq_of_lt tens_lt, List.nil_append]
  split
  · rename_i none
    rw [none]
  · rfl

theorem yearDigits_eq_fixedDigits {year : Int} (nonneg : 0 ≤ year)
    (year_le : year ≤ 9999) :
    yearDigits year .zero = Instant.fixedDigits 4 year.toNat := by
  obtain ⟨count, rfl⟩ := Int.eq_ofNat_of_zero_le nonneg
  have count_lt : count < 10 ^ (3 + 1) := by omega
  have ordinary : (decide ((0 : Int) ≤ count) &&
      decide ((count : Int) < 10000)) = true := by
    simp only [nonneg, decide_true, Bool.true_and]
    exact decide_eq_true (by omega)
  have positive : ¬ (count : Int) < 0 := Int.not_lt.mpr nonneg
  unfold yearDigits padded
  rw [ordinary]
  simp [positive, Instant.fixedDigits_eq_toDigits 3 count_lt]

theorem toDigits_eq_fixedDigits {value : Nat} (value_lt : value < 10) :
    Nat.toDigits 10 value = Instant.fixedDigits 1 value := by
  simp [Instant.fixedDigits_eq_toDigits 0 value_lt,
    Nat.toDigits_of_lt_base value_lt]

end Time

end DataGrid
