import DataGrid.Proofs.Time.Calendar
import DataGrid.Time.Instant
import Mathlib.Algebra.Order.Ring.Nat

/-!
# Reading written instants

An instant whose year has four digits is written so that it can be read again.
Any other year is written with a sign, which a reader does not take for a year.
-/

namespace DataGrid.Instant

open Decimal

@[simp]
theorem length_fixedDigits (count value : Nat) :
    (fixedDigits count value).length = count := by
  induction count generalizing value with
  | zero => rfl
  | succ count ih => simp [fixedDigits, ih]

theorem isDigit_digit {digit : Nat} (digit_lt : digit < 10) :
    (Char.ofNat (0x30 + digit)).isDigit = true ∧
      (Char.ofNat (0x30 + digit)).toNat - 0x30 = digit := by
  decide +revert

theorem isDigit_of_mem_fixedDigits {count value : Nat} {digit : Char}
    (member : digit ∈ fixedDigits count value) : digit.isDigit = true := by
  induction count generalizing value with
  | zero => simp [fixedDigits] at member
  | succ count ih =>
      rcases List.mem_append.mp member with before | last
      · exact ih before
      · obtain rfl := List.mem_singleton.mp last
        exact (isDigit_digit (Nat.mod_lt _ (by decide))).1

/-- So many digits of a number that has no more of them name the number. -/
theorem digitsValue_fixedDigits {count value : Nat}
    (value_lt : value < 10 ^ count) :
    digitsValue (fixedDigits count value) = value := by
  induction count generalizing value with
  | zero =>
      obtain rfl : value = 0 := by simpa using value_lt
      rfl
  | succ count ih =>
      have rest_lt : value / 10 < 10 ^ count :=
        Nat.div_lt_of_lt_mul (by rwa [Nat.pow_succ, Nat.mul_comm] at value_lt)
      have last := (isDigit_digit (Nat.mod_lt value (by decide : 10 > 0))).2
      have unfolded : digitsValue (fixedDigits (count + 1) value) =
          10 * digitsValue (fixedDigits count (value / 10)) +
            ((Char.ofNat (0x30 + value % 10)).toNat - 0x30) := by
        simp [digitsValue, fixedDigits]
      rw [unfolded, ih rest_lt, last]
      omega

theorem takeFixed_fixedDigits {count value : Nat}
    (value_lt : value < 10 ^ count) (rest : List Char) :
    takeFixed count (fixedDigits count value ++ rest) = some (value, rest) := by
  have taken : (fixedDigits count value ++ rest).take count =
      fixedDigits count value :=
    List.take_left' (length_fixedDigits count value)
  have left : (fixedDigits count value ++ rest).drop count = rest :=
    List.drop_left' (length_fixedDigits count value)
  have digits : (fixedDigits count value).all Char.isDigit = true :=
    List.all_eq_true.mpr fun _ member => isDigit_of_mem_fixedDigits member
  simp [takeFixed, taken, left, digits, digitsValue_fixedDigits value_lt]

/-- Two digits are enough for every part of a moment but the year. -/
theorem takeFixed_two {value : Nat} (value_lt : value < 100)
    (rest : List Char) :
    takeFixed 2 (fixedDigits 2 value ++ rest) = some (value, rest) :=
  takeFixed_fixedDigits value_lt rest

theorem takeFixed_sign {sign : Char} (noDigit : sign.isDigit = false)
    (count : Nat) (rest : List Char) :
    takeFixed (count + 1) (sign :: rest) = none := by
  simp [takeFixed, noDigit]

/-- A date is read back when its day is one of its month. -/
theorem takeDate_written {year month day : Nat} (year_lt : year < 10 ^ 4)
    (month_bounds : 1 ≤ month ∧ month ≤ 12)
    (day_bounds : 1 ≤ day ∧ day ≤ 31)
    (day_le : day ≤ Time.Date.daysOfMonth year month) (rest : List Char) :
    takeDate (fixedDigits 4 year ++ '-' :: (fixedDigits 2 month ++
        '-' :: (fixedDigits 2 day ++ rest))) =
      some (({ year, month, day } : Time.Date).toDays, rest) := by
  have month_lt : month < 100 := by omega
  have day_lt : day < 100 := by omega
  simp [takeDate, takeFixed_fixedDigits year_lt, takeFixed_two month_lt,
    takeFixed_two day_lt, skip, guard, month_bounds, day_bounds, day_le]

/-- The offset of universal time, as it is written. -/
def zeroOffset : List Char :=
  ['+', '0', '0', ':', '0', '0']

theorem takeFraction_point {count : Nat} (positive : 0 < count) (value : Nat) :
    ∃ nanoseconds,
      takeFraction ('.' :: fixedDigits count value ++ zeroOffset) =
        some (nanoseconds, zeroOffset) := by
  have digits : ∀ digit ∈ fixedDigits count value, digit.isDigit = true :=
    fun _ member => isDigit_of_mem_fixedDigits member
  have taken : (fixedDigits count value ++ zeroOffset).takeWhile Char.isDigit =
      fixedDigits count value := by
    rw [List.takeWhile_append_of_pos digits]
    exact List.append_nil _
  have left : (fixedDigits count value ++ zeroOffset).dropWhile Char.isDigit =
      zeroOffset := by
    rw [List.dropWhile_append_of_pos digits]
    rfl
  have present : (fixedDigits count value).isEmpty = false := by
    rw [List.isEmpty_eq_false_iff, ← List.length_pos_iff, length_fixedDigits]
    exact positive
  simp [takeFraction, taken, left, present]

theorem takeFraction_written (nanoseconds : Nat) :
    ∃ read, takeFraction (writeFraction nanoseconds ++ zeroOffset) =
      some (read, zeroOffset) := by
  unfold writeFraction
  split_ifs
  · exact ⟨0, rfl⟩
  · exact takeFraction_point (by decide) _
  · exact takeFraction_point (by decide) _
  · exact takeFraction_point (by decide) _

/-- The year in which an instant lies in universal time. -/
def year (instant : Instant) : Int :=
  (Time.Moment.ofSeconds instant.seconds).date.year

/-- The instant can be written with a year of four digits. -/
def HasPlainYear (instant : Instant) : Prop :=
  0 ≤ instant.year ∧ instant.year ≤ 9999

instance (instant : Instant) : Decidable instant.HasPlainYear :=
  inferInstanceAs (Decidable (_ ∧ _))

variable {instant : Instant}

theorem ofText?_toText_of_signed (signed : ¬ instant.HasPlainYear) :
    ofText? instant.toText = none := by
  have written : ∃ sign rest, sign.isDigit = false ∧
      instant.write = sign :: rest := by
    unfold write writeYear
    rw [HasPlainYear, year] at signed
    simp only [signed, if_false, List.cons_append]
    refine ⟨_, _, ?_, rfl⟩
    split <;> rfl
  obtain ⟨sign, rest, noDigit, written⟩ := written
  rw [ofText?, toText, String.toList_ofList, written, read?, takeDate,
    takeFixed_sign noDigit]
  rfl

/-- The parts of an instant, each written in its digits. -/
theorem write_eq {moment : Time.Moment} {years : Nat}
    (moment_eq : Time.Moment.ofSeconds instant.seconds = moment)
    (year_eq : moment.date.year = years) (year_lt : years < 10 ^ 4) :
    instant.write = fixedDigits 4 years ++ '-' ::
      (fixedDigits 2 moment.date.month ++ '-' ::
      (fixedDigits 2 moment.date.day ++ 'T' ::
      (fixedDigits 2 moment.hour ++ ':' ::
      (fixedDigits 2 moment.minute ++ ':' ::
      (fixedDigits 2
          (moment.second + instant.nanoseconds / nanosecondsPerSecond) ++
        (writeFraction (instant.nanoseconds % nanosecondsPerSecond) ++
          zeroOffset)))))) := by
  have written : writeYear moment.date.year = fixedDigits 4 years := by
    have plain : (0 : Int) ≤ years ∧ (years : Int) ≤ 9999 := by omega
    rw [writeYear, year_eq, if_pos plain]
    rfl
  unfold write
  simp only [moment_eq, written, List.append_assoc, List.cons_append]
  rfl

/-- An instant with a plain year is read back.  Its seconds go up to sixty,
which is where a leap second is written. -/
theorem isSome_ofText?_toText (plain : instant.HasPlainYear)
    (short : instant.nanoseconds < 2 * nanosecondsPerSecond) :
    (ofText? instant.toText).isSome = true := by
  obtain ⟨moment, moment_eq⟩ :
      ∃ moment, Time.Moment.ofSeconds instant.seconds = moment :=
    ⟨_, rfl⟩
  have month_bounds := Time.Date.month_ofDays_bounds (instant.seconds / 86400)
  have day_bounds := Time.Date.day_ofDays_bounds (instant.seconds / 86400)
  have day_le := Time.Date.day_ofDays_le (instant.seconds / 86400)
  have hour_lt := Time.Moment.hour_ofSeconds_lt instant.seconds
  have minute_lt := Time.Moment.minute_ofSeconds_lt instant.seconds
  have second_lt := Time.Moment.second_ofSeconds_lt instant.seconds
  have date_eq : Time.Date.ofDays (instant.seconds / 86400) = moment.date :=
    congrArg Time.Moment.date moment_eq
  rw [HasPlainYear, year, moment_eq] at plain
  rw [date_eq] at month_bounds day_bounds day_le
  rw [moment_eq] at hour_lt minute_lt second_lt
  obtain ⟨years, year_eq⟩ := Int.eq_ofNat_of_zero_le plain.1
  have year_lt : years < 10 ^ 4 := by omega
  rw [year_eq] at day_le
  have second_le : moment.second +
      instant.nanoseconds / nanosecondsPerSecond ≤ 60 := by
    unfold nanosecondsPerSecond at short ⊢
    omega
  obtain ⟨fraction, fraction_taken⟩ := takeFraction_written
    (instant.nanoseconds % nanosecondsPerSecond)
  have dated := takeDate_written year_lt month_bounds day_bounds day_le
  have hour_taken := takeFixed_two (by omega : moment.hour < 100)
  have minute_taken := takeFixed_two (by omega : moment.minute < 100)
  have second_taken := takeFixed_two (Nat.lt_of_le_of_lt second_le (by decide))
  have within : (decide (moment.hour ≤ 23) && decide (moment.minute ≤ 59) &&
      decide (moment.second + instant.nanoseconds / nanosecondsPerSecond ≤
        60)) = true := by
    simp only [Bool.and_eq_true, decide_eq_true_eq]
    exact ⟨⟨by omega, by omega⟩, second_le⟩
  have colon (rest : List Char) : skip ':' (':' :: rest) = some rest :=
    rfl
  have zone : readOffset zeroOffset = some 0 := by decide
  rw [ofText?, toText, String.toList_ofList,
    write_eq moment_eq year_eq year_lt, read?, dated]
  simp only [Option.bind_eq_bind, Option.bind_some, skipSeparator, hour_taken,
    minute_taken, second_taken, colon, within, guard, if_true,
    Option.pure_def, fraction_taken, zone, Option.isSome_some]

end DataGrid.Instant
