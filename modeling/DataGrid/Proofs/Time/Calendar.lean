import DataGrid.Time.Calendar
import Mathlib.Tactic.IntervalCases
import Mathlib.Tactic.SplitIfs

/-!
# Bounds of the calendar

The parts of a moment keep within their bounds, and so do the years of the
moments up to the end of the year 9999.  A day is one of its month: the
twenty-ninth of February comes in leap years only.
-/

namespace DataGrid.Time

namespace Date

theorem month_ofDays_bounds (days : Int) :
    1 ≤ (ofDays days).month ∧ (ofDays days).month ≤ 12 := by
  unfold ofDays daysOfEra
  dsimp only
  split <;> omega

theorem day_ofDays_bounds (days : Int) :
    1 ≤ (ofDays days).day ∧ (ofDays days).day ≤ 31 := by
  unfold ofDays daysOfEra
  dsimp only
  omega

/-- A year of an era ends where the next one begins. -/
theorem before_nextYear {dayOfEra yearOfEra : Nat}
    (within : dayOfEra < 146097)
    (yearOfEra_eq : (dayOfEra - dayOfEra / 1460 + dayOfEra / 36524 -
      dayOfEra / 146096) / 365 = yearOfEra) :
    yearOfEra ≤ 399 ∧
      dayOfEra + (yearOfEra + 1) / 100 <
        365 * (yearOfEra + 1) + (yearOfEra + 1) / 4 +
          (yearOfEra + 1) / 400 := by
  have year_le : yearOfEra ≤ 399 := by omega
  have year_bounds : 365 * yearOfEra + dayOfEra / 1460 + dayOfEra / 146096 ≤
        dayOfEra + dayOfEra / 36524 ∧
      dayOfEra + dayOfEra / 36524 <
        365 * yearOfEra + dayOfEra / 1460 + dayOfEra / 146096 + 365 := by
    omega
  clear yearOfEra_eq
  have leaps : dayOfEra / 1460 ≤ (yearOfEra + 1) / 4 := by omega
  refine ⟨year_le, ?_⟩
  by_cases last : dayOfEra = 146096
  · omega
  have century_begins : 100 * (dayOfEra / 36524) ≤ yearOfEra := by omega
  have century_ends : yearOfEra < 100 * (dayOfEra / 36524 + 1) := by omega
  by_cases closes : yearOfEra + 1 = 100 * (dayOfEra / 36524 + 1)
  · omega
  · have century : (yearOfEra + 1) / 100 = dayOfEra / 36524 := by omega
    omega

/-- Leap years are the same ones in every era. -/
theorem isLeap_era (era : Int) (yearOfEra : Nat) :
    isLeap (era * 400 + yearOfEra + 1) = true ↔
      (yearOfEra + 1) % 4 = 0 ∧
        ((yearOfEra + 1) % 100 ≠ 0 ∨ (yearOfEra + 1) % 400 = 0) := by
  have by_four : (era * 400 + yearOfEra + 1) % 4 = 0 ↔
      (yearOfEra + 1) % 4 = 0 := by
    omega
  have by_hundred : (era * 400 + yearOfEra + 1) % 100 = 0 ↔
      (yearOfEra + 1) % 100 = 0 := by
    omega
  have by_era : (era * 400 + yearOfEra + 1) % 400 = 0 ↔
      (yearOfEra + 1) % 400 = 0 := by
    omega
  simp [isLeap, by_four, by_hundred, by_era]

/-- A year counted from March has a 366th day only when the February at its
end has a leap day. -/
theorem dayOfYear_le {dayOfEra yearOfEra : Nat} (era : Int)
    (year_le : yearOfEra ≤ 399)
    (below : dayOfEra + (yearOfEra + 1) / 100 <
      365 * (yearOfEra + 1) + (yearOfEra + 1) / 4 + (yearOfEra + 1) / 400) :
    dayOfEra - (365 * yearOfEra + yearOfEra / 4 - yearOfEra / 100) ≤
      if isLeap (era * 400 + yearOfEra + 1) then 365 else 364 := by
  have fours : (yearOfEra + 1) / 4 =
      yearOfEra / 4 + if (yearOfEra + 1) % 4 = 0 then 1 else 0 := by
    split <;> omega
  have hundreds : (yearOfEra + 1) / 100 =
      yearOfEra / 100 + if (yearOfEra + 1) % 100 = 0 then 1 else 0 := by
    split <;> omega
  have eras : (yearOfEra + 1) / 400 =
      if (yearOfEra + 1) % 400 = 0 then 1 else 0 := by
    split <;> omega
  rw [fours, hundreds, eras] at below
  clear fours hundreds eras
  simp only [isLeap_era]
  split_ifs at below ⊢ <;> omega

/-- A day is one of the days of its month. -/
theorem day_ofDays_le (days : Int) :
    (ofDays days).day ≤
      daysOfMonth (ofDays days).year (ofDays days).month := by
  unfold ofDays daysOfEra
  dsimp only
  generalize (days + epochDays) / 146097 = era
  have within : ((days + epochDays) % 146097).toNat < 146097 := by omega
  generalize ((days + epochDays) % 146097).toNat = dayOfEra at within ⊢
  generalize yearOfEra_eq : (dayOfEra - dayOfEra / 1460 + dayOfEra / 36524 -
    dayOfEra / 146096) / 365 = yearOfEra
  obtain ⟨year_le, below⟩ := before_nextYear within yearOfEra_eq
  have last_day := dayOfYear_le era year_le below
  clear yearOfEra_eq below within
  generalize dayOfEra - (365 * yearOfEra + yearOfEra / 4 -
    yearOfEra / 100) = dayOfYear at last_day ⊢
  have month_le : (5 * dayOfYear + 2) / 153 ≤ 11 := by
    split at last_day <;> omega
  generalize month_eq : (5 * dayOfYear + 2) / 153 = monthFromMarch
    at month_le ⊢
  interval_cases monthFromMarch
  case «11» =>
    change dayOfYear - 337 + 1 ≤
      if isLeap (era * 400 + yearOfEra + 1) then 29 else 28
    split_ifs at last_day ⊢ <;> omega
  all_goals
    simp only [Nat.reduceLT, Nat.reduceAdd, Nat.reduceSub, Nat.lt_irrefl,
      if_true, if_false, daysOfMonth]
    omega

/-- The days from 1970 to the last day of the year 9999 lie in years of four
digits. -/
theorem year_ofDays_bounds {days : Int} (after : 0 ≤ days)
    (within : days ≤ 2932896) :
    0 ≤ (ofDays days).year ∧ (ofDays days).year ≤ 9999 := by
  unfold ofDays daysOfEra epochDays
  dsimp only
  have days_eq : days + 719468 = (days + 719468) / 146097 * 146097 +
      ((days + 719468) % 146097).toNat := by
    omega
  have dayOfEra_lt : ((days + 719468) % 146097).toNat < 146097 := by omega
  generalize (days + 719468) / 146097 = era at days_eq ⊢
  generalize ((days + 719468) % 146097).toNat = dayOfEra
    at days_eq dayOfEra_lt ⊢
  have era_bounds : 0 ≤ era ∧ era ≤ 24 := by omega
  generalize yearOfEra_eq : (dayOfEra - dayOfEra / 1460 + dayOfEra / 36524 -
    dayOfEra / 146096) / 365 = yearOfEra
  have yearOfEra_le : yearOfEra ≤ 399 := by omega
  have lastYear : yearOfEra = 399 → 145731 ≤ dayOfEra := by omega
  clear yearOfEra_eq
  split
  · -- Only the last year of an era could reach the year 10000 in January, but
    -- the days end before.
    rename_i winter
    refine ⟨by omega, ?_⟩
    by_cases last : era = 24 ∧ yearOfEra = 399
    · obtain ⟨rfl, rfl⟩ := last
      omega
    · omega
  · omega

end Date

namespace Moment

theorem hour_ofSeconds_lt (seconds : Int) : (ofSeconds seconds).hour < 24 := by
  unfold ofSeconds
  dsimp only
  omega

theorem minute_ofSeconds_lt (seconds : Int) :
    (ofSeconds seconds).minute < 60 :=
  Nat.mod_lt _ (by decide)

theorem second_ofSeconds_lt (seconds : Int) :
    (ofSeconds seconds).second < 60 :=
  Nat.mod_lt _ (by decide)

theorem weekday_lt (moment : Moment) : moment.weekday < 7 := by
  unfold weekday
  omega

/-- A moment whose year has at most four digits, and whose other parts have at
most two. -/
structure Ordinary (moment : Moment) : Prop where
  year_nonneg : 0 ≤ moment.date.year
  year_le : moment.date.year ≤ 9999
  month_lt : moment.date.month < 100
  day_lt : moment.date.day < 100
  hour_lt : moment.hour < 100
  minute_lt : moment.minute < 100
  second_lt : moment.second < 100

theorem ordinary_ofSeconds {seconds : Int} (after : 0 ≤ seconds)
    (within : seconds ≤ 253402300799) : Ordinary (ofSeconds seconds) := by
  obtain ⟨year_nonneg, year_le⟩ :=
    Date.year_ofDays_bounds (by omega : 0 ≤ seconds / 86400) (by omega)
  obtain ⟨-, month_le⟩ := Date.month_ofDays_bounds (seconds / 86400)
  obtain ⟨-, day_le⟩ := Date.day_ofDays_bounds (seconds / 86400)
  exact {
    year_nonneg
    year_le
    month_lt := Nat.lt_of_le_of_lt month_le (by decide)
    day_lt := Nat.lt_of_le_of_lt day_le (by decide)
    hour_lt := Nat.lt_trans (hour_ofSeconds_lt seconds) (by decide)
    minute_lt := Nat.lt_trans (minute_ofSeconds_lt seconds) (by decide)
    second_lt := Nat.lt_trans (second_ofSeconds_lt seconds) (by decide) }

/-- A moment up to the end of the year 9999 can be shown. -/
theorem ofSeconds?_eq_some {seconds : Int}
    (ordinary : Ordinary (ofSeconds seconds)) :
    ofSeconds? seconds = some (ofSeconds seconds) := by
  have year_nonneg := ordinary.year_nonneg
  have year_le := ordinary.year_le
  unfold ofSeconds? leastYear greatestYear
  refine if_pos ?_
  rw [Bool.and_eq_true, decide_eq_true_iff, decide_eq_true_iff]
  omega

end Moment

end DataGrid.Time
