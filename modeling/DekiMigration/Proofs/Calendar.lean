/-
# Counting days and seconds

Months and years follow each other without gaps, so the days of all months before a month, and
of all years before a year, leave room for exactly its own days. Later dates therefore have
greater day numbers, and a second of the calendar is known by the number of seconds that have
passed up to it.
-/

import Mathlib
import DekiMigration.Calendar

namespace DekiMigration.Calendar

theorem daysBeforeMonth_succ (year : Nat) {month : Nat} (positive : 1 ≤ month) :
    daysBeforeMonth year (month + 1) = daysBeforeMonth year month + daysInMonth year month := by
  obtain ⟨earlier, rfl⟩ := Nat.exists_eq_add_of_le' positive
  simp only [daysBeforeMonth, Nat.add_sub_cancel, List.range_succ, List.foldl_append,
    List.foldl_cons, List.foldl_nil]

theorem daysBeforeMonth_mono (year : Nat) : Monotone (daysBeforeMonth year) := by
  apply monotone_nat_of_le_succ
  intro month
  rcases Nat.eq_zero_or_pos month with rfl | positive
  · exact Nat.le_refl 0
  · rw [daysBeforeMonth_succ year positive]
    exact Nat.le_add_right _ _

/-- All months together have the days of the year. -/
theorem daysBeforeMonth_all (year : Nat) :
    daysBeforeMonth year 13 = if isLeap year then 366 else 365 := by
  cases leap : isLeap year <;> simp [daysBeforeMonth, daysInMonth, List.range_succ, leap]

theorem isLeap_iff {year : Nat} :
    isLeap year = true ↔ 4 ∣ year ∧ (¬ 100 ∣ year ∨ 400 ∣ year) := by
  simp [isLeap, Nat.dvd_iff_mod_eq_zero]

theorem daysBeforeYear_succ {year : Nat} (positive : 1 ≤ year) :
    daysBeforeYear (year + 1) = daysBeforeYear year + daysBeforeMonth year 13 := by
  obtain ⟨past, rfl⟩ := Nat.exists_eq_add_of_le' positive
  have fewer : past / 100 ≤ past / 4 := Nat.div_le_div_left (by decide) (by decide)
  have centuries : 100 ∣ past + 1 → 4 ∣ past + 1 := Nat.dvd_trans (by decide)
  have fourth : 400 ∣ past + 1 → 100 ∣ past + 1 := Nat.dvd_trans (by decide)
  rw [daysBeforeMonth_all, daysBeforeYear, daysBeforeYear, Nat.add_sub_cancel, Nat.add_sub_cancel]
  simp only [Nat.succ_div, isLeap_iff]
  generalize past / 4 = quarters, past / 100 = hundreds, past / 400 = cycles at *
  split_ifs <;> grind

theorem daysBeforeYear_mono : Monotone daysBeforeYear := by
  apply monotone_nat_of_le_succ
  intro year
  rcases Nat.eq_zero_or_pos year with rfl | positive
  · exact Nat.le_refl 0
  · rw [daysBeforeYear_succ positive]
    exact Nat.le_add_right _ _

variable {year month day year' month' day' : Nat}

/-- A date lies in its month. -/
theorem IsDate.dayNumber_le (isDate : IsDate year month day) :
    dayNumber year month day ≤ daysBeforeYear year + daysBeforeMonth year (month + 1) := by
  obtain ⟨-, -, positive, -, -, inMonth⟩ := isDate
  rw [dayNumber, daysBeforeMonth_succ year positive]
  omega

/-- Dates of an earlier year have smaller numbers. -/
theorem IsDate.dayNumber_lt_of_year (isDate : IsDate year month day)
    (isDate' : IsDate year' month' day') (earlier : year < year') :
    dayNumber year month day < dayNumber year' month' day' := by
  have inMonth := isDate.dayNumber_le
  obtain ⟨positive, -, -, atMost, -, -⟩ := isDate
  obtain ⟨-, -, -, -, first, -⟩ := isDate'
  have inYear : daysBeforeMonth year (month + 1) ≤ daysBeforeMonth year 13 :=
    daysBeforeMonth_mono year (by omega)
  have next := daysBeforeYear_succ positive
  have later : daysBeforeYear (year + 1) ≤ daysBeforeYear year' := daysBeforeYear_mono earlier
  rw [dayNumber.eq_def year']
  omega

/-- Dates of an earlier month of a year have smaller numbers. -/
theorem IsDate.dayNumber_lt_of_month (isDate : IsDate year month day)
    (isDate' : IsDate year month' day') (earlier : month < month') :
    dayNumber year month day < dayNumber year month' day' := by
  have inMonth := isDate.dayNumber_le
  obtain ⟨-, -, -, -, first, -⟩ := isDate'
  have later : daysBeforeMonth year (month + 1) ≤ daysBeforeMonth year month' :=
    daysBeforeMonth_mono year earlier
  rw [dayNumber.eq_def year month']
  omega

/-- A date is known by its number. -/
theorem IsDate.eq_of_dayNumber_eq (isDate : IsDate year month day)
    (isDate' : IsDate year' month' day')
    (same : dayNumber year month day = dayNumber year' month' day') :
    year = year' ∧ month = month' ∧ day = day' := by
  rcases Nat.lt_trichotomy year year' with earlier | rfl | later
  · exact absurd same (isDate.dayNumber_lt_of_year isDate' earlier).ne
  · rcases Nat.lt_trichotomy month month' with earlier | rfl | later
    · exact absurd same (isDate.dayNumber_lt_of_month isDate' earlier).ne
    · exact ⟨rfl, rfl, Nat.add_left_cancel same⟩
    · exact absurd same (isDate'.dayNumber_lt_of_month isDate later).ne'
  · exact absurd same (isDate'.dayNumber_lt_of_year isDate later).ne'

/-- The seconds up to a second of the calendar, counted from the day before the first of January
of year 1. -/
def DateTime.seconds (time : DateTime) : Nat :=
  86400 * dayNumber time.year time.month time.day + 3600 * time.hour + 60 * time.minute +
    time.second

/-- A second is known by its number. -/
theorem DateTime.seconds_injective : Function.Injective DateTime.seconds := by
  intro first second same
  obtain ⟨hour, minute, inMinute⟩ := first.isTime
  obtain ⟨hour', minute', inMinute'⟩ := second.isTime
  simp only [DateTime.seconds] at same
  obtain ⟨year, month, day⟩ := first.isDate.eq_of_dayNumber_eq second.isDate (by omega)
  cases first
  cases second
  simp only [DateTime.mk.injEq] at *
  omega

end DekiMigration.Calendar
