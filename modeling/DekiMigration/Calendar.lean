/-
# Calendar

Dates and times of day in the proleptic Gregorian calendar, from year 1 to year
9999 and to the second. A `DateTime` is always a real one: its day exists in its
month, and leap seconds do not exist. Days are also counted from the first of
January of year 1, which gives the day of the week and resolves dates given by
week and weekday.
-/

import DekiMigration.Text

namespace DekiMigration.Calendar

/-- Whether a year has a twenty-ninth of February. -/
def isLeap (year : Nat) : Bool :=
  year % 4 == 0 && (year % 100 != 0 || year % 400 == 0)

/-- The number of days in a month. -/
def daysInMonth (year month : Nat) : Nat :=
  match month with
  | 2 => if isLeap year then 29 else 28
  | 4 | 6 | 9 | 11 => 30
  | _ => 31

theorem daysInMonth_le (year month : Nat) : daysInMonth year month ≤ 31 := by
  unfold daysInMonth
  split <;> grind

/-- Whether year, month and day name a day of the calendar. -/
def IsDate (year month day : Nat) : Prop :=
  1 ≤ year ∧ year ≤ 9999 ∧ 1 ≤ month ∧ month ≤ 12 ∧ 1 ≤ day ∧ day ≤ daysInMonth year month

instance (year month day : Nat) : Decidable (IsDate year month day) :=
  inferInstanceAs (Decidable (_ ∧ _))

/-- Whether hour, minute and second name a second of the day. -/
def IsTime (hour minute second : Nat) : Prop :=
  hour < 24 ∧ minute < 60 ∧ second < 60

instance (hour minute second : Nat) : Decidable (IsTime hour minute second) :=
  inferInstanceAs (Decidable (_ ∧ _))

/-- A second of the calendar. -/
structure DateTime where
  year : Nat
  month : Nat
  day : Nat
  hour : Nat
  minute : Nat
  second : Nat
  isDate : IsDate year month day
  isTime : IsTime hour minute second
  deriving DecidableEq

/-- The second with the given parts, when there is one. -/
def DateTime.ofParts? (year month day hour minute second : Nat) : Option DateTime :=
  if date : IsDate year month day then
    if time : IsTime hour minute second then
      some ⟨year, month, day, hour, minute, second, date, time⟩
    else none
  else none

/-- The parts of a second lead back to it. -/
theorem DateTime.ofParts?_eq (time : DateTime) :
    DateTime.ofParts? time.year time.month time.day time.hour time.minute time.second =
      some time := by
  rw [DateTime.ofParts?, dif_pos time.isDate, dif_pos time.isTime]

/-- The days of a year before the first of a month. -/
def daysBeforeMonth (year month : Nat) : Nat :=
  (List.range (month - 1)).foldl (fun days earlier => days + daysInMonth year (earlier + 1)) 0

/-- The days before the first of January of a year. -/
def daysBeforeYear (year : Nat) : Nat :=
  let past := year - 1
  365 * past + past / 4 - past / 100 + past / 400

/-- The place of a date among all days, the first of January of year 1 being day
number one. -/
def dayNumber (year month day : Nat) : Nat :=
  daysBeforeYear year + daysBeforeMonth year month + day

/-- The day of the week of a day number, from 0 for Monday to 6 for Sunday. -/
def weekday (dayNumber : Nat) : Nat :=
  (dayNumber + 6) % 7

/-- The month and day of the day that `left` days after the first of a month
lead to, searching `months` months from `month` on. -/
def monthDay (year : Nat) : (month left months : Nat) → Nat × Nat
  | month, left, 0 => (month, left + 1)
  | month, left, months + 1 =>
    if left < daysInMonth year month then (month, left + 1)
    else monthDay year (month + 1) (left - daysInMonth year month) months

/-- The day number of the Monday of the first week of a year: the week that
holds the year's first Thursday. -/
def firstMonday (year : Nat) : Int :=
  let newYear := dayNumber year 1 1
  let day := weekday newYear
  if day ≤ 3 then (newYear : Int) - day else (newYear : Int) + 7 - day

/-- Whether a year has a week of this number. -/
def IsWeek (year week : Nat) : Prop :=
  1 ≤ week ∧ (week ≤ 52 ∨ week = 53 ∧
    (weekday (dayNumber year 1 1) = 3 ∨ weekday (dayNumber year 1 1) = 2 ∧ isLeap year))

instance (year week : Nat) : Decidable (IsWeek year week) :=
  inferInstanceAs (Decidable (_ ∧ _))

/-- The date of a day given by year, week and weekday, Monday being weekday 1.
The first days of a first week may lie in the year before, and the last days of a
last week in the year after; the latter year may be 10000. -/
def ofWeek? (year week day : Nat) : Option (Nat × Nat × Nat) :=
  if 1 ≤ year ∧ year ≤ 9999 ∧ IsWeek year week ∧ 1 ≤ day ∧ day ≤ 7 then
    let number := firstMonday year + 7 * (week - 1 : Nat) + (day - 1 : Nat)
    let first : Int := dayNumber year 1 1
    let length : Int := if isLeap year then 366 else 365
    let (owner, left) :=
      if number < first then
        (year - 1, (number - dayNumber (year - 1) 1 1).toNat)
      else if number < first + length then (year, (number - first).toNat)
      else (year + 1, (number - first - length).toNat)
    let (month, day) := monthDay owner 1 left 11
    some (owner, month, day)
  else none

end DekiMigration.Calendar
