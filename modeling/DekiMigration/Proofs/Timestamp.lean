/-
# Timestamps as they are written

A part of a timestamp may have one digit where two are usual, and then the next part takes
what is left. None of that comes into play where every part has been written with all its
digits: two digits are preferred, and each part finds a reading with two. So the first
reading of a written timestamp is the time for which it was written.
-/

import DekiMigration.Proofs.Text.Decimal
import DekiMigration.Timestamp

namespace DekiMigration.Timestamp

open Text Calendar

/-- A digit that is written for a number below ten is read as that number. -/
theorem digit_digitChar {number : Nat} (small : number < 10) (rest : Text) :
    digit (number.digitChar :: rest) = [(number, rest)] := by
  have isDigit : number.digitChar.isDigit = true := by
    rw [Nat.isDigit_digitChar, decide_eq_true small]
  rw [digit, decimalValue?_of_isDigit isDigit, Nat.toNat_digitChar_sub_48_of_lt_ten small]
  rfl

theorem digitChar_le_digitChar :
    ∀ first < 10, ∀ second < 10, first.digitChar ≤ second.digitChar ↔ first ≤ second := by
  decide

/-- A digit within bounds is read. -/
theorem digitIn_digitChar (low high : Nat) {number : Nat} (highDigit : high < 10)
    (within : low ≤ number ∧ number ≤ high) (rest : Text) :
    digitIn low.digitChar high.digitChar (number.digitChar :: rest) = [(number, rest)] := by
  have small : number < 10 := by omega
  have value : number.digitChar.toNat - '0'.toNat = number :=
    Nat.toNat_digitChar_sub_48_of_lt_ten small
  have least := (digitChar_le_digitChar low (by omega) number small).mpr within.1
  have greatest := (digitChar_le_digitChar number small high highDigit).mpr within.2
  rw [digitIn, value, decide_eq_true least, decide_eq_true greatest]
  rfl

/-- A digit out of bounds is not. -/
theorem digitIn_digitChar_of_beyond (low high : Nat) {number : Nat} (lowDigit : low < 10)
    (highDigit : high < 10) (small : number < 10) (beyond : number < low ∨ high < number)
    (rest : Text) : digitIn low.digitChar high.digitChar (number.digitChar :: rest) = [] := by
  have least := digitChar_le_digitChar low lowDigit number small
  have greatest := digitChar_le_digitChar number small high highDigit
  rw [digitIn, if_neg]
  rw [Bool.and_eq_true, decide_eq_true_eq, decide_eq_true_eq, least, greatest]
  omega

section TwoDigits

variable {tens units : Part} {number : Nat}

/-- What stands for tens and for units is read as one number. -/
theorem twoDigits_padded (small : number < 100)
    (tensRead : ∀ rest, tens ((number / 10).digitChar :: rest) = [(number / 10, rest)])
    (unitsRead : ∀ rest, units ((number % 10).digitChar :: rest) = [(number % 10, rest)])
    (rest : Text) : twoDigits tens units (padded 2 number ++ rest) = [(number, rest)] := by
  have value : 10 * (number / 10) + number % 10 = number := Nat.div_add_mod number 10
  rw [padded_two small, twoDigits]
  simp only [List.cons_append, List.nil_append, tensRead, unitsRead, List.flatMap_cons,
    List.flatMap_nil, List.append_nil, List.map_cons, List.map_nil, value]

/-- With tens out of bounds nothing is read. -/
theorem twoDigits_padded_of_beyond (low high : Nat) (lowDigit : low < 10) (highDigit : high < 10)
    (small : number < 100) (beyond : number / 10 < low ∨ high < number / 10) (rest : Text) :
    twoDigits (digitIn low.digitChar high.digitChar) units (padded 2 number ++ rest) = [] := by
  rw [padded_two small, twoDigits, List.cons_append,
    digitIn_digitChar_of_beyond low high lowDigit highDigit (by omega) beyond]
  rfl

end TwoDigits

section AnyOf

variable {part : Part} {parts : List Part} {text rest : Text} {value : Nat}

/-- What can be read in the first of several ways is read in that way. -/
theorem head?_anyOf (read : part text = [(value, rest)]) :
    (anyOf (part :: parts) text).head? = some (value, rest) := by
  rw [anyOf, List.flatMap_cons, read]
  rfl

/-- A way in which nothing can be read is passed over. -/
theorem head?_anyOf_of_foreign (foreign : part text = [])
    (later : (anyOf parts text).head? = some (value, rest)) :
    (anyOf (part :: parts) text).head? = some (value, rest) := by
  rw [anyOf, List.flatMap_cons, foreign]
  exact later

end AnyOf

theorem head?_yearPart {year : Nat} (small : year < 10000) (rest : Text) :
    (yearPart (padded 4 year ++ rest)).head? = some (year, rest) := by
  have read {number : Nat} (small : number < 100) (rest : Text) :
      twoDigits digit digit (padded 2 number ++ rest) = [(number, rest)] :=
    twoDigits_padded small (digit_digitChar (by omega)) (digit_digitChar (by omega)) rest
  have value : 100 * (year / 100) + year % 100 = year := Nat.div_add_mod year 100
  rw [padded_four, List.append_assoc, yearPart, read (by omega)]
  simp only [List.flatMap_cons, read (Nat.mod_lt year (by decide)), List.map_cons, value,
    List.cons_append, List.head?_cons]

theorem head?_monthPart {month : Nat} (positive : 1 ≤ month) (atMost : month ≤ 12)
    (rest : Text) : (monthPart (padded 2 month ++ rest)).head? = some (month, rest) := by
  have small : month < 100 := by omega
  by_cases large : 10 ≤ month
  · apply head?_anyOf
    exact twoDigits_padded small (digitIn_digitChar 1 1 (by decide) (by omega))
      (digitIn_digitChar 0 2 (by decide) (by omega)) rest
  · apply head?_anyOf_of_foreign
    · exact twoDigits_padded_of_beyond 1 1 (by decide) (by decide) small (by omega) rest
    apply head?_anyOf
    exact twoDigits_padded small (digitIn_digitChar 0 0 (by decide) (by omega))
      (digitIn_digitChar 1 9 (by decide) (by omega)) rest

theorem head?_dayPart {day : Nat} (positive : 1 ≤ day) (atMost : day ≤ 31) (rest : Text) :
    (dayPart (padded 2 day ++ rest)).head? = some (day, rest) := by
  have small : day < 100 := by omega
  by_cases thirties : 30 ≤ day
  · apply head?_anyOf
    exact twoDigits_padded small (digitIn_digitChar 3 3 (by decide) (by omega))
      (digitIn_digitChar 0 1 (by decide) (by omega)) rest
  apply head?_anyOf_of_foreign
  · exact twoDigits_padded_of_beyond 3 3 (by decide) (by decide) small (by omega) rest
  by_cases large : 10 ≤ day
  · apply head?_anyOf
    exact twoDigits_padded small (digitIn_digitChar 1 2 (by decide) (by omega))
      (digit_digitChar (by omega)) rest
  · apply head?_anyOf_of_foreign
    · exact twoDigits_padded_of_beyond 1 2 (by decide) (by decide) small (by omega) rest
    apply head?_anyOf
    exact twoDigits_padded small (digitIn_digitChar 0 0 (by decide) (by omega))
      (digitIn_digitChar 1 9 (by decide) (by omega)) rest

theorem head?_hourPart {hour : Nat} (inDay : hour < 24) (rest : Text) :
    (hourPart (padded 2 hour ++ rest)).head? = some (hour, rest) := by
  have small : hour < 100 := by omega
  by_cases late : 20 ≤ hour
  · apply head?_anyOf
    exact twoDigits_padded small (digitIn_digitChar 2 2 (by decide) (by omega))
      (digitIn_digitChar 0 3 (by decide) (by omega)) rest
  · apply head?_anyOf_of_foreign
    · exact twoDigits_padded_of_beyond 2 2 (by decide) (by decide) small (by omega) rest
    apply head?_anyOf
    exact twoDigits_padded small (digitIn_digitChar 0 1 (by decide) (by omega))
      (digit_digitChar (by omega)) rest

/-- Two digits up to 59, as minutes and seconds have them. -/
theorem twoDigits_sixty {number : Nat} (small : number < 60) (rest : Text) :
    twoDigits (digitIn '0' '5') digit (padded 2 number ++ rest) = [(number, rest)] :=
  twoDigits_padded (by omega) (digitIn_digitChar 0 5 (by decide) (by omega))
    (digit_digitChar (by omega)) rest

theorem head?_minutePart {minute : Nat} (inHour : minute < 60) (rest : Text) :
    (minutePart (padded 2 minute ++ rest)).head? = some (minute, rest) :=
  head?_anyOf (twoDigits_sixty inHour rest)

/-- Leap seconds are looked for first. -/
theorem head?_secondPart {second : Nat} (inMinute : second < 60) (rest : Text) :
    (secondPart (padded 2 second ++ rest)).head? = some (second, rest) := by
  apply head?_anyOf_of_foreign
  · exact twoDigits_padded_of_beyond 6 6 (by decide) (by decide) (by omega) (by omega) rest
  exact head?_anyOf (twoDigits_sixty inMinute rest)

/-- The first reading of a sequence takes the first reading of each part. -/
theorem head?_readings_cons {part : Part} {parts : List Part} {text rest left : Text}
    {value : Nat} {values : List Nat} (first : (part text).head? = some (value, rest))
    (later : (readings parts rest).head? = some (values, left)) :
    (readings (part :: parts) text).head? = some (value :: values, left) := by
  obtain ⟨others, part_eq⟩ := List.head?_eq_some_iff.mp first
  obtain ⟨others', later_eq⟩ := List.head?_eq_some_iff.mp later
  rw [readings, part_eq, List.flatMap_cons]
  dsimp only
  rw [later_eq]
  rfl

theorem isDigit_of_mem_write {time : DateTime} {c : Char} (inside : c ∈ write time) :
    c.isDigit = true := by
  simp only [write, List.mem_append] at inside
  rcases inside with ((((inside | inside) | inside) | inside) | inside) | inside
  all_goals exact isDigit_of_mem_padded inside

/-- What is written for a time is read as that time: no part takes more digits, or fewer, than
have been written for it. -/
theorem read?_write (time : DateTime) : read? (write time) = some time := by
  obtain ⟨-, year, month, month', day, day'⟩ := time.isDate
  obtain ⟨hour, minute, second⟩ := time.isTime
  have solid : IsSolid (write time) :=
    isSolid_of_visible fun c inside => isBlank_of_isDigit (isDigit_of_mem_write inside)
  have untrimmed := solid.trim_eq_self
  have first : (readings parts (write time)).head? =
      some ([time.year, time.month, time.day, time.hour, time.minute, time.second], []) := by
    have seconds := head?_secondPart second []
    rw [List.append_nil] at seconds
    simp only [write, List.append_assoc]
    apply head?_readings_cons (head?_yearPart (Nat.lt_succ_of_le year) _)
    apply head?_readings_cons (head?_monthPart month month' _)
    apply head?_readings_cons (head?_dayPart day (day'.trans (daysInMonth_le _ _)) _)
    apply head?_readings_cons (head?_hourPart hour _)
    apply head?_readings_cons (head?_minutePart minute _)
    apply head?_readings_cons seconds
    rfl
  rw [read?, untrimmed, readParts?, first]
  exact DateTime.ofParts?_eq time

end DekiMigration.Timestamp
