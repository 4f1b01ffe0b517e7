/-
# Export times as they are written

Exports write a time with hyphens and colons and the letter `Z` for UTC. The separators say
where the date ends, which is neither a date with a week nor one without hyphens, and the
clock is read up to the offset for which `Z` stands. From the year 1000 on the compact form
of such a time is the timestamp that the wiki would keep of it.
-/

import DekiMigration.Proofs.Timestamp
import DekiMigration.Timestamp.Iso

namespace DekiMigration.Timestamp.Iso

open Text Calendar

/-- The date in the text of a time. -/
def dateText (time : DateTime) : Text :=
  padded 4 time.year ++ '-' :: (padded 2 time.month ++ '-' :: padded 2 time.day)

/-- The time of day in the text of a time. -/
def clockText (time : DateTime) : Text :=
  padded 2 time.hour ++ ':' :: (padded 2 time.minute ++ ':' :: padded 2 time.second)

theorem display_eq (zone : Text) (time : DateTime) :
    display zone time = dateText time ++ 'T' :: (clockText time ++ zone) := by
  simp only [display, dateText, clockText, List.append_assoc, List.cons_append]

/-- Two digits that are written for a number are read as that number. -/
theorem digits?_padded_two {number : Nat} (small : number < 100) (count : Nat) (rest : Text)
    (value : Nat) :
    digits? (count + 2) (padded 2 number ++ rest) value =
      digits? count rest (100 * value + number) := by
  have tens : number / 10 < 10 := by omega
  have units : number % 10 < 10 := Nat.mod_lt number (by decide)
  have sum : 10 * (10 * value + number / 10) + number % 10 = 100 * value + number := by omega
  have value_of {digit : Nat} (below : digit < 10) :
      digit.digitChar.toNat - '0'.toNat = digit := Nat.toNat_digitChar_sub_48_of_lt_ten below
  rw [padded_two small, List.cons_append, digits?, if_pos (by simp [tens]), value_of tens,
    List.cons_append, digits?, if_pos (by simp [units]), value_of units, List.nil_append, sum]

theorem digits?_padded_four {number : Nat} (small : number < 10000) (rest : Text) :
    digits? 4 (padded 4 number ++ rest) = some (number, rest) := by
  have value : 100 * (100 * 0 + number / 100) + number % 100 = number := by omega
  rw [padded_four, List.append_assoc, digits?_padded_two (by omega),
    digits?_padded_two (by omega), value, digits?]

theorem head?_padded_two_ne {number : Nat} (small : number < 100) {c : Char}
    (foreign : c.isDigit = false) (rest : Text) : (padded 2 number ++ rest).head? ≠ some c := by
  rw [padded_two small, List.cons_append, List.head?_cons, ne_eq, Option.some.injEq]
  apply ne_of_isDigit _ foreign
  rw [Nat.isDigit_digitChar, decide_eq_true_eq]
  omega

/-- A date with month and day is read as it is written. -/
theorem date?_padded {year month day : Nat} (year_lt : year < 10000) (month_lt : month < 100)
    (day_lt : day < 100) :
    date? (padded 4 year ++ '-' :: (padded 2 month ++ '-' :: padded 2 day)) =
      some (year, month, day) := by
  have read {number : Nat} (small : number < 100) (rest : Text) :
      digits? 2 (padded 2 number ++ rest) = some (number, rest) := by
    rw [digits?_padded_two small 0, digits?, Nat.mul_zero, Nat.zero_add]
  have last := read day_lt []
  have later := read month_lt ('-' :: padded 2 day)
  have monthly := head?_padded_two_ne month_lt (c := 'W') (by decide) ('-' :: padded 2 day)
  rw [List.append_nil] at last
  rw [date?, digits?_padded_four year_lt]
  generalize padded 2 month ++ '-' :: padded 2 day = rest at later monthly ⊢
  simp [monthly, later, last, dropLead?]

/-- The separators of a date with month and day say where it ends. -/
theorem dateEnd_padded {year month : Nat} (year_lt : year < 10000) (month_lt : month < 100)
    {rest : Text} (long : 3 ≤ rest.length) :
    dateEnd (padded 4 year ++ '-' :: (padded 2 month ++ rest)) = 10 := by
  have width : (padded 4 year).length = 4 := length_padded (by decide) year_lt
  have width' : (padded 2 month).length = 2 := length_padded (by decide) month_lt
  have monthly := head?_padded_two_ne month_lt (c := 'W') (by decide) rest
  have uneven : (padded 4 year ++ '-' :: (padded 2 month ++ rest)).length ≠ 7 := by
    simp only [List.length_append, List.length_cons, width, width']
    omega
  rw [dateEnd, if_neg uneven, List.drop_left' width]
  generalize padded 2 month ++ rest = later at monthly ⊢
  cases later with
  | nil => rfl
  | cons c later =>
      have other : c ≠ 'W' := fun same => monthly (congrArg some same)
      simp [other]

section Clock

variable {next : Char} {units value : Nat} {colons : Option Bool} {later : Text} {done : List Nat}

/-- A colon behind a unit of a clock leads to the next one. -/
theorem clockFrom?_colon (small : value < 100) (nonempty : later ≠ [])
    (spaced : colons.getD true = true) :
    clockFrom? next (units + 1) colons (padded 2 value ++ ':' :: later) done =
      clockFrom? next units (some true) later (value :: done) := by
  obtain ⟨c, rest, rfl⟩ := List.exists_cons_of_ne_nil nonempty
  rw [clockFrom?, digits?_padded_two small 0, digits?]
  simp [spaced]

/-- A clock may end behind any unit. -/
theorem clockFrom?_last (small : value < 100) :
    clockFrom? next (units + 1) colons (padded 2 value) done =
      some ((value :: done).reverse, decide (next = '\x00')) := by
  have read := digits?_padded_two small 0 [] 0
  rw [List.append_nil] at read
  rw [clockFrom?, read, digits?]
  simp

end Clock

theorem clock?_padded {hour minute second : Nat} (hour_lt : hour < 100) (minute_lt : minute < 100)
    (second_lt : second < 100) (next : Char) :
    clock? (padded 2 hour ++ ':' :: (padded 2 minute ++ ':' :: padded 2 second)) next =
      some ((hour, minute, second), decide (next = '\x00')) := by
  have nonempty : padded 2 minute ++ ':' :: padded 2 second ≠ [] := by simp
  have nonempty' : padded 2 second ≠ [] := by simp [padded_two second_lt]
  rw [clock?, clockFrom?_colon hour_lt nonempty rfl, clockFrom?_colon minute_lt nonempty' rfl,
    clockFrom?_last second_lt]
  rfl

/-- Dates and clocks hold digits and their separator. -/
theorem separated_char {width first second third : Nat} {separator c : Char}
    (inside : c ∈ padded width first ++
      separator :: (padded 2 second ++ separator :: padded 2 third)) :
    c.isDigit = true ∨ c = separator := by
  simp only [List.mem_append, List.mem_cons] at inside
  rcases inside with inside | rfl | inside | rfl | inside
  · exact .inl (isDigit_of_mem_padded inside)
  · exact .inr rfl
  · exact .inl (isDigit_of_mem_padded inside)
  · exact .inr rfl
  · exact .inl (isDigit_of_mem_padded inside)

theorem time?_clockText (time : DateTime) :
    time? (clockText time ++ zuluOffset) = some (time.hour, time.minute, time.second) := by
  obtain ⟨hour, minute, second⟩ := time.isTime
  have unsigned : ∀ c ∈ clockText time, (c != '+' && c != '-') = true := by
    intro c inside
    rw [Bool.and_eq_true, bne_iff_ne, bne_iff_ne]
    rcases separated_char inside with digit | rfl
    · exact ⟨ne_of_isDigit digit rfl, ne_of_isDigit digit rfl⟩
    · decide
  have before : (clockText time ++ zuluOffset).takeWhile (fun c => c != '+' && c != '-') =
      clockText time := by
    rw [List.takeWhile_append_of_pos unsigned]
    exact List.append_nil _
  have offset : zuluOffset = '+' :: "00:00".toList := rfl
  have zulu : clock? "00:00".toList '\x00' = some ((0, 0, 0), true) := by decide
  rw [time?, before, List.drop_left, offset]
  dsimp only
  rw [zulu, clockText, clock?_padded (by omega) (by omega) (by omega)]
  rfl

theorem readTrimmed?_display (time : DateTime) :
    readTrimmed? (display zuluOffset time) = some time := by
  obtain ⟨-, year, month, month', day, day'⟩ := time.isDate
  have days := day'.trans (daysInMonth_le _ _)
  have dated : date? (dateText time) = some (time.year, time.month, time.day) :=
    date?_padded (by omega) (by omega) (by omega)
  have width : (dateText time).length = 10 := by
    simp only [dateText, List.length_append, List.length_cons]
    rw [length_padded (by decide) (by omega), length_padded (by decide) (by omega),
      length_padded (by decide) (by omega)]
  have ends : dateEnd (display zuluOffset time) = 10 := by
    rw [display_eq, dateText]
    simp only [List.append_assoc, List.cons_append]
    apply dateEnd_padded (by omega) (by omega)
    have zone : zuluOffset.length = 6 := rfl
    simp only [List.length_cons, List.length_append, zone]
    omega
  rw [readTrimmed?, ends, display_eq, List.take_left' width, List.drop_left' width, dated]
  dsimp only
  rw [time?_clockText]
  exact DateTime.ofParts?_eq time

theorem replace_zulu {text : Text} (foreign : 'Z' ∉ text) :
    (text.flatMap fun c => if c = 'Z' then zuluOffset else [c]) = text := by
  refine (List.flatMap_congr fun c inside => ?_).trans (List.flatMap_singleton' text)
  exact if_neg fun same : c = 'Z' => foreign (same ▸ inside)

/-- A time that is written for UTC is read as that time, whatever blanks stand around it. -/
theorem read?_display {front back : Text} (blankFront : ∀ c ∈ front, isBlank c)
    (blankBack : ∀ c ∈ back, isBlank c) (time : DateTime) :
    read? (front ++ (display ['Z'] time ++ back)) = some time := by
  have solid : IsSolid (display ['Z'] time) := by
    apply isSolid_of_visible
    intro c inside
    simp only [display_eq, List.mem_append, List.mem_cons, List.not_mem_nil, or_false] at inside
    rcases inside with inDate | rfl | inClock | rfl
    · rcases separated_char inDate with digit | rfl
      · exact isBlank_of_isDigit digit
      · decide
    · decide
    · rcases separated_char inClock with digit | rfl
      · exact isBlank_of_isDigit digit
      · decide
    · decide
  have inDate : 'Z' ∉ dateText time := fun inside => by
    rcases separated_char inside with digit | same
    · cases digit
    · cases same
  have inClock : 'Z' ∉ clockText time := fun inside => by
    rcases separated_char inside with digit | same
    · cases digit
    · cases same
  rw [read?, trim_eq blankFront solid blankBack, display_eq, List.flatMap_append,
    List.flatMap_cons, List.flatMap_append, replace_zulu inDate, replace_zulu inClock,
    ← readTrimmed?_display time, display_eq]
  rfl

/-- From the year 1000 on times are as compact as the wiki writes them. -/
theorem compact_eq_write {time : DateTime} (late : 1000 ≤ time.year) :
    compact time = write time := by
  have year_eq : padded 4 time.year = ofNat time.year := padded_eq_ofNat late
  rw [compact, write, year_eq]

end DekiMigration.Timestamp.Iso
