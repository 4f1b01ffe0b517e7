/-
# Instants that export times denote

A time with an offset from UTC denotes the instant at which the clocks of that offset show it.
The timestamp that the wiki would keep is made of what the clock shows and of nothing else, so
two times for one instant have the same timestamp only if they have the same offset.
-/

import DekiMigration.Proofs.Calendar
import DekiMigration.Proofs.Timestamp.Iso

namespace DekiMigration.Timestamp.Iso

open Text Calendar

/-- The offset, in seconds, behind the time of day that fills a text. A sign leads to it, and
its decimals do not count. -/
def offsetOfTime? (text : Text) : Option Int := do
  let before := text.takeWhile fun c => c != '+' && c != '-'
  match text.drop before.length with
  | [] => none
  | sign :: offset =>
    let ((hours, minutes, seconds), _) ← clock? offset '\x00'
    let size : Int := 3600 * hours + 60 * minutes + seconds
    some (if sign = '-' then -size else size)

/-- What stands behind the date of a time with blanks around it. -/
def behindDate (text : Text) : Text :=
  let text := (trim text).flatMap fun c => if c = 'Z' then zuluOffset else [c]
  text.drop (dateEnd text)

/-- The offset of a time with blanks around it, when it has one. -/
def offset? (text : Text) : Option Int :=
  match behindDate text with
  | [] => none
  | _ :: time => offsetOfTime? time

/-- The instant that a time with an offset denotes, to the second: the number of the second that
clocks show in UTC. -/
def instant? (text : Text) : Option Int := do
  let time ← read? text
  let offset ← offset? text
  some (time.seconds - offset)

theorem instant?_eq_some_iff {text : Text} {instant : Int} :
    instant? text = some instant ↔
      ∃ time offset, read? text = some time ∧ offset? text = some offset ∧
        time.seconds - offset = instant := by
  simp [instant?, Option.bind_eq_some_iff]

/-- A time of day that is read has an offset if there is a sign in it. -/
theorem exists_offsetOfTime? {text : Text} (read : (time? text).isSome = true) {sign : Char}
    (inside : sign ∈ text) (isSign : sign = '+' ∨ sign = '-') :
    ∃ offset, offsetOfTime? text = some offset := by
  rw [time?] at read
  rw [offsetOfTime?]
  dsimp only at read ⊢
  cases behind : text.drop (text.takeWhile fun c => c != '+' && c != '-').length with
  | nil =>
      have whole := (List.takeWhile_prefix fun c => c != '+' && c != '-').eq_of_length_le
        (List.drop_eq_nil_iff.mp behind)
      rw [List.takeWhile_eq_self_iff] at whole
      rcases isSign with rfl | rfl <;> cases whole _ inside
  | cons c offset =>
      rw [behind] at read
      dsimp only at read ⊢
      obtain ⟨clock, isClock⟩ := Option.isSome_iff_exists.mp read
      obtain ⟨_, -, isClock⟩ := Option.bind_eq_some_iff.mp isClock
      obtain ⟨parts, isOffset, -⟩ := Option.bind_eq_some_iff.mp isClock
      exact ⟨_, Option.bind_eq_some_iff.mpr ⟨parts, isOffset, rfl⟩⟩

/-- A time that is read denotes an instant if there is a sign behind the date and what separates
it from the time of day. -/
theorem exists_instant? {text : Text} {time : DateTime} (read : read? text = some time)
    {sign : Char} (inside : sign ∈ (behindDate text).tail) (isSign : sign = '+' ∨ sign = '-') :
    ∃ instant, instant? text = some instant := by
  suffices found : ∃ offset, offset? text = some offset by
    obtain ⟨offset, isOffset⟩ := found
    exact ⟨_, instant?_eq_some_iff.mpr ⟨time, offset, read, isOffset, rfl⟩⟩
  rw [read?, readTrimmed?] at read
  obtain ⟨date, -, read⟩ := Option.bind_eq_some_iff.mp read
  dsimp only at read
  rw [← behindDate] at read
  rw [offset?]
  cases behind : behindDate text with
  | nil =>
      rw [behind] at inside
      cases inside
  | cons separator clock =>
      rw [behind] at inside read
      obtain ⟨units, isTime, -⟩ := Option.bind_eq_some_iff.mp read
      exact exists_offsetOfTime? (Option.isSome_of_mem isTime) inside isSign

theorem ofNat_injective : Function.Injective ofNat := by
  intro first second same
  rw [← ofDigits_ofNat first, same, ofDigits_ofNat]

/-- Numbers below a hundred are known by their two digits. -/
theorem padded_two_inj {number number' : Nat} (small : number < 100) (small' : number' < 100)
    (same : padded 2 number = padded 2 number') : number = number' := by
  have read := digits?_padded_two small 0 [] 0
  have read' := digits?_padded_two small' 0 [] 0
  rw [same, read', digits?, digits?] at read
  simpa using read.symm

/-- A time is known by its compact form. -/
theorem compact_injective : Function.Injective compact := by
  intro first second same
  obtain ⟨-, year, -, month, -, day⟩ := first.isDate
  obtain ⟨-, year', -, month', -, day'⟩ := second.isDate
  obtain ⟨hour, minute, inMinute⟩ := first.isTime
  obtain ⟨hour', minute', inMinute'⟩ := second.isTime
  have days := daysInMonth_le first.year first.month
  have days' := daysInMonth_le second.year second.month
  -- every number but the year has two digits, so the parts can be taken off from behind
  have split {front front' : Text} {number number' : Nat} (small : number < 100)
      (small' : number' < 100) (same : front ++ padded 2 number = front' ++ padded 2 number') :
      front = front' ∧ number = number' := by
    obtain ⟨fronts, numbers⟩ := List.append_inj' same (by
      rw [length_padded (by decide) small, length_padded (by decide) small'])
    exact ⟨fronts, padded_two_inj small small' numbers⟩
  rw [compact, compact] at same
  obtain ⟨same, seconds⟩ := split (by omega) (by omega) same
  obtain ⟨same, minutes⟩ := split (by omega) (by omega) same
  obtain ⟨same, hours⟩ := split (by omega) (by omega) same
  obtain ⟨same, days⟩ := split (by omega) (by omega) same
  obtain ⟨same, months⟩ := split (by omega) (by omega) same
  have years := ofNat_injective same
  cases first
  cases second
  simp_all

/-- Of two times that denote one instant the timestamps are the same exactly if the offsets are. -/
theorem map_compact_eq_iff {first second : Text} {instant : Int}
    (denotes : instant? first = some instant) (denotes' : instant? second = some instant) :
    (read? first).map compact = (read? second).map compact ↔ offset? first = offset? second := by
  obtain ⟨time, offset, reads, isOffset, instant_eq⟩ := instant?_eq_some_iff.mp denotes
  obtain ⟨time', offset', reads', isOffset', instant_eq'⟩ := instant?_eq_some_iff.mp denotes'
  rw [reads, reads', isOffset, isOffset', Option.map_some, Option.map_some, Option.some.injEq,
    Option.some.injEq, compact_injective.eq_iff]
  constructor
  · rintro rfl
    omega
  · rintro rfl
    apply DateTime.seconds_injective
    omega

/-- A day that is named by week and weekday, and a clock with decimals: two ways to write one time,
with the offset of one hour. -/
theorem map_compact_eq_iff_spellings :
    ∃ instant, instant? "2008-W01-3T02:04:05+01".toList = some instant ∧
      instant? "20080102 020405,5+01:00".toList = some instant ∧
      (read? "2008-W01-3T02:04:05+01".toList).map compact =
        (read? "20080102 020405,5+01:00".toList).map compact := by
  have simultaneous : instant? "20080102 020405,5+01:00".toList =
      instant? "2008-W01-3T02:04:05+01".toList := by decide +kernel
  have signed : '+' ∈ (behindDate "2008-W01-3T02:04:05+01".toList).tail := by decide +kernel
  obtain ⟨time, read⟩ : ∃ time, read? "2008-W01-3T02:04:05+01".toList = some time :=
    Option.isSome_iff_exists.mp (by decide +kernel)
  obtain ⟨instant, denotes⟩ := exists_instant? read signed (.inl rfl)
  have denotes' := simultaneous.trans denotes
  exact ⟨instant, denotes, denotes', (map_compact_eq_iff denotes denotes').mpr (by decide +kernel)⟩

/-- Eleven o'clock in UTC has another timestamp when it is written with the offset of one hour. -/
theorem map_compact_ne_of_offset :
    ∃ instant, instant? "2008-01-01T12:00:00+01:00".toList = some instant ∧
      instant? "2008-01-01T11:00:00Z".toList = some instant ∧
      (⟨2008, 1, 1, 11, 0, 0, by decide, by decide⟩ : DateTime).seconds = instant ∧
      (read? "2008-01-01T12:00:00+01:00".toList).map compact = some "20080101120000".toList ∧
      (read? "2008-01-01T12:00:00+01:00".toList).map compact ≠
        (read? "2008-01-01T11:00:00Z".toList).map compact :=
  ⟨_, by decide +kernel, by decide +kernel, rfl, by decide +kernel, by decide +kernel⟩

end DekiMigration.Timestamp.Iso
