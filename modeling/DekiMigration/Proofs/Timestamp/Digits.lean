/-
# Fourteen digits

A part of a timestamp may take one digit where two are usual. Of fourteen ASCII digits with
nothing behind them it must not: the year takes four and each of the five other parts two at
most, so all of them are taken only if every part takes as many as it can, and then its value is
the number that they write. Together with what is known of written timestamps this says that
fourteen digits are read as a time exactly if they are what is written for it.
-/

import DekiMigration.Proofs.Timestamp
import DekiMigration.Text.Octets

namespace DekiMigration.Timestamp

open Text Calendar

/-- A stretch is taken for a value by a part of a certain width: it is as long as that at most,
and if it is, the value is written like this. -/
structure IsTaken (width value : Nat) (stretch : Text) : Prop where
  small : value < 10 ^ width
  short : stretch.length ≤ width
  written : stretch.length = width → stretch = padded width value

/-- What a part of a certain width reads at the front of ASCII digits it takes from there. -/
def Takes (width : Nat) (part : Part) : Prop :=
  ∀ ⦃text value rest⦄, (∀ c ∈ text, c.isDigit = true) → (value, rest) ∈ part text →
    ∃ stretch, text = stretch ++ rest ∧ IsTaken width value stretch

theorem IsTaken.append {width width' value value' : Nat} {stretch stretch' : Text}
    (taken : IsTaken (width + 1) value stretch) (taken' : IsTaken (width' + 1) value' stretch') :
    IsTaken (width + 1 + (width' + 1)) (10 ^ (width' + 1) * value + value')
      (stretch ++ stretch') := by
  have short := taken.short
  have short' := taken'.short
  refine ⟨?_, ?_, fun full => ?_⟩
  · calc 10 ^ (width' + 1) * value + value'
        < 10 ^ (width' + 1) * value + 10 ^ (width' + 1) := Nat.add_lt_add_left taken'.small _
      _ = 10 ^ (width' + 1) * (value + 1) := (Nat.mul_succ _ _).symm
      _ ≤ 10 ^ (width' + 1) * 10 ^ (width + 1) := Nat.mul_le_mul_left _ taken.small
      _ = 10 ^ (width + 1 + (width' + 1)) := by rw [← Nat.pow_add, Nat.add_comm]
  · rw [List.length_append]
    omega
  · rw [List.length_append] at full
    rw [taken.written (by omega), taken'.written (by omega), padded_append _ _ _ taken'.small]

/-- Two parts, one behind the other, are read as one number. -/
theorem takes_pair {width width' : Nat} {first second pair : Part}
    (takes : Takes (width + 1) first) (takes' : Takes (width' + 1) second)
    (pair_eq : ∀ text, pair text = (first text).flatMap fun (value, rest) =>
      (second rest).map fun (value', rest) => (10 ^ (width' + 1) * value + value', rest)) :
    Takes (width + 1 + (width' + 1)) pair := by
  intro text value rest digital isRead
  rw [pair_eq, List.mem_flatMap] at isRead
  obtain ⟨⟨front, ahead⟩, isFirst, isRead⟩ := isRead
  obtain ⟨⟨back, rest⟩, isSecond, reading_eq⟩ := List.mem_map.mp isRead
  cases reading_eq
  obtain ⟨stretch, rfl, taken⟩ := takes digital isFirst
  rw [List.forall_mem_append] at digital
  obtain ⟨stretch', rfl, taken'⟩ := takes' digital.2 isSecond
  exact ⟨stretch ++ stretch', (List.append_assoc _ _ _).symm, taken.append taken'⟩

/-- A part may be read in any of several ways. -/
theorem takes_anyOf {width : Nat} {parts : List Part} (takes : ∀ part ∈ parts, Takes width part) :
    Takes width (anyOf parts) := by
  intro text value rest digital isRead
  obtain ⟨part, listed, isRead⟩ := List.mem_flatMap.mp isRead
  exact takes part listed digital isRead

/-- Where two digits are usual, one may be taken. -/
theorem Takes.widen {part : Part} (takes : Takes 1 part) : Takes 2 part := by
  intro text value rest digital isRead
  obtain ⟨stretch, split, taken⟩ := takes digital isRead
  have small := taken.small
  have short := taken.short
  exact ⟨stretch, split, by omega, by omega, fun full => by omega⟩

/-- A digit is taken with its value. -/
theorem takes_one {part : Part} (reads : ∀ text reading, reading ∈ part text →
    ∃ c, text = c :: reading.2 ∧ (c.isDigit = true → reading.1 = c.toNat - '0'.toNat)) :
    Takes 1 part := by
  intro text value rest digital isRead
  obtain ⟨c, rfl, value_eq⟩ := reads text _ isRead
  have digit := digital c List.mem_cons_self
  obtain rfl := value_eq digit
  obtain ⟨least, greatest⟩ : 48 ≤ c.toNat ∧ c.toNat ≤ 57 := Char.isDigit_iff_toNat.mp digit
  have small : c.toNat - '0'.toNat < 10 := by
    change c.toNat - 48 < 10
    omega
  refine ⟨[c], rfl, small, Nat.le_refl 1, fun _ => ?_⟩
  rw [padded_one small, digitChar_of_isDigit digit]

theorem takes_digit : Takes 1 digit := by
  apply takes_one
  rintro (_ | ⟨c, text⟩) reading isRead
  · cases isRead
  · obtain ⟨value, found, rfl⟩ := List.mem_map.mp isRead
    refine ⟨c, rfl, fun isDigit => ?_⟩
    rw [Option.mem_toList, decimalValue?_of_isDigit isDigit] at found
    exact (Option.some.inj found).symm

theorem takes_digitIn (low high : Char) : Takes 1 (digitIn low high) := by
  apply takes_one
  rintro (_ | ⟨c, text⟩) reading isRead
  · cases isRead
  · rw [digitIn] at isRead
    split at isRead
    · obtain rfl := List.mem_singleton.mp isRead
      exact ⟨c, rfl, fun _ => rfl⟩
    · cases isRead

theorem takes_twoDigits {tens units : Part} (takes : Takes 1 tens) (takes' : Takes 1 units) :
    Takes 2 (twoDigits tens units) :=
  takes_pair takes takes' fun _ => rfl

/-- No space is among digits. -/
theorem takes_spacedDay : Takes 2 spacedDay := by
  intro text value rest digital isRead
  unfold spacedDay at isRead
  split at isRead
  · exact absurd (digital ' ' List.mem_cons_self) (by decide)
  · cases isRead

theorem takes_yearPart : Takes 4 yearPart :=
  takes_pair (takes_twoDigits takes_digit takes_digit) (takes_twoDigits takes_digit takes_digit)
    fun _ => rfl

theorem takes_parts : List.Forall₂ Takes [4, 2, 2, 2, 2, 2] parts := by
  have within (low high low' high' : Char) :
      Takes 2 (twoDigits (digitIn low high) (digitIn low' high')) :=
    takes_twoDigits (takes_digitIn low high) (takes_digitIn low' high')
  have upTo (low high : Char) : Takes 2 (twoDigits (digitIn low high) digit) :=
    takes_twoDigits (takes_digitIn low high) takes_digit
  have single (low high : Char) : Takes 2 (digitIn low high) := (takes_digitIn low high).widen
  have anyDigit : Takes 2 digit := takes_digit.widen
  have month : Takes 2 monthPart := by
    apply takes_anyOf
    simp [within, single]
  have day : Takes 2 dayPart := by
    apply takes_anyOf
    simp [within, upTo, single, takes_spacedDay]
  have hour : Takes 2 hourPart := by
    apply takes_anyOf
    simp [within, upTo, anyDigit]
  have minute : Takes 2 minutePart := by
    apply takes_anyOf
    simp [upTo, anyDigit]
  have second : Takes 2 secondPart := by
    apply takes_anyOf
    simp [within, upTo, anyDigit]
  exact .cons takes_yearPart
    (.cons month (.cons day (.cons hour (.cons minute (.cons second .nil)))))

/-- If the parts together take as many digits as they can, their values are what is written. -/
theorem exists_taken_of_mem_readings {widths : List Nat} {parts : List Part}
    (takes : List.Forall₂ Takes widths parts) {text rest : Text} {values : List Nat}
    (digital : ∀ c ∈ text, c.isDigit = true) (isRead : (values, rest) ∈ readings parts text) :
    ∃ stretch, text = stretch ++ rest ∧ stretch.length ≤ widths.sum ∧
      (stretch.length = widths.sum → stretch = (List.zipWith padded widths values).flatten) := by
  induction takes generalizing text values with
  | nil =>
      cases List.mem_singleton.mp isRead
      exact ⟨[], rfl, Nat.le_refl 0, fun _ => rfl⟩
  | @cons width part widths parts takesPart _ ih =>
      obtain ⟨⟨value, ahead⟩, isFirst, isRead⟩ := List.mem_flatMap.mp isRead
      obtain ⟨⟨values, rest⟩, isLater, reading_eq⟩ := List.mem_map.mp isRead
      cases reading_eq
      obtain ⟨stretch, rfl, -, short, written⟩ := takesPart digital isFirst
      rw [List.forall_mem_append] at digital
      obtain ⟨stretch', rfl, short', written'⟩ := ih digital.2 isLater
      refine ⟨stretch ++ stretch', (List.append_assoc _ _ _).symm, ?_, fun full => ?_⟩
      · rw [List.length_append, List.sum_cons]
        omega
      · rw [List.length_append, List.sum_cons] at full
        rw [List.zipWith_cons_cons, List.flatten_cons, ← written (by omega),
          ← written' (by omega)]

theorem write_of_ofParts? {year month day hour minute second : Nat} {time : DateTime}
    (found : DateTime.ofParts? year month day hour minute second = some time) :
    (List.zipWith padded [4, 2, 2, 2, 2, 2] [year, month, day, hour, minute, second]).flatten =
      write time := by
  rw [DateTime.ofParts?] at found
  split at found
  · split at found
    · cases found
      simp [write]
    · cases found
  · cases found

/-- Fourteen digits that are read as a time have been written for it. -/
theorem eq_write_of_readParts? {digits : Text} (fourteen : digits.length = 14)
    (digital : ∀ c ∈ digits, c.isDigit = true) {time : DateTime}
    (found : readParts? digits = some time) : digits = write time := by
  rw [readParts?] at found
  split at found
  · next year month day hour minute second first =>
      obtain ⟨stretch, rfl, -, written⟩ :=
        exists_taken_of_mem_readings takes_parts digital (List.mem_of_mem_head? first)
      rw [List.append_nil] at fourteen ⊢
      rw [written fourteen, write_of_ofParts? found]
  · cases found

/-- Fourteen ASCII digits, whatever blanks are around them, are read as the time for which they
are written, and not at all when there is none. It makes no difference if they are given in
ASCII. -/
theorem read?_fourteenDigits_iff {front digits back : Text} (blankFront : ∀ c ∈ front, isBlank c)
    (blankBack : ∀ c ∈ back, isBlank c) (fourteen : digits.length = 14)
    (digital : ∀ c ∈ digits, c.isDigit = true) :
    (∀ time, read? (front ++ (digits ++ back)) = some time ↔ digits = write time) ∧
      (read? (front ++ (digits ++ back)) = none ↔ ∀ time, digits ≠ write time) ∧
      ((∀ c ∈ front ++ back, c.toNat < 0x80) →
        read? (ofAscii (toOctets (front ++ (digits ++ back)))) =
          read? (front ++ (digits ++ back))) := by
  have solid : IsSolid digits :=
    isSolid_of_visible fun c inside => isBlank_of_isDigit (digital c inside)
  have read_eq : read? (front ++ (digits ++ back)) = readParts? digits := by
    rw [read?, trim_eq blankFront solid blankBack]
  have known (time : DateTime) : readParts? digits = some time ↔ digits = write time := by
    refine ⟨eq_write_of_readParts? fourteen digital, ?_⟩
    rintro rfl
    have found := read?_write time
    rwa [read?, solid.trim_eq_self] at found
  refine ⟨fun time => by rw [read_eq, known], ?_, fun ascii => ?_⟩
  · rw [read_eq, Option.eq_none_iff_forall_ne_some]
    exact forall_congr' fun time => not_congr (known time)
  · rw [List.forall_mem_append] at ascii
    have asciiDigit : ∀ c ∈ digits, c.toNat < 0x80 := by
      intro c inside
      obtain ⟨-, greatest⟩ : 48 ≤ c.toNat ∧ c.toNat ≤ 57 :=
        Char.isDigit_iff_toNat.mp (digital c inside)
      omega
    rw [ofAscii_toOctets]
    simp only [List.forall_mem_append]
    exact ⟨ascii.1, asciiDigit, ascii.2⟩

/-- The last second of a leap day, with blanks around it. -/
theorem read?_fourteenDigits_leapDay :
    (∀ c ∈ " ".toList, isBlank c) ∧ (∀ c ∈ "\n".toList, isBlank c) ∧
      "20080229235959".toList.length = 14 ∧
      (∀ c ∈ "20080229235959".toList, c.isDigit = true) ∧
      (∀ c ∈ " ".toList ++ "\n".toList, c.toNat < 0x80) ∧
      read? (ofAscii (toOctets (" ".toList ++ ("20080229235959".toList ++ "\n".toList)))) =
        some ⟨2008, 2, 29, 23, 59, 59, by decide, by decide⟩ := by
  have blankFront : ∀ c ∈ " ".toList, isBlank c := by decide
  have blankBack : ∀ c ∈ "\n".toList, isBlank c := by decide
  have fourteen : "20080229235959".toList.length = 14 := by decide
  have digital : ∀ c ∈ "20080229235959".toList, c.isDigit = true := by decide
  have ascii : ∀ c ∈ " ".toList ++ "\n".toList, c.toNat < 0x80 := by decide
  have decided := read?_fourteenDigits_iff blankFront blankBack fourteen digital
  refine ⟨blankFront, blankBack, fourteen, digital, ascii, ?_⟩
  rw [decided.2.2 ascii]
  exact (decided.1 _).mpr (by decide +kernel)

end DekiMigration.Timestamp
