/-
# What timestamps are written with

Behind the year every part of a timestamp may have one digit where two are usual, and a day may
have a space before its digit. This module says which stretches of a text a part may take: its
form. A part takes every stretch of its form, for the number that the digits in it write, and
prefers the longer ones.
-/

import DekiMigration.Proofs.Text.Number
import DekiMigration.Timestamp

namespace DekiMigration.Timestamp

open Text Calendar

/-- What the stretch that a part takes may look like. -/
abbrev Form := Text → Prop

/-- A digit may end a number with so many tens, when numbers go from `low` to `high`. Where any
digit may, it may be one of any script; else it has to be an ASCII digit. -/
def MayEnd (low high tens : Nat) (c : Char) : Prop :=
  ∃ unit ∈ decimalValue? c, low ≤ 10 * tens + unit ∧ 10 * tens + unit ≤ high ∧
    (c.isDigit = true ∨ low ≤ 10 * tens ∧ 10 * tens + 9 ≤ high)

/-- A number between bounds, in one digit or two. -/
inductive IsNumber (low high : Nat) : Form
  | one {c : Char} (unit : MayEnd low high 0 c) : IsNumber low high [c]
  | two {c d : Char} (tens : c.isDigit = true)
      (unit : MayEnd low high (c.toNat - '0'.toNat) d) : IsNumber low high [c, d]

/-- So many digits of any script. -/
def AreDecimals (count : Nat) : Form := fun stretch =>
  stretch.length = count ∧ ∀ c ∈ stretch, isDecimal c = true

/-- A day, which may have a space instead of its tens. -/
def IsDay : Form := fun stretch =>
  IsNumber 1 31 stretch ∨ ∃ c, stretch = [' ', c] ∧ MayEnd 1 9 0 c

/-- What the parts of a timestamp are written with. -/
def forms : List Form :=
  [AreDecimals 4, IsNumber 1 12, IsDay, IsNumber 0 23, IsNumber 0 59, IsNumber 0 61]

theorem isDigit_of_within {low high c : Char} (least : '0' ≤ low) (greatest : high ≤ '9')
    (within : low ≤ c ∧ c ≤ high) : c.isDigit = true := by
  rw [Char.isDigit, Bool.and_eq_true, decide_eq_true_eq, decide_eq_true_eq]
  exact ⟨least.trans within.1, within.2.trans greatest⟩

@[grind =]
theorem le_iff_toNat_le {c d : Char} : c ≤ d ↔ c.toNat ≤ d.toNat :=
  Iff.rfl

@[grind =]
theorem isDigit_iff_toNat {c : Char} : c.isDigit = true ↔ 48 ≤ c.toNat ∧ c.toNat ≤ 57 :=
  Char.isDigit_iff_toNat

@[grind =]
theorem mayEnd_iff {low high tens : Nat} {c : Char} :
    MayEnd low high tens c ↔
      c.isDigit = true ∧ low ≤ 10 * tens + (c.toNat - 48) ∧ 10 * tens + (c.toNat - 48) ≤ high ∨
        isDecimal c = true ∧ low ≤ 10 * tens ∧ 10 * tens + 9 ≤ high := by
  constructor
  · rintro ⟨unit, digit, least, greatest, ascii | full⟩
    · rw [decimalValue?_of_isDigit ascii, Option.mem_some] at digit
      exact .inl ⟨ascii, by omega, by omega⟩
    · exact .inr ⟨Option.isSome_of_mem digit, full⟩
  · rintro (⟨ascii, least, greatest⟩ | ⟨decimal, full⟩)
    · exact ⟨_, decimalValue?_of_isDigit ascii, least, greatest, .inl ascii⟩
    · obtain ⟨unit, digit⟩ := Option.isSome_iff_exists.mp decimal
      have small := decimalValue?_lt digit
      exact ⟨unit, digit, by omega, by omega, .inr full⟩

theorem MayEnd.isDecimal {low high tens : Nat} {c : Char} (ends : MayEnd low high tens c) :
    isDecimal c = true := by
  obtain ⟨unit, digit, -⟩ := ends
  exact Option.isSome_of_mem digit

/-- A part takes the stretches of a form, for the numbers they write. -/
def ReadsAs (part : Part) (form : Form) : Prop :=
  ∀ ⦃text value rest⦄, (value, rest) ∈ part text ↔
    ∃ stretch, form stretch ∧ stretch ++ rest = text ∧ numberOf stretch = value

/-- A part takes the stretches of a form, and the longest first. -/
structure Prefers (part : Part) (form : Form) : Prop where
  reads : ReadsAs part form
  longestFirst : ∀ text, (part text).Pairwise fun earlier later =>
    earlier.2.length ≤ later.2.length

/-- Where stretches of two forms begin in one place, that of the first is the longer one. -/
def Before (form form' : Form) : Prop :=
  ∀ ⦃stretch stretch' rest rest' : Text⦄, form stretch → form' stretch' →
    stretch ++ rest = stretch' ++ rest' → stretch'.length ≤ stretch.length

/-- A stretch of one character. -/
def Single (fits : Char → Prop) : Form := fun stretch =>
  ∃ c, fits c ∧ stretch = [c]

/-- A stretch of two characters. -/
def Pair (fits fits' : Char → Prop) : Form := fun stretch =>
  ∃ c d, fits c ∧ fits' d ∧ stretch = [c, d]

/-- Stretches of a form have one character or two. -/
def IsBrief (form : Form) : Prop :=
  ∀ stretch, form stretch → stretch.length = 1 ∨ stretch.length = 2

section Forms

variable {fits fits' : Char → Prop} {form form' : Form} {part : Part} {c d : Char}

@[simp]
theorem single_one : Single fits [c] ↔ fits c := by
  simp [Single]

@[simp]
theorem single_two : ¬ Single fits [c, d] := by
  simp [Single]

@[simp]
theorem pair_one : ¬ Pair fits fits' [c] := by
  simp [Pair]

@[simp]
theorem pair_two : Pair fits fits' [c, d] ↔ fits c ∧ fits' d := by
  simp [Pair]

@[simp]
theorem isBrief_single : IsBrief (Single fits) := by
  rintro _ ⟨c, -, rfl⟩
  exact .inl rfl

@[simp]
theorem isBrief_pair : IsBrief (Pair fits fits') := by
  rintro _ ⟨c, d, -, -, rfl⟩
  exact .inr rfl

@[simp]
theorem isNumber_one {low high : Nat} : IsNumber low high [c] ↔ MayEnd low high 0 c :=
  ⟨fun (.one unit) => unit, .one⟩

@[simp]
theorem isNumber_two {low high : Nat} : IsNumber low high [c, d] ↔
    c.isDigit = true ∧ MayEnd low high (c.toNat - '0'.toNat) d :=
  ⟨fun (.two tens unit) => ⟨tens, unit⟩, fun ⟨tens, unit⟩ => .two tens unit⟩

@[simp]
theorem isBrief_isNumber {low high : Nat} : IsBrief (IsNumber low high) := by
  rintro _ (⟨unit⟩ | ⟨tens, unit⟩)
  · exact .inl rfl
  · exact .inr rfl

@[simp]
theorem isDay_one : IsDay [c] ↔ MayEnd 1 31 0 c := by
  simp [IsDay]

@[simp]
theorem isDay_two : IsDay [c, d] ↔
    c.isDigit = true ∧ MayEnd 1 31 (c.toNat - '0'.toNat) d ∨ c = ' ' ∧ MayEnd 1 9 0 d := by
  simp [IsDay]

@[simp]
theorem isBrief_isDay : IsBrief IsDay := by
  rintro stretch (number | ⟨c, rfl, -⟩)
  · exact isBrief_isNumber stretch number
  · exact .inr rfl

@[simp]
theorem before_single : Before (Single fits) (Single fits') := by
  rintro _ _ rest rest' ⟨c, -, rfl⟩ ⟨d, -, rfl⟩ -
  exact Nat.le_refl 1

theorem IsBrief.pair_before (brief : IsBrief form) : Before (Pair fits fits') form := by
  rintro _ stretch rest rest' ⟨c, d, -, -, rfl⟩ isSecond -
  show stretch.length ≤ 2
  rcases brief stretch isSecond with one | two <;> omega

@[simp]
theorem pair_before_single {one : Char → Prop} : Before (Pair fits fits') (Single one) :=
  isBrief_single.pair_before

@[simp]
theorem pair_before_pair {fits₂ fits₂' : Char → Prop} :
    Before (Pair fits fits') (Pair fits₂ fits₂') :=
  isBrief_pair.pair_before

/-- Forms with brief stretches are the same when they are for one character and for two. -/
theorem IsBrief.ext (brief : IsBrief form) (brief' : IsBrief form')
    (one : ∀ c, form [c] ↔ form' [c]) (two : ∀ c d, form [c, d] ↔ form' [c, d]) :
    form = form' := by
  funext stretch
  rw [eq_iff_iff]
  rcases stretch with _ | ⟨c, _ | ⟨d, _ | ⟨e, later⟩⟩⟩
  · exact iff_of_false (fun empty => by simpa using brief _ empty)
      fun empty => by simpa using brief' _ empty
  · exact one c
  · exact two c d
  · exact iff_of_false (fun long => by simpa using brief _ long)
      fun long => by simpa using brief' _ long

end Forms

theorem reads_single {part : Part} {fits : Char → Prop} [DecidablePred fits]
    (nil : part [] = [])
    (cons : ∀ c rest, part (c :: rest) = if fits c then [(numberOf [c], rest)] else []) :
    ReadsAs part (Single fits) := by
  rintro (_ | ⟨c, text⟩) value rest
  · simp [nil, Single]
  · rw [cons]
    constructor
    · intro isRead
      split at isRead
      · next fit =>
          cases List.mem_singleton.mp isRead
          exact ⟨[c], ⟨c, fit, rfl⟩, rfl, rfl⟩
      · cases isRead
    · rintro ⟨_, ⟨d, fit, rfl⟩, same, rfl⟩
      cases same
      rw [if_pos fit]
      exact List.mem_singleton_self _

theorem reads_digit : ReadsAs digit (Single fun c => isDecimal c = true) := by
  apply reads_single rfl
  intro c rest
  rw [digit, isDecimal]
  cases found : decimalValue? c <;> simp [numberOf, found, ofDigits]

theorem reads_digitIn {low high : Char} (least : '0' ≤ low) (greatest : high ≤ '9') :
    ReadsAs (digitIn low high) (Single fun c => low ≤ c ∧ c ≤ high) := by
  apply reads_single rfl
  intro c rest
  simp only [digitIn, Bool.and_eq_true, decide_eq_true_eq]
  by_cases within : low ≤ c ∧ c ≤ high
  · have digit := isDigit_of_within least greatest within
    rw [if_pos within, if_pos within]
    simp [numberOf, decimalValue?_of_isDigit digit, ofDigits]
  · rw [if_neg within, if_neg within]

theorem reads_twoDigits {tens units : Part} {fits fits' : Char → Prop}
    (reads : ReadsAs tens (Single fits)) (reads' : ReadsAs units (Single fits'))
    (decimal : ∀ c, fits' c → isDecimal c = true) :
    ReadsAs (twoDigits tens units) (Pair fits fits') := by
  intro text value rest
  simp only [twoDigits, List.mem_flatMap, List.mem_map, Prod.exists, Prod.mk.injEq]
  constructor
  · rintro ⟨ten, ahead, isTens, unit, _, isUnits, rfl, rfl⟩
    obtain ⟨_, ⟨c, fit, rfl⟩, rfl, rfl⟩ := reads.mp isTens
    obtain ⟨_, ⟨d, fit', rfl⟩, rfl, rfl⟩ := reads'.mp isUnits
    exact ⟨[c, d], ⟨c, d, fit, fit', rfl⟩, rfl, numberOf_concat [c] (decimal d fit')⟩
  · rintro ⟨_, ⟨c, d, fit, fit', rfl⟩, rfl, rfl⟩
    exact ⟨_, _, reads.mpr ⟨[c], ⟨c, fit, rfl⟩, rfl, rfl⟩,
      _, _, reads'.mpr ⟨[d], ⟨d, fit', rfl⟩, rfl, rfl⟩,
      (numberOf_concat [c] (decimal d fit')).symm, rfl⟩

/-- Where all stretches have one width there is nothing to prefer. -/
theorem ReadsAs.prefers {part : Part} {form : Form} (reads : ReadsAs part form)
    (level : Before form form) : Prefers part form := by
  refine ⟨reads, fun text => List.pairwise_of_forall_mem_list ?_⟩
  rintro ⟨value, rest⟩ isRead ⟨value', rest'⟩ isRead'
  obtain ⟨stretch, fit, rfl, -⟩ := reads.mp isRead
  obtain ⟨stretch', fit', split_eq, -⟩ := reads.mp isRead'
  have shorter := level fit fit' split_eq.symm
  have lengths := congrArg List.length split_eq
  simp only [List.length_append] at lengths
  show rest.length ≤ rest'.length
  omega

/-- Alternatives that stand in order prefer the longest stretch together. -/
theorem prefers_anyOf {parts : List Part} {forms : List Form}
    (prefers : List.Forall₂ Prefers parts forms) (ordered : forms.Pairwise Before) :
    Prefers (anyOf parts) fun stretch => ∃ form ∈ forms, form stretch := by
  induction prefers with
  | nil => exact ⟨fun text value rest => by simp [anyOf], fun text => List.Pairwise.nil⟩
  | @cons part form parts forms first _ ih =>
      obtain ⟨before, ordered⟩ := List.pairwise_cons.mp ordered
      obtain ⟨reads, longestFirst⟩ := ih ordered
      constructor
      case reads =>
        intro text value rest
        rw [anyOf, List.flatMap_cons, List.mem_append, ← anyOf, reads, first.reads]
        simp only [List.exists_mem_cons_iff, or_and_right, exists_or]
      case longestFirst =>
        intro text
        rw [anyOf, List.flatMap_cons, List.pairwise_append]
        refine ⟨first.longestFirst text, longestFirst text, ?_⟩
        rintro ⟨value, rest⟩ isRead ⟨value', rest'⟩ isRead'
        obtain ⟨stretch, fit, rfl, -⟩ := first.reads.mp isRead
        obtain ⟨stretch', ⟨form', listed, fit'⟩, split_eq, -⟩ := reads.mp isRead'
        have shorter := before form' listed fit fit' split_eq.symm
        have lengths := congrArg List.length split_eq
        simp only [List.length_append] at lengths
        show rest.length ≤ rest'.length
        omega

/-- Alternatives with brief stretches are told by what they take of one character and of two. -/
theorem prefers_alternatives {parts : List Part} {forms : List Form} {form : Form}
    (prefers : List.Forall₂ Prefers parts forms)
    (same : ∀ c d, ((∃ form ∈ forms, form [c]) ↔ form [c]) ∧
      ((∃ form ∈ forms, form [c, d]) ↔ form [c, d]))
    (brief' : IsBrief form) (brief : ∀ form ∈ forms, IsBrief form := by simp)
    (ordered : forms.Pairwise Before := by simp) : Prefers (anyOf parts) form := by
  have brief : IsBrief fun stretch => ∃ form ∈ forms, form stretch :=
    fun stretch ⟨form, listed, fit⟩ => brief form listed stretch fit
  rw [← brief.ext brief' (fun c => (same c c).1) fun c d => (same c d).2]
  exact prefers_anyOf prefers ordered

theorem prefers_digit : Prefers digit (Single fun c => isDecimal c = true) :=
  reads_digit.prefers before_single

theorem prefers_digitIn (low high : Char) (least : '0' ≤ low := by decide)
    (greatest : high ≤ '9' := by decide) :
    Prefers (digitIn low high) (Single fun c => low ≤ c ∧ c ≤ high) :=
  (reads_digitIn least greatest).prefers before_single

theorem prefers_row (low high : Char) (least : '0' ≤ low := by decide)
    (greatest : high ≤ '9' := by decide) :
    Prefers (twoDigits (digitIn low high) digit)
      (Pair (fun c => low ≤ c ∧ c ≤ high) fun c => isDecimal c = true) :=
  (reads_twoDigits (reads_digitIn least greatest) reads_digit fun _ decimal => decimal).prefers
    pair_before_pair

theorem prefers_pair (low high low' high' : Char) (least : '0' ≤ low := by decide)
    (greatest : high ≤ '9' := by decide) (least' : '0' ≤ low' := by decide)
    (greatest' : high' ≤ '9' := by decide) :
    Prefers (twoDigits (digitIn low high) (digitIn low' high'))
      (Pair (fun c => low ≤ c ∧ c ≤ high) fun c => low' ≤ c ∧ c ≤ high') := by
  have decimal (c : Char) (within : low' ≤ c ∧ c ≤ high') : isDecimal c = true :=
    isDecimal_of_isDigit (isDigit_of_within least' greatest' within)
  exact (reads_twoDigits (reads_digitIn least greatest) (reads_digitIn least' greatest')
    decimal).prefers pair_before_pair

theorem prefers_spacedDay :
    Prefers spacedDay (Pair (fun c => c = ' ') fun c => '1' ≤ c ∧ c ≤ '9') := by
  have unit := (prefers_digitIn '1' '9').reads
  have value {c : Char} (within : '1' ≤ c ∧ c ≤ '9') : numberOf [' ', c] = numberOf [c] := by
    have digit := isDecimal_of_isDigit (isDigit_of_within (by decide) (by decide) within)
    exact (numberOf_concat [' '] digit).trans (Nat.zero_add _)
  refine ReadsAs.prefers (fun text number rest => ?_) pair_before_pair
  unfold spacedDay
  split
  · next ahead =>
      rw [unit]
      constructor
      · rintro ⟨_, ⟨c, within, rfl⟩, rfl, rfl⟩
        exact ⟨[' ', c], ⟨' ', c, rfl, within, rfl⟩, rfl, value within⟩
      · rintro ⟨_, ⟨_, c, rfl, within, rfl⟩, same, rfl⟩
        cases same
        exact ⟨[c], ⟨c, within, rfl⟩, rfl, (value within).symm⟩
  · next unspaced =>
      refine iff_of_false List.not_mem_nil ?_
      rintro ⟨_, ⟨_, c, rfl, -, rfl⟩, same, -⟩
      exact unspaced _ same.symm

/-- A digit is no space. -/
theorem single_before_spaced : Before (Single fun c => '1' ≤ c ∧ c ≤ '9')
    (Pair (fun c => c = ' ') fun c => '1' ≤ c ∧ c ≤ '9') := by
  rintro _ _ rest rest' ⟨c, within, rfl⟩ ⟨_, d, rfl, -, rfl⟩ same
  cases same
  exact absurd within (by decide)

theorem prefers_yearPart : Prefers yearPart (AreDecimals 4) := by
  have two := reads_twoDigits reads_digit reads_digit fun _ decimal => decimal
  have level : Before (AreDecimals 4) (AreDecimals 4) := fun _ _ _ _ four four' _ =>
    four'.1.le.trans four.1.ge
  have value {a b c d : Char} (hundreds : isDecimal c = true) (rest : isDecimal d = true) :
      numberOf [a, b, c, d] = 100 * numberOf [a, b] + numberOf [c, d] := by
    have whole := numberOf_concat [a, b, c] rest
    have front := numberOf_concat [a, b] hundreds
    have back := numberOf_concat [c] rest
    simp only [List.cons_append, List.nil_append] at whole front back
    omega
  refine ReadsAs.prefers (fun text number rest => ?_) level
  simp only [yearPart, List.mem_flatMap, List.mem_map, Prod.exists, Prod.mk.injEq]
  constructor
  · rintro ⟨century, ahead, isCentury, year, _, isYear, rfl, rfl⟩
    obtain ⟨_, ⟨a, b, first, second, rfl⟩, rfl, rfl⟩ := two.mp isCentury
    obtain ⟨_, ⟨c, d, third, fourth, rfl⟩, rfl, rfl⟩ := two.mp isYear
    exact ⟨[a, b, c, d], ⟨rfl, by simp [first, second, third, fourth]⟩, rfl, value third fourth⟩
  · rintro ⟨stretch, ⟨four, decimal⟩, rfl, rfl⟩
    obtain ⟨a, b, c, d, rfl⟩ := List.length_eq_four.mp four
    simp only [List.forall_mem_cons] at decimal
    obtain ⟨first, second, third, fourth, -⟩ := decimal
    exact ⟨_, _, two.mpr ⟨[a, b], ⟨a, b, first, second, rfl⟩, rfl, rfl⟩,
      _, _, two.mpr ⟨[c, d], ⟨c, d, third, fourth, rfl⟩, rfl, rfl⟩,
      (value third fourth).symm, rfl⟩

theorem prefers_parts : List.Forall₂ Prefers parts forms := by
  have month : Prefers monthPart (IsNumber 1 12) :=
    prefers_alternatives (.cons (prefers_pair '1' '1' '0' '2')
      (.cons (prefers_pair '0' '0' '1' '9') (.cons (prefers_digitIn '1' '9') .nil)))
      ?month isBrief_isNumber
  have day : Prefers dayPart IsDay :=
    prefers_alternatives (.cons (prefers_pair '3' '3' '0' '1') (.cons (prefers_row '1' '2')
      (.cons (prefers_pair '0' '0' '1' '9') (.cons (prefers_digitIn '1' '9')
        (.cons prefers_spacedDay .nil)))))
      ?day isBrief_isDay (by simp) (by simp [single_before_spaced])
  have hour : Prefers hourPart (IsNumber 0 23) :=
    prefers_alternatives (.cons (prefers_pair '2' '2' '0' '3')
      (.cons (prefers_row '0' '1') (.cons prefers_digit .nil)))
      ?hour isBrief_isNumber
  have minute : Prefers minutePart (IsNumber 0 59) :=
    prefers_alternatives (.cons (prefers_row '0' '5') (.cons prefers_digit .nil))
      ?minute isBrief_isNumber
  have second : Prefers secondPart (IsNumber 0 61) :=
    prefers_alternatives (.cons (prefers_pair '6' '6' '0' '1')
      (.cons (prefers_row '0' '5') (.cons prefers_digit .nil)))
      ?second isBrief_isNumber
  · exact .cons prefers_yearPart
      (.cons month (.cons day (.cons hour (.cons minute (.cons second .nil)))))
  -- the alternatives of a part, as ranges of digits, make up the range of its numbers
  all_goals
    intro c d
    simp only [List.exists_mem_cons_iff, List.not_mem_nil, single_one, single_two, pair_one,
      pair_two, isNumber_one, isNumber_two, isDay_one, isDay_two]
    grind

end DekiMigration.Timestamp
