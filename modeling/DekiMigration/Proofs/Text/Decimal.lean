/-
# Numbers as they are written

A whole number is written with its decimal digits, the first of them zero only when it is
the only one, and a minus sign in front when it is negative. All that a lenient reader of
numbers allows besides is absent from that, so such a reader takes the number as it is.
Where a number has a width of its own, zeros are in front of its digits.
-/

import Mathlib
import DekiMigration.Proofs.Text.Parts
import DekiMigration.Validation

namespace DekiMigration

namespace Text

theorem isDigit_of_mem_ofNat {number : Nat} {c : Char} (inside : c ∈ ofNat number) :
    c.isDigit = true :=
  Nat.isDigit_of_mem_toDigits (by decide) (by decide) inside

/-- The digits of a number have its value. -/
theorem ofDigits_ofNat (number : Nat) :
    ofDigits ((ofNat number).map fun c => c.toNat - '0'.toNat) = number := by
  rw [ofDigits, List.foldl_map]
  exact Nat.ofDigitChars_toDigits (by decide) (by decide)

/-- Zero does not lead. -/
theorem head?_ofNat_ne_zero {number : Nat} (positive : 0 < number) :
    (ofNat number).head? ≠ some '0' := by
  induction number using Nat.strongRecOn with
  | ind number ih =>
      rw [ofNat, Nat.toDigits_eq_if (by decide)]
      split
      · rw [List.head?_cons, ne_eq, Option.some.injEq, Nat.digitChar_eq_zero]
        exact Nat.ne_of_gt positive
      · next large =>
          have fewer : number / 10 < number := Nat.div_lt_self positive (by decide)
          have front := ih _ fewer (Nat.div_pos (Nat.le_of_not_lt large) (by decide))
          obtain ⟨c, rest, digits_eq⟩ := List.exists_cons_of_ne_nil
            (Nat.toDigits_ne_nil (n := number / 10) (b := 10))
          rw [ofNat, digits_eq] at front
          rw [digits_eq]
          exact front

theorem ofInt_ne_nil (number : Int) : ofInt number ≠ [] := by
  cases number with
  | ofNat size => exact Nat.toDigits_ne_nil
  | negSucc size => exact List.cons_ne_nil _ _

theorem length_ofNat_le {number width : Nat} (positive : 0 < width) (small : number < 10 ^ width) :
    (ofNat number).length ≤ width :=
  (Nat.length_toDigits_le_iff (by decide) positive).mpr small

theorem ne_of_isDigit {c other : Char} (digit : c.isDigit = true)
    (foreign : other.isDigit = false) : c ≠ other := by
  rintro rfl
  rw [digit] at foreign
  cases foreign

/-- A digit is the one that is written for its value. -/
theorem digitChar_of_isDigit {c : Char} (digit : c.isDigit = true) :
    (c.toNat - '0'.toNat).digitChar = c := by
  obtain ⟨least, greatest⟩ : 48 ≤ c.toNat ∧ c.toNat ≤ 57 := Char.isDigit_iff_toNat.mp digit
  have small : c.toNat - 48 < 10 := by omega
  have value : (c.toNat - 48).digitChar.toNat = c.toNat := by
    rw [Nat.toNat_digitChar_of_lt_ten small]
    omega
  exact Char.toNat_inj.mp value

theorem isBlank_of_isDigit {c : Char} (digit : c.isDigit = true) : isBlank c = false := by
  obtain ⟨least, greatest⟩ : 48 ≤ c.toNat ∧ c.toNat ≤ 57 := Char.isDigit_iff_toNat.mp digit
  simp [isBlank]
  omega

/-- The last digit of a padded number stands for its units, and the others for its tens. -/
theorem padded_succ (width number : Nat) :
    padded (width + 2) number =
      padded (width + 1) (number / 10) ++ [(number % 10).digitChar] := by
  have digits_eq : ofNat number =
      if number < 10 then [number.digitChar]
      else ofNat (number / 10) ++ [(number % 10).digitChar] :=
    Nat.toDigits_eq_if (by decide)
  by_cases small : number < 10
  · rw [if_pos small] at digits_eq
    rw [padded, padded, digits_eq, Nat.div_eq_of_lt small, Nat.mod_eq_of_lt small]
    exact congrArg (· ++ _) List.replicate_succ'
  · rw [if_neg small] at digits_eq
    rw [padded, padded, digits_eq, List.length_append, ← List.append_assoc]
    congr 3
    exact Nat.add_sub_add_right (width + 1) 1 _

theorem padded_one {number : Nat} (small : number < 10) :
    padded 1 number = [number.digitChar] := by
  have digits_eq : ofNat number = [number.digitChar] := Nat.toDigits_of_lt_base small
  rw [padded, digits_eq]
  rfl

/-- Two digits stand for tens and units. -/
theorem padded_two {number : Nat} (small : number < 100) :
    padded 2 number = [(number / 10).digitChar, (number % 10).digitChar] := by
  have tens : number / 10 < 10 := by omega
  rw [padded_succ, padded_one tens]
  rfl

/-- The digits of two padded numbers, one behind the other, are those of one number. -/
theorem padded_append (width width' number : Nat) {number' : Nat}
    (small : number' < 10 ^ (width' + 1)) :
    padded (width + 1) number ++ padded (width' + 1) number' =
      padded (width + 1 + (width' + 1)) (10 ^ (width' + 1) * number + number') := by
  induction width' generalizing number' with
  | zero =>
      have tens : (10 ^ (0 + 1) * number + number') / 10 = number := by omega
      have units : (10 ^ (0 + 1) * number + number') % 10 = number' := by omega
      rw [padded_succ, padded_one small, tens, units]
  | succ width' ih =>
      have fewer : number' / 10 < 10 ^ (width' + 1) := by omega
      have shift : 10 ^ (width' + 1 + 1) * number = 10 * (10 ^ (width' + 1) * number) := by ring
      have tens : (10 ^ (width' + 1 + 1) * number + number') / 10 =
          10 ^ (width' + 1) * number + number' / 10 := by omega
      have units : (10 ^ (width' + 1 + 1) * number + number') % 10 = number' % 10 := by omega
      have last := padded_succ (width + 1 + width') (10 ^ (width' + 1 + 1) * number + number')
      rw [tens, units] at last
      rw [padded_succ width', ← List.append_assoc, ih fewer]
      exact last.symm

/-- Four digits are two for the hundreds and two for the rest. -/
theorem padded_four (number : Nat) :
    padded 4 number = padded 2 (number / 100) ++ padded 2 (number % 100) := by
  have joined := padded_append 1 1 (number / 10 ^ (1 + 1)) (Nat.mod_lt number (by decide))
  rw [Nat.div_add_mod] at joined
  exact joined.symm

/-- A number that has digits enough is not padded. -/
theorem padded_eq_ofNat {width number : Nat} (wide : 10 ^ (width + 1) ≤ number) :
    padded (width + 2) number = ofNat number := by
  have long : ¬ (ofNat number).length ≤ width + 1 := by
    rw [ofNat, Nat.length_toDigits_le_iff (by decide) (by omega)]
    exact Nat.not_lt.mpr wide
  rw [padded, Nat.sub_eq_zero_of_le (Nat.lt_of_not_le long)]
  rfl

theorem length_padded {width number : Nat} (positive : 0 < width) (small : number < 10 ^ width) :
    (padded width number).length = width := by
  rw [padded, List.length_append, List.length_replicate]
  exact Nat.sub_add_cancel (length_ofNat_le positive small)

theorem isDigit_of_mem_padded {width number : Nat} {c : Char} (inside : c ∈ padded width number) :
    c.isDigit = true := by
  rw [padded, List.mem_append] at inside
  rcases inside with isZero | isDigit
  · rw [List.eq_of_mem_replicate isZero]
    rfl
  · exact isDigit_of_mem_ofNat isDigit

end Text

namespace Validation

open Text

/-- Nothing but digits and minus signs. -/
def IsPlain (text : Text) : Prop :=
  ∀ c ∈ text, c.isDigit = true ∨ c = '-'

theorem IsPlain.not_mem {text : Text} {c : Char} (plain : IsPlain text)
    (other : c.isDigit = false ∧ c ≠ '-') : c ∉ text := by
  intro inside
  rcases plain c inside with digit | minus
  · rw [other.1] at digit
    cases digit
  · exact other.2 minus

theorem isNumberBlank_of_isDigit {c : Char} (digit : c.isDigit = true) :
    isNumberBlank c = false := by
  rw [isNumberBlank, isBlank_of_isDigit digit, Bool.false_and]

theorem isLeadingDigit_of_isDigit {c : Char} (digit : c.isDigit = true) (other : c ≠ '0') :
    isLeadingDigit c = true := by
  obtain ⟨least, greatest⟩ : 48 ≤ c.toNat ∧ c.toNat ≤ 57 := Char.isDigit_iff_toNat.mp digit
  have above : c.toNat ≠ 48 := fun same => other (Char.toNat_inj.mp same)
  have range : 49 ≤ c.toNat ∧ c.toNat ≤ 57 := by omega
  simpa [isLeadingDigit, Char.le_def, UInt32.le_iff_toNat_le] using range

theorem trimNumber_eq_self {text : Text} (plain : IsPlain text) : trimNumber text = text := by
  have visible : ∀ c ∈ text, isNumberBlank c = false := by
    intro c inside
    rcases plain c inside with digit | rfl
    · exact isNumberBlank_of_isDigit digit
    · decide
  have kept : ∀ text : Text, (∀ c ∈ text, isNumberBlank c = false) →
      text.dropWhile isNumberBlank = text := by
    intro text visible
    rw [List.dropWhile_eq_self_iff]
    intro nonempty
    rw [visible _ (List.getElem_mem nonempty)]
    exact Bool.false_ne_true
  rw [trimNumber, kept text visible, kept text.reverse fun c inside =>
    visible c (List.mem_reverse.mp inside), List.reverse_reverse]

theorem withoutFraction_eq_self {text : Text} (plain : IsPlain text) :
    withoutFraction text = text := by
  rw [withoutFraction, cutAt?_eq_none (plain.not_mem (by decide))]

theorem withoutLowLines_eq_self {text : Text} (plain : IsPlain text) :
    withoutLowLines text = text := by
  have absent : '_' ∉ text := plain.not_mem (by decide)
  rw [withoutLowLines]
  split
  · rfl
  · rw [List.filter_eq_self]
    intro c inside
    have other : c ≠ '_' := fun same => absent (same ▸ inside)
    simpa using other

/-- Digits that zero does not lead are read by their value, with a minus in front too. -/
theorem plainNumber_ofNat {number : Nat} (short : number < 10 ^ maxDigits) :
    plainNumber (ofNat number) = .ok (number : Int) ∧
      plainNumber ('-' :: ofNat number) = .ok (-(number : Int)) := by
  have digits : (ofNat number).all Char.isDigit = true :=
    List.all_eq_true.mpr fun c inside => isDigit_of_mem_ofNat inside
  have narrow := length_ofNat_le (by decide) short
  have value := ofDigits_ofNat number
  have nonempty : ofNat number ≠ [] := Nat.toDigits_ne_nil
  have bare : (ofNat number).head? = some '0' → (ofNat number).length = 1 := by
    intro leads
    have zero : number = 0 := Nat.eq_zero_of_not_pos fun positive =>
      head?_ofNat_ne_zero positive leads
    rw [zero]
    rfl
  generalize ofNat number = written at *
  have accepted : (written.isEmpty || !written.all Char.isDigit ||
      written.head? = some '0' && written.length != 1) = false := by
    rw [List.isEmpty_eq_false_iff.mpr nonempty, digits]
    by_cases leads : written.head? = some '0'
    · simp [bare leads]
    · simp [leads]
  have unsigned : ∀ rest, written = '-' :: rest → False := by
    rintro rest rfl
    exact absurd digits (by simp)
  constructor
  · rw [plainNumber]
    · dsimp only
      rw [accepted, if_neg Bool.false_ne_true, if_neg (Nat.not_lt_of_le narrow), value]
      rfl
    · exact unsigned
  · rw [plainNumber]
    dsimp only
    rw [accepted, if_neg Bool.false_ne_true, if_neg (Nat.not_lt_of_le narrow), value]
    rfl

/-- No zeros stand in front of what is written. -/
theorem withoutZeros?_ofInt (number : Int) :
    withoutZeros? (ofInt number) = some (ofInt number) := by
  cases number with
  | negSucc size => rfl
  | ofNat size =>
      rw [ofInt]
      rcases Nat.eq_zero_or_pos size with rfl | positive
      · rfl
      · have leads := head?_ofNat_ne_zero positive
        have digits := @isDigit_of_mem_ofNat size
        obtain ⟨c, rest, written_eq⟩ := List.exists_cons_of_ne_nil
          (Nat.toDigits_ne_nil (n := size) (b := 10))
        rw [ofNat, written_eq] at leads digits ⊢
        rw [List.head?_cons, ne_eq, Option.some.injEq] at leads
        have digit := digits List.mem_cons_self
        have leading := isLeadingDigit_of_isDigit digit leads
        rw [withoutZeros?]
        · rw [leading]
          rfl
        · exact leads

theorem isPlain_ofInt (number : Int) : IsPlain (ofInt number) := by
  cases number with
  | ofNat size => exact fun c inside => .inl (isDigit_of_mem_ofNat inside)
  | negSucc size =>
      intro c inside
      rcases List.mem_cons.mp inside with rfl | inDigits
      · exact .inr rfl
      · exact .inl (isDigit_of_mem_ofNat inDigits)

theorem plainNumber_ofInt {number : Int} (short : number.natAbs < 10 ^ maxDigits) :
    plainNumber (ofInt number) = .ok number := by
  cases number with
  | ofNat size => exact (plainNumber_ofNat short).1
  | negSucc size => exact (plainNumber_ofNat short).2

/-- What is written for a number is read as that number, unless it is too long to be read. -/
theorem wholeNumber_ofInt {number : Int} (short : number.natAbs < 10 ^ maxDigits) :
    wholeNumber (ofInt number) = .ok number := by
  have plain := isPlain_ofInt number
  have unsigned : '+' ∉ ofInt number := plain.not_mem (by decide)
  have whole := withoutZeros?_ofInt number
  have read := plainNumber_ofInt short
  rw [wholeNumber, trimNumber_eq_self plain]
  generalize ofInt number = written at plain unsigned whole read ⊢
  cases written with
  | nil => cases whole
  | cons c rest =>
      have other : c ≠ '+' := fun same => unsigned (same ▸ List.mem_cons_self)
      simp only [List.cons.injEq, other, false_and, imp_self, implies_true, Option.bind_some,
        whole]
      rw [withoutFraction_eq_self plain, withoutLowLines_eq_self plain, read]

end Validation

end DekiMigration
