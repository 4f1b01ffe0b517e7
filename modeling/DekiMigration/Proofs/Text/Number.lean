/-
# Whole numbers that are read

What looks like a digit need not be one: superscripts, circled digits and the like have no
place in a decimal number. A text that looks like a number is taken by a reader as far as its
characters are decimal digits, of whatever script. It is read when this is the whole of it,
and is malformed otherwise.
-/

import DekiMigration.Proofs.Text.Decimal

namespace DekiMigration.Text

/-- The number that the digits of a text write. -/
def numberOf (text : Text) : Nat :=
  ofDigits (text.filterMap decimalValue?)

/-- Decimal digits of any script, at least one. -/
def IsDecimalNumber (literal : Text) : Prop :=
  literal ≠ [] ∧ ∀ c ∈ literal, isDecimal c = true

/-- A text that looks like a number, but not all of it is decimal digits. -/
def IsDeceptive (literal : Text) : Prop :=
  (∀ c ∈ literal, isDigitLike c = true) ∧ ¬ ∀ c ∈ literal, isDecimal c = true

instance (literal : Text) : Decidable (IsDecimalNumber literal) :=
  inferInstanceAs (Decidable (_ ∧ _))

instance (literal : Text) : Decidable (IsDeceptive literal) :=
  inferInstanceAs (Decidable (_ ∧ _))

theorem decimalValue?_lt {c : Char} {value : Nat} (digit : decimalValue? c = some value) :
    value < 10 := by
  rw [decimalValue?] at digit
  split at digit
  · split at digit
    · next ascii =>
        obtain ⟨least, greatest⟩ : 48 ≤ c.toNat ∧ c.toNat ≤ 57 := Char.isDigit_iff_toNat.mp ascii
        cases digit
        omega
    · cases digit
  · obtain ⟨first, found, rfl⟩ := Option.map_eq_some_iff.mp digit
    have within := List.find?_some found
    rw [Bool.and_eq_true, decide_eq_true_eq, decide_eq_true_eq] at within
    omega

@[grind →]
theorem isDecimal_of_isDigit {c : Char} (digit : c.isDigit = true) : isDecimal c = true := by
  rw [isDecimal, decimalValue?_of_isDigit digit]
  rfl

theorem isDigitLike_of_isDecimal {c : Char} (decimal : isDecimal c = true) :
    isDigitLike c = true := by
  rw [isDigitLike, decimal, Bool.true_or]

/-- One more digit makes ten of what is in front of it. -/
theorem numberOf_concat (front : Text) {c : Char} (decimal : isDecimal c = true) :
    numberOf (front ++ [c]) = 10 * numberOf front + numberOf [c] := by
  obtain ⟨unit, digit⟩ := Option.isSome_iff_exists.mp decimal
  simp [numberOf, digit, ofDigits]

theorem map_decimalValue? {digits : Text} (decimal : ∀ c ∈ digits, isDecimal c = true) :
    digits.map decimalValue? = (digits.filterMap decimalValue?).map some := by
  induction digits with
  | nil => rfl
  | cons c digits ih =>
      rw [List.forall_mem_cons] at decimal
      obtain ⟨value, digit⟩ := Option.isSome_iff_exists.mp decimal.1
      rw [List.map_cons, digit, List.filterMap_cons_some digit, List.map_cons, ih decimal.2]

/-- What looks like a digit is not blank. -/
theorem isNumberBlank_of_isDigitLike {c : Char} (digit : isDigitLike c = true) :
    isNumberBlank c = false := by
  rw [isNumberBlank, isBlank_of_apart isDigitLike (by decide) digit, Bool.false_and]

variable {literal digits : Text}

/-- Decimal digits are taken as far as they go. -/
theorem digitRun_append (decimal : ∀ c ∈ digits, isDecimal c = true) (rest : Text)
    (run : List (Option Nat)) :
    digitRun (digits ++ rest) run = digitRun rest ((digits.map decimalValue?).reverse ++ run) := by
  induction digits generalizing run with
  | nil => rfl
  | cons c digits ih =>
      rw [List.forall_mem_cons] at decimal
      obtain ⟨isDigit, decimal⟩ := decimal
      obtain ⟨value, digit⟩ := Option.isSome_iff_exists.mp isDigit
      have wordless : c ≠ '_' := by
        rintro rfl
        cases isDigit
      rw [List.cons_append, digitRun, if_neg wordless, digit]
      dsimp only
      rw [ih decimal, List.map_cons, List.reverse_cons, List.append_assoc, digit]
      rfl

/-- Neither blanks nor a sign stand in front of what looks like digits. -/
theorem takeSign_of_isDigitLike (digital : ∀ c ∈ literal, isDigitLike c = true) :
    takeSign (literal.dropWhile isNumberBlank) = (false, literal) := by
  cases literal with
  | nil => rfl
  | cons c rest =>
      have digit := digital c List.mem_cons_self
      rw [List.dropWhile_cons_of_neg (by simp [isNumberBlank_of_isDigitLike digit]), takeSign]
      · rintro rest ⟨rfl, -⟩
        cases digit
      · rintro rest ⟨rfl, -⟩
        cases digit

/-- Of what looks like digits those are taken that are decimal digits, up to the first that is
none. -/
theorem digitRun_of_isDigitLike (digital : ∀ c ∈ literal, isDigitLike c = true) :
    digitRun literal [] =
      ((literal.takeWhile isDecimal).map decimalValue?, literal.dropWhile isDecimal) := by
  have taken : ∀ c ∈ literal.takeWhile isDecimal, isDecimal c = true :=
    List.all_eq_true.mp List.all_takeWhile
  have run := digitRun_append taken (literal.dropWhile isDecimal) []
  rw [List.takeWhile_append_dropWhile, List.append_nil] at run
  rw [run]
  cases behind : literal.dropWhile isDecimal with
  | nil => rw [digitRun, List.reverse_reverse]
  | cons c rest =>
      have listed : c ∈ literal := (List.dropWhile_subset isDecimal) (behind ▸ List.mem_cons_self)
      have wordless : c ≠ '_' := by
        rintro rfl
        cases digital '_' listed
      have stop := List.head?_dropWhile_not isDecimal literal
      rw [behind] at stop
      have foreign : decimalValue? c = none := by simpa [isDecimal] using stop
      rw [digitRun, if_neg wordless, foreign, List.reverse_reverse]

theorem wellSpaced_of_digits {values : List Nat} (nonempty : values ≠ []) :
    wellSpaced (values.map some) = true := by
  have first : (values.map some).head?.join.isSome = true := by
    rw [List.head?_map, List.head?_eq_some_head nonempty]
    rfl
  have last : (values.map some).getLast?.join.isSome = true := by
    rw [List.getLast?_map, List.getLast?_eq_some_getLast nonempty]
    rfl
  rw [wellSpaced, first, last, Bool.true_and, Bool.true_and, List.all_eq_true]
  rintro ⟨value?, next?⟩ inside
  obtain ⟨value, -, rfl⟩ := List.mem_map.mp (List.of_mem_zip inside).1
  rfl

/-- Decimal digits behind a sign are read, unless there are more of them than are ever read. -/
theorem IsDecimalNumber.readInt_eq {negative : Bool} (number : IsDecimalNumber digits)
    (taken : takeSign (literal.dropWhile isNumberBlank) = (negative, digits)) :
    readInt literal =
      if maxDigits < digits.length then .error (.tooLong digits.length)
      else .ok (if negative then -(numberOf digits : Int) else numberOf digits) := by
  obtain ⟨nonempty, decimal⟩ := number
  have values := map_decimalValue? decimal
  have count : (digits.filterMap decimalValue?).length = digits.length := by
    rw [← List.length_map some, ← values, List.length_map]
  have spaced : wellSpaced ((digits.filterMap decimalValue?).map some) = true :=
    wellSpaced_of_digits (by rwa [← List.length_pos_iff, count, List.length_pos_iff])
  have reduced : ((digits.filterMap decimalValue?).map some).reduceOption =
      digits.filterMap decimalValue? := by
    simp [List.reduceOption]
  rw [readInt, taken]
  dsimp only
  rw [digitRun_of_isDigitLike fun c inside => isDigitLike_of_isDecimal (decimal c inside),
    List.takeWhile_eq_self_iff.mpr decimal, List.dropWhile_eq_nil_iff.mpr decimal, values]
  dsimp only
  rw [spaced, reduced, count]
  rfl

/-- What looks like a number is malformed if not all of it is decimal digits. -/
theorem IsDeceptive.readInt_eq (deceptive : IsDeceptive literal)
    (short : literal.length ≤ maxDigits) : readInt literal = .error .malformed := by
  obtain ⟨digital, foreign⟩ := deceptive
  have within : ((literal.takeWhile isDecimal).map decimalValue?).reduceOption.length ≤
      maxDigits := by
    refine (List.reduceOption_length_le _).trans ?_
    rw [List.length_map]
    exact (List.takeWhile_prefix _).length_le.trans short
  obtain ⟨c, rest, behind⟩ : ∃ c rest, literal.dropWhile isDecimal = c :: rest :=
    List.exists_cons_of_ne_nil fun nothing => foreign (List.dropWhile_eq_nil_iff.mp nothing)
  have visible : isNumberBlank c = false :=
    isNumberBlank_of_isDigitLike
      (digital c ((List.dropWhile_subset isDecimal) (behind ▸ List.mem_cons_self)))
  rw [readInt, takeSign_of_isDigitLike digital]
  dsimp only
  rw [digitRun_of_isDigitLike digital, behind]
  dsimp only
  rw [if_neg (Nat.not_lt.mpr within), List.all_cons, visible]
  cases wellSpaced ((literal.takeWhile isDecimal).map decimalValue?) <;> rfl

end DekiMigration.Text
