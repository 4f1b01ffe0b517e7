/-
# Quoted texts on one line

Whatever a title holds, it can be shown within one line: a line feed is quoted by a letter,
and the digits by which other characters are quoted are no line feeds.
-/

import Mathlib
import DekiMigration.Text.Quoted

namespace DekiMigration.Text

/-- A number is written with the digits of its base. -/
theorem exists_digit_of_mem_toDigits {base number : Nat} {c : Char} (large : 1 < base)
    (inside : c ∈ Nat.toDigits base number) : ∃ digit < base, c = digit.digitChar := by
  induction number using Nat.strongRecOn with
  | ind number ih =>
      rw [Nat.toDigits_eq_if large] at inside
      split at inside
      · next small => exact ⟨number, small, List.mem_singleton.mp inside⟩
      · next many =>
          rcases List.mem_append.mp inside with front | last
          · exact ih _ (Nat.div_lt_self (by omega) large) front
          · exact ⟨_, Nat.mod_lt _ (by omega), List.mem_singleton.mp last⟩

theorem inline_hexadecimal (width number : Nat) : '\n' ∉ hexadecimal width number := by
  have digits : ∀ digit < 16, '\n' ≠ Nat.digitChar digit := by decide
  rw [hexadecimal]
  intro inside
  rcases List.mem_append.mp inside with zeros | shown
  · exact absurd (List.eq_of_mem_replicate zeros) (by decide)
  · obtain ⟨digit, small, same⟩ := exists_digit_of_mem_toDigits (by decide) shown
    exact digits digit small same

theorem inline_quoteChar {quote : Char} (visible : quote ≠ '\n') (c : Char) :
    '\n' ∉ quoteChar quote c := by
  rw [quoteChar]
  split
  · next sign =>
      rw [Bool.or_eq_true, decide_eq_true_eq, decide_eq_true_eq] at sign
      rcases sign with rfl | rfl
      · simp [visible.symm]
      · decide
  · split
    · decide
    · split
      · decide
      · next unfed =>
          split
          · decide
          · split
            · simpa using Ne.symm unfed
            · split
              · simp [inline_hexadecimal]
              · split <;> simp [inline_hexadecimal]

theorem inline_quoted (text : Text) : '\n' ∉ quoted text := by
  have visible : quoteMark text ≠ '\n' := by
    rw [quoteMark]
    split <;> decide
  rw [quoted, List.mem_cons, List.mem_append, List.mem_singleton, List.mem_flatMap]
  rintro (same | ⟨c, -, inside⟩ | same)
  · exact visible same.symm
  · exact inline_quoteChar visible c inside
  · exact visible same.symm

end DekiMigration.Text
