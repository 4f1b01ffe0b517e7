/-
# Taking marks out

A page on which the table of contents is suppressed loses the mark for it, wherever it
stands. What is left is a part of the text, and a shorter one exactly when there was a mark;
the mark is found wherever its letters stand in some case.
-/

import Mathlib.Data.List.Flatten
import DekiMigration.Proofs.Markup.Contents
import DekiMigration.Proofs.Markup.Separation

namespace DekiMigration.Markup

open Text

namespace Pattern

variable {pattern : Pattern}

/-- Where a pattern does not occur, no match begins at any place. -/
theorem missed_of_not_occursIn {text front back : Text} (absent : pattern.occursIn text = false)
    (split : text = front ++ back) : ∃ lineStart, pattern.Missed lineStart back := by
  suffices walk : ∀ start, (pattern.piecesFrom start text).any (·.lexeme?.isSome) = false →
      ∃ lineStart, pattern.Missed lineStart back from walk true (occursIn_eq text ▸ absent)
  clear absent
  intro start absent
  induction start, text using walk_induction pattern generalizing front with
  | nil lineStart =>
      rw [(List.append_eq_nil_iff.mp split.symm).2]
      exact ⟨true, fun length found => Nat.not_succ_le_zero length (pattern.length_le found)⟩
  | @missed lineStart c rest here ih =>
      rw [here.piecesFrom_cons, List.any_cons, Bool.or_eq_false_iff] at absent
      cases front with
      | nil => exact ⟨lineStart, List.nil_append back ▸ split ▸ here⟩
      | cons d front => exact ih (List.cons.inj split).2 absent.2
  | matched here ih =>
      rw [here.piecesFrom_append, List.any_cons] at absent
      cases absent

variable (pattern) in
/-- Taking the matches out leaves a part of the text. -/
theorem erase_sublist (lineStart : Bool) (text : Text) :
    (pattern.substituteFrom (fun _ => some []) lineStart text).Sublist text := by
  have kept : ((pattern.piecesFrom lineStart text).flatMap
      (Piece.written fun _ => some [])).Sublist
        ((pattern.piecesFrom lineStart text).flatMap Piece.text) := by
    apply List.Sublist.flatMap_right
    intro piece _
    cases piece with
    | plain c => exact List.Sublist.refl [c]
    | hit lexeme => exact List.nil_sublist lexeme
  rwa [piecesFrom_text] at kept

/-- Taking the matches out of a text makes it shorter when there are any. -/
theorem length_erase_lt {text : Text} (occurs : pattern.occursIn text = true) :
    (pattern.substitute (fun _ => some []) text).length < text.length := by
  rw [substitute_eq]
  suffices walk : ∀ start, (pattern.piecesFrom start text).any (·.lexeme?.isSome) = true →
      (pattern.substituteFrom (fun _ => some []) start text).length < text.length from
    walk true (occursIn_eq text ▸ occurs)
  clear occurs
  intro start occurs
  induction start, text using walk_induction pattern with
  | nil lineStart => simp [piecesFrom_nil] at occurs
  | @missed lineStart c rest here ih =>
      rw [here.piecesFrom_cons, List.any_cons, Piece.lexeme?_plain, Option.isSome_none,
        Bool.false_or] at occurs
      rw [here.substituteFrom_cons, List.length_cons, List.length_cons]
      exact Nat.succ_lt_succ (ih occurs)
  | @matched lineStart lexeme after here ih =>
      have shorter := (erase_sublist pattern (endsLine lexeme) after).length_le
      have := List.length_pos_iff.mpr here.nonempty
      rw [here.substituteFrom_append, Option.getD_some, List.nil_append, List.length_append]
      omega

end Pattern

/-- The mark that suppresses the table of contents is found wherever its letters stand. -/
theorem suppression_occursIn {text : Text} :
    suppression.occursIn text = true ↔ HoldsLetters "__NOTOC__".toList text := by
  refine ⟨holdsLetters_of_suppression, ?_⟩
  rintro ⟨stretch, ⟨before, after, rfl⟩, same⟩
  by_contra absent
  rw [List.append_assoc, Bool.not_eq_true] at absent
  obtain ⟨lineStart, missed⟩ := Pattern.missed_of_not_occursIn absent rfl
  have width : stretch.length = 9 := by
    have widths := congrArg List.length (eq_of_beq same)
    simpa [lower] using widths
  have letters : lower "__NOTOC__".toList = lower "__notoc__".toList := by decide
  rw [sameLetters, letters] at same
  have found : suppression.lengthAt? lineStart (stretch ++ after) = some 9 := by
    simp only [suppression, List.take_left' width, sameLetters, same, if_true]
  exact missed 8 found

/-- The mark that suppresses the table of contents is separated by every character that it
does not hold in any case. -/
theorem suppression_separatedBy {c : Char} (foreign : c.toLower ∉ "__notoc__".toList) :
    suppression.SeparatedBy c := by
  intro _ _ before after
  have begins : sameLetters ((before ++ c :: after).take 9) "__notoc__".toList =
      sameLetters (before.take 9) "__notoc__".toList := by
    by_cases enough : 9 ≤ before.length
    · rw [List.take_append_of_le_length enough]
    · have absent : ∀ text : Text, text.length < 9 ∨ c ∈ text →
          sameLetters text "__notoc__".toList = false := by
        intro text differs
        apply Bool.eq_false_iff.mpr
        intro same
        have letters : text.map Char.toLower = "__notoc__".toList :=
          (eq_of_beq same).trans (by decide)
        rcases differs with short | inside
        · have width := congrArg List.length letters
          rw [List.length_map] at width
          exact absurd width (Nat.ne_of_lt short)
        · exact foreign (letters ▸ List.mem_map_of_mem inside)
      rw [absent, absent]
      · refine .inl (Nat.lt_of_le_of_lt ?_ (Nat.lt_of_not_le enough))
        rw [List.length_take]
        exact Nat.min_le_right _ _
      · refine .inr ?_
        rw [List.take_append]
        apply List.mem_append_right
        obtain ⟨more, more_eq⟩ := Nat.exists_eq_succ_of_ne_zero
          (Nat.sub_ne_zero_of_lt (Nat.lt_of_not_le enough))
        rw [more_eq, List.take_succ_cons]
        exact List.mem_cons_self
  simp only [suppression, begins]

end DekiMigration.Markup
