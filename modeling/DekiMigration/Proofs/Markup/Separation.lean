/-
# Separating characters

A character that no match of a pattern can hold, and behind which nothing matters to a
match in front of it, separates the texts on its two sides: a substitution changes each of
them as if it stood alone. What a page says around a name can so be told apart from what
the passes make of the name.
-/

import DekiMigration.Proofs.Markup.Replacement

namespace DekiMigration.Markup

open Text

namespace Pattern

/-- What matches in front of a character depends neither on the character and on what
follows it nor on where lines begin. -/
def SeparatedBy (pattern : Pattern) (c : Char) : Prop :=
  ∀ lineStart lineStart' before after,
    pattern.lengthAt? lineStart (before ++ c :: after) = pattern.lengthAt? lineStart' before

variable {pattern : Pattern} {c : Char} {change : Text → Option Text}

theorem SeparatedBy.ignoresLines (separated : pattern.SeparatedBy c) : pattern.IgnoresLines := by
  intro first second text
  rw [← separated true first text [], separated true second text []]

theorem SeparatedBy.substituteFrom_append_cons (separated : pattern.SeparatedBy c)
    (lineStart : Bool) (before after : Text) :
    pattern.substituteFrom change lineStart (before ++ c :: after) =
      pattern.substituteFrom change lineStart before ++
        c :: pattern.substituteFrom change true after := by
  induction lineStart, before using walk_induction pattern with
  | nil lineStart =>
      have missed : pattern.Missed lineStart (c :: after) := by
        intro length found
        have nowhere := separated lineStart lineStart [] after
        rw [List.nil_append, found] at nowhere
        have inside := pattern.length_le nowhere.symm
        simp at inside
      rw [List.nil_append, missed.substituteFrom_cons, substituteFrom_nil, List.nil_append,
        separated.ignoresLines.substituteFrom_eq _ true]
  | @missed lineStart d rest here ih =>
      have missed : pattern.Missed lineStart (d :: (rest ++ c :: after)) := by
        intro length found
        exact here length ((separated lineStart lineStart (d :: rest) after).symm.trans found)
      rw [List.cons_append, missed.substituteFrom_cons, ih, here.substituteFrom_cons,
        List.cons_append]
  | @matched lineStart lexeme rest here ih =>
      have matched : pattern.Matches lineStart lexeme (rest ++ c :: after) := by
        refine ⟨here.nonempty, ?_⟩
        rw [← List.append_assoc, separated lineStart lineStart, here.lengthAt?_eq]
      rw [List.append_assoc, matched.substituteFrom_append, ih, here.substituteFrom_append,
        List.append_assoc]

/-- The texts before and behind a separating character are changed apart from each other. -/
theorem SeparatedBy.substitute_append_cons (separated : pattern.SeparatedBy c)
    (before after : Text) :
    pattern.substitute change (before ++ c :: after) =
      pattern.substitute change before ++ c :: pattern.substitute change after := by
  rw [substitute_eq, substitute_eq, substitute_eq, separated.substituteFrom_append_cons]

end Pattern

section

variable {c : Char} {lead close : Text} {body : Char → Bool}

theorem isPrefixOf_append_cons (foreign : c ∉ lead) (before after : Text) :
    lead.isPrefixOf (before ++ c :: after) = lead.isPrefixOf before := by
  rw [Bool.eq_iff_iff, List.isPrefixOf_iff_prefix, List.isPrefixOf_iff_prefix]
  exact ⟨prefix_of_prefix_append_cons foreign, (·.trans (List.prefix_append before _))⟩

/-- A given text is separated by every character that it does not hold. -/
theorem literal_separatedBy (foreign : c ∉ lead) : (Pattern.literal lead).SeparatedBy c := by
  intro _ _ before after
  simp only [Pattern.literal, isPrefixOf_append_cons foreign]

theorem dropLead?_append_cons (foreign : c ∉ lead) (before after : Text) :
    dropLead? lead (before ++ c :: after) = (dropLead? lead before).map (· ++ c :: after) := by
  induction lead generalizing before with
  | nil => rfl
  | cons d lead ih =>
      rw [List.mem_cons, not_or] at foreign
      cases before with
      | nil => simp [dropLead?, Ne.symm foreign.1]
      | cons e before =>
          rw [List.cons_append, dropLead?, dropLead?]
          split
          · exact ih foreign.2 before
          · rfl

theorem stretchBefore?_append_cons (excluded : body c = false) (foreign : c ∉ close)
    (before after : Text) (passed : Nat) :
    stretchBefore? body close (before ++ c :: after) passed =
      stretchBefore? body close before passed := by
  induction before generalizing passed with
  | nil =>
      cases close with
      | nil => rfl
      | cons d close =>
          rw [List.mem_cons, not_or] at foreign
          simp [stretchBefore?, excluded, Ne.symm foreign.1]
  | cons d before ih =>
      rw [List.cons_append, stretchBefore?, stretchBefore?, ih, ← List.cons_append,
        isPrefixOf_append_cons foreign]

/-- An enclosed stretch is told before a character that stands neither in it nor in what
encloses it. -/
theorem enclosedLength?_append_cons (excluded : body c = false) (foreign : c ∉ lead)
    (foreign' : c ∉ close) (before after : Text) :
    enclosedLength? lead close body (before ++ c :: after) =
      enclosedLength? lead close body before := by
  rw [enclosedLength?, enclosedLength?, dropLead?_append_cons foreign]
  rcases dropLead? lead before with _ | _ | ⟨d, rest⟩
  · rfl
  · simp [excluded]
  · simp [stretchBefore?_append_cons excluded foreign']

end

theorem replaceAll_append_cons {old new : Text} (nonempty : old ≠ []) {c : Char}
    (foreign : c ∉ old) (before after : Text) :
    replaceAll old new (before ++ c :: after) =
      replaceAll old new before ++ c :: replaceAll old new after := by
  simp only [replaceAll, List.isEmpty_eq_false_iff.mpr nonempty, Bool.false_eq_true, if_false]
  exact (literal_separatedBy foreign).substitute_append_cons before after

end DekiMigration.Markup
