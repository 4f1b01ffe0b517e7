/-
# Replacing a text by another

Replacing every occurrence of a text is the walk over the matches of that text
itself. It is told by three equations: nothing is replaced in the empty text, a
character that no occurrence begins with stays, and an occurrence is replaced as a
whole before the search goes on. A table is a sequence of such replacements, so what
each of its entries keeps in any surroundings the whole table keeps.
-/

import DekiMigration.Proofs.Markup.Walk
import DekiMigration.Proofs.Text.Parts

namespace DekiMigration.Markup

open Text

variable {old new : Text}

/-- The matches of a given text are its occurrences, wherever lines begin. -/
theorem literal_matches {lineStart : Bool} {lexeme after : Text} :
    (Pattern.literal old).Matches lineStart lexeme after ↔ old ≠ [] ∧ lexeme = old := by
  constructor
  · rintro ⟨nonempty, length_eq⟩
    simp only [Pattern.literal, List.isPrefixOf_iff_prefix] at length_eq
    split at length_eq
    · next isLead =>
        have same := List.prefix_of_prefix_length_le (List.prefix_append lexeme after) isLead
          (Nat.le_of_eq (Option.some.inj length_eq).symm)
        have equal := same.eq_of_length (Option.some.inj length_eq).symm
        exact ⟨equal ▸ nonempty, equal⟩
    · cases length_eq
  · rintro ⟨nonempty, rfl⟩
    exact ⟨nonempty, if_pos (List.isPrefixOf_iff_prefix.mpr (List.prefix_append _ _))⟩

/-- The search for a given text misses where the text does not begin. -/
theorem literal_missed {lineStart : Bool} {text : Text} (absent : ¬ old <+: text) :
    (Pattern.literal old).Missed lineStart text := by
  intro length found
  simp only [Pattern.literal, List.isPrefixOf_iff_prefix, if_neg absent] at found
  cases found

theorem literal_ignoresLines (old : Text) : (Pattern.literal old).IgnoresLines :=
  fun _ _ _ => rfl

private theorem replaceAll_eq (nonempty : old ≠ []) (text : Text) :
    replaceAll old new text = (Pattern.literal old).substitute (fun _ => some new) text := by
  rw [replaceAll, if_neg (by simpa using nonempty)]

theorem replaceAll_nil (nonempty : old ≠ []) : replaceAll old new [] = [] := by
  rw [replaceAll_eq nonempty, Pattern.substitute_eq, Pattern.substituteFrom_nil]

/-- A character that no occurrence begins with stays. -/
theorem replaceAll_cons (nonempty : old ≠ []) {c : Char} {rest : Text}
    (absent : ¬ old <+: c :: rest) :
    replaceAll old new (c :: rest) = c :: replaceAll old new rest := by
  rw [replaceAll_eq nonempty, replaceAll_eq nonempty,
    (literal_ignoresLines old).substitute_cons (literal_missed absent)]

/-- An occurrence is replaced as a whole. -/
theorem replaceAll_append (nonempty : old ≠ []) (after : Text) :
    replaceAll old new (old ++ after) = new ++ replaceAll old new after := by
  rw [replaceAll_eq nonempty, replaceAll_eq nonempty,
    (literal_ignoresLines old).substitute_append (literal_matches.mpr ⟨nonempty, rfl⟩)]
  rfl

/-- Induction along a replacement. -/
theorem replaceAll_walk {motive : Text → Prop} (nonempty : old ≠ []) (nil : motive [])
    (absent : ∀ {c rest}, ¬ old <+: c :: rest → motive rest → motive (c :: rest))
    (found : ∀ {after}, motive after → motive (old ++ after)) (text : Text) : motive text := by
  induction true, text using Pattern.walk_induction (Pattern.literal old) with
  | nil => exact nil
  | @missed lineStart c rest here ih =>
      refine absent (fun begins => ?_) ih
      obtain ⟨after, text_eq⟩ := begins
      have matched : (Pattern.literal old).Matches lineStart old after :=
        literal_matches.mpr ⟨nonempty, rfl⟩
      have width := matched.lengthAt?_eq
      rw [text_eq] at width
      obtain ⟨length, length_eq⟩ :=
        Nat.exists_eq_succ_of_ne_zero (mt List.length_eq_zero_iff.mp nonempty)
      exact here length (width.trans (congrArg some length_eq))
  | matched here ih =>
      rw [(literal_matches.mp here).2]
      exact found ih

/-- What replacing one occurrence keeps in any surroundings, replacing all of them keeps. -/
theorem replaceAll_induction {motive : Text → Prop} (nonempty : old ≠ [])
    (step : ∀ before after, motive (before ++ (old ++ after)) →
      motive (before ++ (new ++ after)))
    {text : Text} (holds : motive text) : motive (replaceAll old new text) := by
  rw [replaceAll_eq nonempty]
  refine Pattern.substitute_induction (fun {before _ lexeme after} matched inside => ?_) holds
  rw [(literal_matches.mp matched).2] at inside
  exact step before after inside

/-- What every entry of a table keeps in any surroundings the whole table keeps. -/
theorem replaceInOrder_induction {motive : Text → Prop} {table : List (Text × Text)}
    (nonempty : ∀ entry ∈ table, entry.1 ≠ [])
    (step : ∀ entry ∈ table, ∀ before after, motive (before ++ (entry.1 ++ after)) →
      motive (before ++ (entry.2 ++ after)))
    {text : Text} (holds : motive text) : motive (replaceInOrder table text) := by
  induction table generalizing text with
  | nil => exact holds
  | cons entry table ih =>
      refine ih (fun other later => nonempty other (List.mem_cons_of_mem _ later))
        (fun other later => step other (List.mem_cons_of_mem _ later)) ?_
      exact replaceAll_induction (nonempty entry List.mem_cons_self)
        (step entry List.mem_cons_self) holds

/-- A text that does not occur is not replaced. -/
theorem replaceAll_eq_self {text : Text} (nonempty : old ≠ []) (absent : ¬ old <:+: text) :
    replaceAll old new text = text := by
  refine replaceAll_induction (motive := (· = text)) nonempty (fun before after text_eq => ?_) rfl
  exact absurd ⟨before, after, by rw [← text_eq, List.append_assoc]⟩ absent

/-- Where a text occurs, all of what replaces it is found. -/
theorem subset_replaceAll {text : Text} (nonempty : old ≠ []) (occurs : old <:+: text) :
    new ⊆ replaceAll old new text := by
  induction text using replaceAll_walk nonempty with
  | nil => exact absurd (List.infix_nil.mp occurs) nonempty
  | @absent c rest bare ih =>
      rw [replaceAll_cons nonempty bare]
      have later := (List.infix_cons_iff.mp occurs).resolve_left bare
      exact List.subset_cons_of_subset c (ih later)
  | found _ =>
      rw [replaceAll_append nonempty]
      exact List.subset_append_left new _

theorem replaceInOrder_eq_self {table : List (Text × Text)} {text : Text}
    (nonempty : ∀ entry ∈ table, entry.1 ≠ []) (absent : ∀ entry ∈ table, ¬ entry.1 <:+: text) :
    replaceInOrder table text = text := by
  refine replaceInOrder_induction (motive := (· = text)) nonempty ?_ rfl
  intro entry listed before after text_eq
  exact absurd ⟨before, after, by rw [← text_eq, List.append_assoc]⟩ (absent entry listed)

end DekiMigration.Markup
