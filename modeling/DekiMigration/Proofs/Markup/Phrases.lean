/-
# What the fixed phrases are made of

What the passes after them rely on is the same for all phrases: where they begin, which
characters they do without, and that a replacement neither holds a pair of hyphens nor
completes one behind it. Both tables are looked through once, here, and all that is said
of a phrase later is read off from these two results.
-/

import DekiMigration.Markup.Dash
import DekiMigration.Markup.Phrase

namespace DekiMigration.Markup

open Text

/-- What a phrase and its replacement are made of. -/
structure IsPlainPhrase (old new : Text) : Prop where
  opens : old.head? = some '[' ∧ new.head? = some '[' ∨
    old.head? = some '#' ∧ new.head? = some '>'
  plain : ∀ c ∈ old ++ new, c ≠ '\n' ∧ c ≠ '=' ∧ c ≠ '<'
  more : old.tail ≠ []
  single : ∀ c ∈ old.tail ++ new.tail, c ≠ '[' ∧ c ≠ '#'
  dashless : ¬ dash <:+: new ++ ['-']

theorem isPlainPhrase_of_mem {old new : Text} (listed : (old, new) ∈ linkPhrases) :
    IsPlainPhrase old new := by
  have checked : ∀ entry ∈ linkPhrases,
      (entry.1.head? = some '[' ∧ entry.2.head? = some '[' ∨
        entry.1.head? = some '#' ∧ entry.2.head? = some '>') ∧
      (∀ c ∈ entry.1 ++ entry.2, c ≠ '\n' ∧ c ≠ '=' ∧ c ≠ '<') ∧
      entry.1.tail ≠ [] ∧ (∀ c ∈ entry.1.tail ++ entry.2.tail, c ≠ '[' ∧ c ≠ '#') ∧
      ¬ dash <:+: entry.2 ++ ['-'] := by
    -- the literals are read by a lemma, since evaluation would decode them octet by octet
    simp only [linkPhrases, List.map_cons, List.map_nil]
    repeat rw [String.toList_ofList]
    decide
  obtain ⟨opens, plain, more, single, dashless⟩ := checked _ listed
  exact ⟨opens, plain, more, single, dashless⟩

theorem IsPlainPhrase.nonempty {old new : Text} (isPlain : IsPlainPhrase old new) :
    old ≠ [] := by
  rintro rfl
  rcases isPlain.opens with ⟨head, -⟩ | ⟨head, -⟩ <;> cases head

/-- What a mark of a code sample and the fence for it are made of. However the wrapper of
a dash is cut in two, a mark agrees with neither part where it could overlap it. -/
structure IsCodeMark (old new : Text) : Prop where
  opens : old.head? = some '<'
  fenced : new ≠ []
  hyphenless : '-' ∉ new
  apart : ∀ cut < 18, ¬ wrappedDash.drop (cut + 1) <+: old ∧
    ¬ old <+: wrappedDash.drop (cut + 1) ∧ ¬ wrappedDash.take (cut + 1) <:+ old

theorem isCodeMark_of_mem {old new : Text} (listed : (old, new) ∈ codeMarks) :
    IsCodeMark old new := by
  have checked : ∀ entry ∈ codeMarks, entry.1.head? = some '<' ∧ entry.2 ≠ [] ∧
      '-' ∉ entry.2 ∧
      ∀ cut < 18, ¬ wrappedDash.drop (cut + 1) <+: entry.1 ∧
        ¬ entry.1 <+: wrappedDash.drop (cut + 1) ∧
        ¬ wrappedDash.take (cut + 1) <:+ entry.1 := by
    decide
  obtain ⟨opens, fenced, hyphenless, apart⟩ := checked _ listed
  exact ⟨opens, fenced, hyphenless, apart⟩

theorem IsCodeMark.nonempty {old new : Text} (isMark : IsCodeMark old new) : old ≠ [] := by
  rintro rfl
  cases isMark.opens

end DekiMigration.Markup
