/-
# Calling a template by a plain name

A name of letters, digits and low lines, with spaces inside, holds nothing that is markup.
Still it need not get through the passes as it is: the mark that suppresses the table of
contents is made of letters and low lines, and is taken out wherever it stands. What is left
is called, and nothing is called when nothing is left.
-/

import DekiMigration.Proofs.Markup.TemplateCalls
import DekiMigration.Text.Word

namespace DekiMigration.Text

/-- A word character is not blank. -/
theorem isBlank_of_isWord {c : Char} (word : isWord c = true) : isBlank c = false :=
  isBlank_of_apart isWord (by decide +kernel) word

end DekiMigration.Text

namespace DekiMigration.Template

open Text

/-- A name as it is looked up has no blanks at its ends. -/
theorem isSolid_normalizeName (name : Text) : IsSolid (normalizeName name) := by
  apply (isSolid_trim name).map
  intro c visible
  split
  · decide
  · exact visible

end DekiMigration.Template

namespace DekiMigration.Markup

open Text

/-- A name of letters, digits and low lines, with spaces inside only. -/
structure IsPlainName (name : Text) : Prop where
  nonempty : name ≠ []
  letters : ∀ c ∈ name, isWord c = true ∨ c = ' '
  first : name.head? ≠ some ' '
  last : name.getLast? ≠ some ' '

/-- A text without the marks that suppress the table of contents. -/
def unsuppressed (text : Text) : Text :=
  suppression.substitute (fun _ => some []) text

namespace IsPlainName

variable {name : Text}

/-- No sign of the markup is a letter. -/
theorem not_mem {c : Char} (plain : IsPlainName name)
    (sign : c ∈ ['\n', '[', '{', '}', '|', '<', '#', '-', ':']) : c ∉ name := by
  have signs : ∀ c ∈ ['\n', '[', '{', '}', '|', '<', '#', '-', ':'],
      isWord c = false ∧ c ≠ ' ' := by decide +kernel
  intro inside
  rcases plain.letters c inside with word | space
  · rw [(signs c sign).1] at word
    cases word
  · exact (signs c sign).2 space

theorem isSolid (plain : IsPlainName name) : IsSolid name := by
  have visible : ∀ c ∈ name, c ≠ ' ' → isBlank c = false := fun c inside other =>
    isBlank_of_isWord ((plain.letters c inside).resolve_right other)
  refine ⟨fun c isHead => ?_, fun c isLast => ?_⟩
  · apply visible c (List.mem_of_mem_head? isHead)
    rintro rfl
    exact plain.first isHead
  · apply visible c (List.mem_of_mem_getLast? isLast)
    rintro rfl
    exact plain.last isLast

/-- A plain name is looked up with low lines for its spaces. -/
theorem normalizeName_eq (plain : IsPlainName name) :
    Template.normalizeName name = lowLines name := by
  rw [Template.normalizeName, plain.isSolid.trim_eq_self, lowLines]

end IsPlainName

theorem unsuppressed_sublist (text : Text) : (unsuppressed text).Sublist text := by
  rw [unsuppressed, Pattern.substitute_eq]
  exact Pattern.erase_sublist suppression true text

theorem unsuppressed_eq_self {text : Text} (absent : ¬ HoldsLetters "__NOTOC__".toList text) :
    unsuppressed text = text := by
  apply Pattern.substitute_eq_self
  rwa [← Bool.not_eq_true, suppression_occursIn]

/-- Braces keep the mark out of a call. -/
theorem unsuppressed_plainCall (name : Text) :
    unsuppressed (plainCall name) = plainCall (unsuppressed name) := by
  have separated : ∀ c ∈ ['{', '}'], suppression.SeparatedBy c := by
    have foreign : ∀ c ∈ ['{', '}'], c.toLower ∉ "__notoc__".toList := by decide
    exact fun c brace => suppression_separatedBy (foreign c brace)
  have braces : unsuppressed ['{'] = ['{'] ∧ unsuppressed ['}'] = ['}'] := by decide
  show unsuppressed (['{'] ++ '{' :: (name ++ '}' :: ['}'])) = _
  rw [unsuppressed, (separated '{' (by simp)).substitute_append_cons,
    (separated '}' (by simp)).substitute_append_cons, ← unsuppressed, ← unsuppressed,
    ← unsuppressed, braces.1, braces.2]
  rfl

theorem not_mem_plainCall {name : Text} {c : Char} (absent : c ∉ name)
    (other : c ∉ ['{', '}']) : c ∉ plainCall name := by
  simp only [List.mem_cons, List.not_mem_nil, or_false, not_or] at other
  simp [plainCall, absent, other]

/-- The passes in front of the last one take the mark out of the name and leave the rest of
the call. -/
theorem restructure_plainCall {name : Text} (plain : IsPlainName name) :
    restructure (plainCall name) false = plainCall (unsuppressed name) := by
  have absent : ∀ c ∈ ['\n', '[', '|', '<', '#', '-'],
      c ∉ plainCall name ∧ c ∉ plainCall (unsuppressed name) := by
    have signs : ∀ c ∈ ['\n', '[', '|', '<', '#', '-'], c ∉ ['{', '}'] ∧
        c ∈ ['\n', '[', '{', '}', '|', '<', '#', '-', ':'] := by decide
    intro c sign
    have absent := plain.not_mem (signs c sign).2
    exact ⟨not_mem_plainCall absent (signs c sign).1,
      not_mem_plainCall (fun left => absent ((unsuppressed_sublist name).subset left))
        (signs c sign).1⟩
  have dashes : wrapDashes (plainCall name) = plainCall name := by
    refine replaceAll_eq_self (by decide) fun inside => (absent '-' (by simp)).1 ?_
    exact inside.subset (by decide : '-' ∈ dash)
  have placed : placeContents (plainCall name) false = plainCall (unsuppressed name) := by
    refine (placeContents_of_line (by decide) (absent '\n' (by simp)).1 false).trans ?_
    exact unsuppressed_plainCall name
  refine restructure_of_placed ?_ (by decide) (fun c sign => ?_)
    (opensWrappers_of_not_mem (absent '<' (by simp)).2)
  · rw [removeCategories_of_not_mem (absent '[' (by simp)).1, dashes, placed]
    rfl
  · have listed : ∀ c ∈ ['[', '#', '\n', '|'], c ∈ ['\n', '[', '|', '<', '#', '-'] := by decide
    exact (absent c (listed c sign)).2

/-- What has no colon has no qualifier. -/
theorem not_isQualified {name : Text} (absent : ':' ∉ name) :
    Template.isQualified name = false := by
  rw [Template.isQualified]
  apply Bool.eq_false_iff.mpr
  intro same
  have letters : (name.take Template.qualifier.length).map Char.toLower = "template:".toList :=
    (eq_of_beq same).trans (by decide)
  have colon : ':' ∈ (name.take Template.qualifier.length).map Char.toLower := by
    rw [letters]
    decide
  obtain ⟨c, inside, lowered⟩ := List.mem_map.mp colon
  obtain rfl := eq_of_toLower lowered (by decide)
  exact absent (List.mem_of_mem_take inside)

/-- A catalog knows a name without a colon when it is listed as it is written. -/
theorem knows_of_not_mem {catalog : Template.Catalog} {name : Text} (absent : ':' ∉ name) :
    catalog.knows name = true ↔ name ∈ catalog.names := by
  rw [Template.Catalog.knows_iff, not_isQualified absent]
  simp

theorem mem_normalizeName {name : Text} {c : Char} (inside : c ∈ Template.normalizeName name) :
    c = '_' ∨ c ∈ name := by
  rw [Template.normalizeName, List.mem_map] at inside
  obtain ⟨d, inTrimmed, spelled⟩ := inside
  split at spelled
  · exact .inl spelled.symm
  · exact .inr (spelled ▸ mem_of_mem_trim inTrimmed)

/-- A call of a plain name leaves nothing open exactly when nothing is left of the name, or the
catalog has what is left. -/
theorem magicWords_plainCall_iff {name : Text} (plain : IsPlainName name)
    (catalog : Template.Catalog) :
    (transform (plainCall name) catalog false).magicWords = [] ↔
      unsuppressed name = [] ∨ Template.normalizeName (unsuppressed name) ∈ catalog.names := by
  have structured := restructure_plainCall plain
  have absent : ∀ c ∈ ['{', '}', ':'], c ∉ unsuppressed name := by
    have signs : ∀ c ∈ ['{', '}', ':'],
        c ∈ ['\n', '[', '{', '}', '|', '<', '#', '-', ':'] := by decide
    intro c sign left
    exact plain.not_mem (signs c sign) ((unsuppressed_sublist name).subset left)
  by_cases nothing : unsuppressed name = []
  · have uncalled : calledNames (plainCall []) = [] := by decide
    rw [magicWords_transform, structured, nothing, unresolvedNames, uncalled]
    simp
  · have isCall := isCall_plainCall nothing (absent '}' (by simp))
    have colonless : ':' ∉ Template.normalizeName (unsuppressed name) := by
      intro inside
      rcases mem_normalizeName inside with other | left
      · exact absurd other (by decide)
      · exact absent ':' (by simp) left
    rw [transform_of_isCall structured isCall,
      callName_plainCall (fun first => absent '{' (by simp) (List.mem_of_mem_head? first))
        (absent '}' (by simp)),
      ← knows_of_not_mem colonless]
    cases known : catalog.knows (Template.normalizeName (unsuppressed name)) <;> simp [nothing]

end DekiMigration.Markup
