/-
# The place of the table of contents

A page that does not say where its table of contents stands gets the placeholder on a
line of its own, in front of everything else. The later passes find nothing in that
line and go over it, so the body comes out as that of a template does: whether there is
a placeholder is all that tells the two apart. It is placed before phrases, links and
tables are changed, and the headings are searched for afterwards; both look at the same
heading lines.
-/

import DekiMigration.Markup.Transform
import DekiMigration.Proofs.Markup.HeadingLine

namespace DekiMigration.Markup

open Text

/-- A text holds a mark in some case of its letters. -/
def HoldsLetters (mark text : Text) : Prop :=
  ∃ stretch, stretch <:+: text ∧ sameLetters stretch mark = true

theorem holdsLetters_iff {mark text : Text} :
    HoldsLetters mark text ↔ ∃ cut ∈ List.range (text.length + 1),
      sameLetters ((text.drop cut).take mark.length) mark = true := by
  constructor
  · rintro ⟨stretch, ⟨before, after, rfl⟩, same⟩
    have width : stretch.length = mark.length := by
      simpa [lower] using congrArg List.length (eq_of_beq same)
    refine ⟨before.length, List.mem_range.mpr ?_, ?_⟩
    · simp only [List.length_append]
      omega
    · rwa [List.append_assoc, List.drop_left, ← width, List.take_left]
  · rintro ⟨cut, -, same⟩
    have isInfix := (List.take_prefix mark.length (text.drop cut)).isInfix
    exact ⟨_, isInfix.trans (List.drop_suffix cut text).isInfix, same⟩

/-- A character that the mark does not hold in any case keeps marks apart. -/
theorem HoldsLetters.of_append_cons {mark before after : Text} {c : Char}
    (foreign : c.toLower ∉ lower mark) (holds : HoldsLetters mark (before ++ c :: after)) :
    HoldsLetters mark before ∨ HoldsLetters mark after := by
  obtain ⟨stretch, inside, same⟩ := holds
  have absent : c ∉ stretch := by
    intro isThere
    have lowered : c.toLower ∈ lower stretch := List.mem_map_of_mem isThere
    rw [eq_of_beq same] at lowered
    exact foreign lowered
  rcases infix_of_infix_append_cons absent inside with isBefore | isAfter
  · exact .inl ⟨stretch, isBefore, same⟩
  · exact .inr ⟨stretch, isAfter, same⟩

instance (mark text : Text) : Decidable (HoldsLetters mark text) :=
  decidable_of_iff _ holdsLetters_iff.symm

theorem replaceInOrder_nil {table : List (Text × Text)}
    (nonempty : ∀ entry ∈ table, entry.1 ≠ []) : replaceInOrder table [] = [] := by
  apply replaceInOrder_eq_self nonempty
  intro entry listed inside
  exact nonempty entry listed (List.infix_nil.mp inside)

theorem transform_nil (catalog : Template.Catalog) (isTemplate : Bool) :
    transform [] catalog isTemplate = ⟨[], []⟩ := by
  have phrases : replacePhrases [] = [] :=
    replaceInOrder_nil fun _ listed => (isPlainPhrase_of_mem listed).nonempty
  have marks : fenceCode [] = [] :=
    replaceInOrder_nil fun _ listed => (isCodeMark_of_mem listed).nonempty
  have placed : placeContents [] isTemplate = [] := by cases isTemplate <;> rfl
  have before : beforeHeadings [] isTemplate = [] := by
    show adaptTables (adaptLinks (replacePhrases (placeContents [] isTemplate))) = []
    rw [placed, phrases]
    rfl
  have structured : restructure [] isTemplate = [] := by
    rw [restructure, before]
    exact marks
  rw [transform, structured]
  rfl

/-- A missing body counts as an empty one, and nothing comes of either. -/
theorem transformContent_eq (content : Option Text) (catalog : Template.Catalog)
    (isTemplate : Bool) :
    transformContent content catalog isTemplate =
      transform (content.getD []) catalog isTemplate := by
  cases content with
  | none => exact (transform_nil catalog isTemplate).symm
  | some content =>
      cases content with
      | nil => exact (transform_nil catalog isTemplate).symm
      | cons c rest => rfl

/-- The mark that suppresses the table of contents stands there in some case. -/
theorem suppression_shape {lineStart : Bool} {lexeme after : Text}
    (matched : suppression.Matches lineStart lexeme after) :
    sameLetters lexeme "__notoc__".toList = true := by
  have found := matched.lengthAt?_eq
  simp only [suppression] at found
  split at found
  · next marked =>
      rw [Option.some.injEq] at found
      rwa [found, List.take_left] at marked
  · cases found

/-- What is found as a mark is one, in some case of its letters. -/
theorem holdsLetters_of_suppression {text : Text} (occurs : suppression.occursIn text = true) :
    HoldsLetters "__NOTOC__".toList text := by
  obtain ⟨before, lineStart, lexeme, after, rfl, matched⟩ :=
    Pattern.exists_matches_of_occursIn occurs
  have letters : lower "__notoc__".toList = lower "__NOTOC__".toList := by decide
  have marked := suppression_shape matched
  rw [sameLetters, letters] at marked
  exact ⟨lexeme, ⟨before, after, by simp⟩, marked⟩

theorem infix_of_literal_occursIn {lexeme text : Text}
    (occurs : (Pattern.literal lexeme).occursIn text = true) : lexeme <:+: text := by
  obtain ⟨before, lineStart, found, after, rfl, matched⟩ :=
    Pattern.exists_matches_of_occursIn occurs
  rw [(literal_matches.mp matched).2]
  exact ⟨before, after, by simp⟩

/-- Where nothing suppresses the table of contents, it is placed for the headings: at its
mark, or else in front. -/
theorem placeContents_of_unsuppressed {text : Text}
    (unsuppressed : ¬ HoldsLetters "__NOTOC__".toList text) :
    placeContents text false =
      if heading.occursIn text then
        if (Pattern.literal contentsMark).occursIn text then
          replaceAll contentsMark contentsPlaceholder text
        else contentsPlaceholder ++ '\n' :: text
      else text := by
  have quiet : suppression.occursIn text = false :=
    Bool.eq_false_iff.mpr fun occurs => unsuppressed (holdsLetters_of_suppression occurs)
  rw [placeContents, if_neg (by decide), quiet, if_neg (by decide)]
  cases heading.occursIn text <;> rfl

theorem heading_passesOver {stretch : Text} (foreign : '=' ∉ stretch) :
    heading.PassesOver stretch :=
  Pattern.passesOver_of_head heading_head foreign

theorem table_passesOver_placeholder : table.PassesOver (contentsPlaceholder ++ ['\n']) := by
  apply Pattern.passesOver_of_lead ['{', '|']
  · intro lineStart lexeme after matched
    obtain ⟨attributes, body, -, -, rfl⟩ := table_shape matched
    exact ⟨_, rfl⟩
  · decide

theorem call_passesOver_placeholder : call.PassesOver (contentsPlaceholder ++ ['\n']) := by
  apply Pattern.passesOver_of_lead ['{', '{']
  · intro lineStart lexeme after matched
    obtain ⟨body, -, rfl⟩ := call_shape matched
    exact ⟨_, rfl⟩
  · decide

/-- A table of replacements passes over a line when no entry begins with one of its
characters. -/
theorem replaceInOrder_append_feed {table : List (Text × Text)} {line : Text}
    (foreign : ∀ entry ∈ table, ∃ c, entry.1.head? = some c ∧ c ∉ line ++ ['\n'])
    (text : Text) :
    replaceInOrder table (line ++ '\n' :: text) = line ++ '\n' :: replaceInOrder table text := by
  induction table generalizing text with
  | nil => rfl
  | cons entry table ih =>
      obtain ⟨c, head, absent⟩ := foreign entry List.mem_cons_self
      have nonempty : entry.1.isEmpty = false := by
        cases split : entry.1 with
        | nil => simp [split] at head
        | cons => rfl
      have passes : (Pattern.literal entry.1).PassesOver (line ++ ['\n']) := by
        apply Pattern.passesOver_of_head ?_ absent
        intro lineStart lexeme after matched
        rw [(literal_matches.mp matched).2, head]
      have replaced : replaceAll entry.1 entry.2 (line ++ '\n' :: text) =
          line ++ '\n' :: replaceAll entry.1 entry.2 text := by
        rw [replaceAll, replaceAll, nonempty]
        exact passes.substitute_append text
      show replaceInOrder table (replaceAll entry.1 entry.2 (line ++ '\n' :: text)) =
        line ++ '\n' :: replaceInOrder table (replaceAll entry.1 entry.2 text)
      rw [replaced]
      exact ih (fun other later => foreign other (List.mem_cons_of_mem _ later)) _

/-- The headings of a text are the same before the phrases, links and tables are changed
and after. -/
theorem heading_occursIn_beforeHeadings (content : Text) :
    heading.occursIn (beforeHeadings content true) =
      heading.occursIn (wrapDashes (removeCategories content)) := by
  rw [Bool.eq_iff_iff, heading_occursIn, heading_occursIn]
  show HasHeadingLine (adaptTables (adaptLinks (replacePhrases _))) ↔ _
  rw [hasHeadingLine_adaptTables, hasHeadingLine_adaptLinks, hasHeadingLine_replacePhrases]
  rfl

/-- A placeholder in front stays in front, and the passes change the rest as they would
without it. -/
theorem restructure_placed {content : Text}
    (placed : placeContents (wrapDashes (removeCategories content)) false =
      contentsPlaceholder ++ '\n' :: wrapDashes (removeCategories content)) :
    restructure content false = contentsPlaceholder ++ '\n' :: restructure content true := by
  have phrases : ∀ entry ∈ linkPhrases,
      ∃ c, entry.1.head? = some c ∧ c ∉ contentsPlaceholder ++ ['\n'] := by
    intro entry listed
    rcases (isPlainPhrase_of_mem listed).opens with ⟨head, -⟩ | ⟨head, -⟩ <;>
      exact ⟨_, head, by decide⟩
  have marks : ∀ entry ∈ codeMarks,
      ∃ c, entry.1.head? = some c ∧ c ∉ contentsPlaceholder ++ ['\n'] := by
    intro entry listed
    exact ⟨_, (isCodeMark_of_mem listed).opens, by decide⟩
  have before : beforeHeadings content false =
      contentsPlaceholder ++ '\n' :: beforeHeadings content true := by
    rw [beforeHeadings, beforeHeadings, placed]
    rw [replacePhrases, replaceInOrder_append_feed phrases, adaptLinks,
      (link_passesOver (by decide)).substitute_append, adaptTables,
      table_passesOver_placeholder.substitute_append]
    rfl
  rw [restructure, restructure, before, deepenHeadings,
    (heading_passesOver (by decide)).substitute_append, fenceCode,
    replaceInOrder_append_feed marks]
  rfl

/-- A placeholder in front calls nothing and hides no call. -/
theorem calledNames_placed (text : Text) :
    calledNames (contentsPlaceholder ++ '\n' :: text) = calledNames text := by
  rw [calledNames_eq, calledNames_eq, call_passesOver_placeholder.piecesFrom_append,
    List.filterMap_append]
  rfl

/-- Where neither mark for the table of contents stands, the body of a page is that of a
template with the placeholder in front, when there is a heading to list, and the calls
that it reports are the same. -/
theorem transformContent_page_of_unmarked (content : Option Text) (catalog : Template.Catalog)
    (unmarked : ¬ HoldsLetters "__TOC__".toList
      (wrapDashes (removeCategories (content.getD []))))
    (unsuppressed : ¬ HoldsLetters "__NOTOC__".toList
      (wrapDashes (removeCategories (content.getD [])))) :
    (transformContent content catalog false).magicWords =
        (transformContent content catalog true).magicWords ∧
      (transformContent content catalog false).text =
        if heading.occursIn (beforeHeadings (content.getD []) true) then
          contentsPlaceholder ++ '\n' :: (transformContent content catalog true).text
        else (transformContent content catalog true).text := by
  rw [transformContent_eq, transformContent_eq]
  have placed := placeContents_of_unsuppressed unsuppressed
  have absent : (Pattern.literal contentsMark).occursIn
      (wrapDashes (removeCategories (content.getD []))) = false := by
    apply Bool.eq_false_iff.mpr
    intro occurs
    exact unmarked ⟨contentsMark, infix_of_literal_occursIn occurs, by decide⟩
  rw [heading_occursIn_beforeHeadings]
  rw [absent, if_neg Bool.false_ne_true] at placed
  cases listed : heading.occursIn (wrapDashes (removeCategories (content.getD []))) with
  | true =>
      rw [listed, if_pos rfl] at placed
      have structured := restructure_placed placed
      rw [if_pos rfl, transform, transform, structured]
      constructor
      · dsimp only
        rw [unresolvedNames, calledNames_placed, unresolvedNames]
      · dsimp only
        rw [resolveCalls, call_passesOver_placeholder.substitute_append, resolveCalls]
  | false =>
      rw [listed, if_neg Bool.false_ne_true] at placed
      have structured : restructure (content.getD []) false =
          restructure (content.getD []) true := by
        rw [restructure, restructure, beforeHeadings, beforeHeadings, placed]
        rfl
      rw [if_neg Bool.false_ne_true, transform, transform, structured]
      exact ⟨rfl, rfl⟩

/-- The body of a page with a heading, a table that loses a line, a link that shows a
sign, and a call. -/
def sampleBody : Text := "==A==\n\x7b|\n\n! a\n|\x7d\n[[B|=]]\x7b\x7bC\x7d\x7d".toList

theorem transformContent_page_of_unmarked_sample :
    ¬ HoldsLetters "__TOC__".toList (wrapDashes (removeCategories sampleBody)) ∧
      ¬ HoldsLetters "__NOTOC__".toList (wrapDashes (removeCategories sampleBody)) ∧
      (transformContent (some sampleBody) .empty false).magicWords =
        (transformContent (some sampleBody) .empty true).magicWords ∧
      (transformContent (some sampleBody) .empty false).text =
        contentsPlaceholder ++ '\n' :: (transformContent (some sampleBody) .empty true).text := by
  have unmarked : ¬ HoldsLetters "__TOC__".toList
      (wrapDashes (removeCategories sampleBody)) := by
    decide +kernel
  have unsuppressed : ¬ HoldsLetters "__NOTOC__".toList
      (wrapDashes (removeCategories sampleBody)) := by
    decide +kernel
  have listed : heading.occursIn (beforeHeadings sampleBody true) = true := by
    rw [heading_occursIn_beforeHeadings]
    decide +kernel
  obtain ⟨sameCalls, text_eq⟩ :=
    transformContent_page_of_unmarked (some sampleBody) .empty unmarked unsuppressed
  exact ⟨unmarked, unsuppressed, sameCalls, text_eq.trans (if_pos listed)⟩

end DekiMigration.Markup
