/-
# What links keep

A change of the links on a page is a change within its lines: a link ends where its line does
at the latest, whatever brackets stand open, and it is written on that line. And it is a change
of markup only: brackets, the signs that part a link or are not allowed in a target, and blanks
may go or come, but all other characters stay in their order, however the brackets are nested.
-/

import DekiMigration.Proofs.Markup.HeadingLine
import DekiMigration.Proofs.Markup.Separation

namespace DekiMigration.Markup

open Text

/-- A line feed separates the links before it from those behind it. -/
theorem link_separatedBy_feed : link.SeparatedBy '\n' := by
  intro _ _ before after
  have apart : ∀ {opening close : Text}, '\n' ∉ opening → '\n' ∉ close →
      enclosedLength? opening close (· != '\n') (before ++ '\n' :: after) =
        enclosedLength? opening close (· != '\n') before := by
    intro opening close foreign foreign'
    exact enclosedLength?_append_cons (by decide) foreign foreign' before after
  simp only [link]
  rw [apart (by decide) (by decide), apart (by decide) (by decide)]

theorem adaptLinks_append_feed (before after : Text) :
    adaptLinks (before ++ '\n' :: after) = adaptLinks before ++ '\n' :: adaptLinks after :=
  link_separatedBy_feed.substitute_append_cons before after

theorem adaptLinks_inline {line : Text} (inline : '\n' ∉ line) : '\n' ∉ adaptLinks line := by
  refine Pattern.substitute_induction (motive := ('\n' ∉ ·))
    (fun {before _ lexeme after} matched inside => ?_) inline
  cases adapted : adaptLink lexeme with
  | none => exact inside
  | some written =>
      have inlineWritten := (alike_of_adaptLink matched adapted).inline_second
      simp only [List.mem_append, not_or] at inside
      simp [inside.1, inlineWritten, inside.2.2]

/-- The lines of the changed page are the changed lines of the page. -/
theorem lines_adaptLinks (text : Text) :
    lines (adaptLinks text) = (lines text).map adaptLinks := by
  induction length : text.length using Nat.strongRecOn generalizing text with
  | ind _ ih =>
      subst length
      by_cases feed : '\n' ∈ text
      · obtain ⟨line, rest, rfl, inline⟩ := List.eq_append_cons_of_mem feed
        have shorter : rest.length < (line ++ '\n' :: rest).length := by
          rw [List.length_append, List.length_cons]
          omega
        rw [adaptLinks_append_feed, lines_append_feed, lines_append_feed, ih _ shorter rest rfl,
          lines_of_inline (adaptLinks_inline inline), lines_of_inline inline]
        rfl
      · rw [lines_of_inline feed, lines_of_inline (adaptLinks_inline feed)]
        rfl

/-- Links are changed line by line: the lines stay as many as they are, and what stands on one
of them makes no difference to another. -/
theorem adaptLinks_lineByLine :
    (∀ before after,
      adaptLinks (before ++ '\n' :: after) = adaptLinks before ++ '\n' :: adaptLinks after) ∧
      ∀ text, lines (adaptLinks text) = (lines text).map adaptLinks ∧
        (lines (adaptLinks text)).length = (lines text).length := by
  refine ⟨adaptLinks_append_feed, fun text => ⟨lines_adaptLinks text, ?_⟩⟩
  rw [lines_adaptLinks, List.length_map]

/-- What a link is about: all but blanks, brackets, and the signs that part a link or are
spelled in another way in it. -/
def isContent (c : Char) : Bool :=
  !(isBlank c || "[]|:&_".toList.contains c)

theorem filter_isContent_of_blank {blank : Text} (blanks : ∀ c ∈ blank, isBlank c) :
    blank.filter isContent = [] := by
  rw [List.filter_eq_nil_iff]
  intro c inside
  simp [isContent, blanks c inside]

theorem filter_isContent_trim (text : Text) :
    (trim text).filter isContent = text.filter isContent := by
  obtain ⟨front, back, text_eq, blankFront, blankBack⟩ := exists_trim text
  conv_rhs => rw [text_eq]
  rw [List.filter_append, List.filter_append, filter_isContent_of_blank blankFront,
    filter_isContent_of_blank blankBack, List.nil_append, List.append_nil]

/-- Cleaning a target only changes signs that are no content. -/
theorem filter_isContent_cleanTarget (target : Text) :
    (cleanTarget target).filter isContent = target.filter isContent := by
  rw [← filter_isContent_trim target, cleanTarget]
  induction trim target with
  | nil => rfl
  | cons c rest ih =>
      by_cases sign : (decide (c = ':') || decide (c = '&') || decide (c = ' ')) = true
      · have cleaned : isContent c = false := by
          simp only [Bool.or_eq_true, decide_eq_true_eq] at sign
          rcases sign with (rfl | rfl) | rfl <;> decide
        rw [List.map_cons, if_pos sign, List.filter_cons_of_neg (by decide), ih,
          List.filter_cons_of_neg (by simp [cleaned])]
      · rw [List.map_cons, if_neg sign, List.filter_cons, List.filter_cons, ih]

theorem filter_isContent_linkBody {lineStart : Bool} {lexeme after : Text}
    (matched : link.Matches lineStart lexeme after) :
    (linkBody lexeme).filter isContent = lexeme.filter isContent := by
  obtain ⟨body, -, -, shape⟩ := link_shape matched
  obtain ⟨opening, inner, closing, lexeme_eq, body_eq, -, -, isOpening, isClosing⟩ :=
    linkBody_shape shape
  have noOpening : opening.filter isContent = [] :=
    List.filter_eq_nil_iff.mpr fun c inside => isOpening c inside ▸ by decide
  have noClosing : closing.filter isContent = [] :=
    List.filter_eq_nil_iff.mpr fun c inside => isClosing c inside ▸ by decide
  rw [body_eq, filter_isContent_trim, lexeme_eq, List.filter_append, List.filter_append,
    noOpening, noClosing, List.nil_append, List.append_nil]

/-- A link keeps its content, whatever form it takes. -/
theorem filter_isContent_adaptLink {lineStart : Bool} {lexeme after : Text}
    (matched : link.Matches lineStart lexeme after) :
    ((adaptLink lexeme).getD lexeme).filter isContent = lexeme.filter isContent := by
  cases adapted : adaptLink lexeme with
  | none => rfl
  | some written =>
      have bracket : isContent '[' = false ∧ isContent ']' = false ∧ isContent '|' = false := by
        decide
      rw [Option.getD_some, ← filter_isContent_linkBody matched]
      rcases adaptLink_eq_some adapted with
        ⟨target, separator, display, split, isSeparator, written_eq⟩ | rfl
      · have parted : isContent separator = false := by
          rcases isSeparator with rfl | rfl <;> decide
        rcases written_eq with rfl | rfl
        · simp [split, bracket, parted]
        · simp [split, bracket, parted, filter_isContent_cleanTarget]
      · simp [bracket, filter_isContent_cleanTarget]

/-- Changing the links of a page loses, doubles or moves nothing but markup and blanks. -/
theorem filter_isContent_adaptLinks (text : Text) :
    (adaptLinks text).filter isContent = text.filter isContent := by
  refine Pattern.substitute_induction
    (motive := fun changed => changed.filter isContent = text.filter isContent)
    (fun {before _ lexeme after} matched kept => ?_) rfl
  rw [← kept, List.filter_append, List.filter_append, List.filter_append, List.filter_append,
    filter_isContent_adaptLink matched]

end DekiMigration.Markup
