/-
# Heading lines

Whether a text has a heading can be told line by line: a line is a heading when a sign
stands at its front and another one behind at least one character. The passes between
the placing of the contents and the headings change lines, and drop empty ones, but none
of them makes a line a heading or stops one from being one. A replacement inside a line
that keeps the line's signs apart from its front cannot do so; phrases and links are
replaced in this way, and so is every row of a table.
-/

import DekiMigration.Markup.Contents
import DekiMigration.Proofs.Markup.Phrases
import DekiMigration.Proofs.Markup.Replacement
import DekiMigration.Proofs.Markup.TableRows

namespace DekiMigration.Markup

open Text

/-- A line that is a heading: a sign in front, and another one behind at least one
character. -/
def IsHeadingLine (line : Text) : Prop :=
  line.head? = some '=' ∧ '=' ∈ line.drop 2

/-- A text one of whose lines is a heading. -/
def HasHeadingLine (text : Text) : Prop :=
  ∃ line ∈ lines text, IsHeadingLine line

theorem isHeadingLine_iff {line : Text} :
    IsHeadingLine line ↔ ∃ c title rest, line = '=' :: c :: (title ++ '=' :: rest) ∧
      '=' ∉ title := by
  constructor
  · rintro ⟨signed, closed⟩
    obtain ⟨ahead, rfl⟩ := List.head?_eq_some_iff.mp signed
    cases ahead with
    | nil => simp at closed
    | cons c ahead =>
        obtain ⟨title, rest, rfl, unsigned⟩ := List.eq_append_cons_of_mem closed
        exact ⟨c, title, rest, rfl, unsigned⟩
  · rintro ⟨c, title, rest, rfl, -⟩
    exact ⟨rfl, by simp⟩

theorem isHeadingLine_of_signs {title rest : Text} (nonempty : title ≠ []) :
    IsHeadingLine ('=' :: (title ++ '=' :: rest)) := by
  cases title with
  | nil => exact absurd rfl nonempty
  | cons c title => exact ⟨rfl, by simp⟩

/-- Where a line begins, no heading is missed. -/
theorem heading_missed {text : Text} (missed : heading.Missed true text) :
    ¬ IsHeadingLine (text.takeWhile (· != '\n')) := by
  intro isHeading
  obtain ⟨c, title, rest, line_eq, unsigned⟩ := isHeadingLine_iff.mp isHeading
  obtain ⟨behind, text_eq⟩ := List.takeWhile_prefix (l := text) (· != '\n')
  have inline := not_mem_takeWhile_ne '\n' text
  rw [line_eq] at text_eq inline
  have titled : titleLength? (text.drop (0 + 1)) =
      some (1 + title.length + closingLength ('=' :: (rest ++ behind))) := by
    refine titleLength?_eq_some.mpr ⟨c, title, rest ++ behind, ?_, rfl, ?_, unsigned⟩
    · simp [← text_eq]
    · simp only [List.mem_cons, List.mem_append, not_or] at inline ⊢
      exact ⟨inline.2.1, inline.2.2.1⟩
  have signed : 0 < min 4 (signsAtStart text) := by
    simp only [← text_eq, signsAtStart, List.cons_append, List.takeWhile_cons, beq_self_eq_true,
      if_true, List.length_cons]
    omega
  cases found : headingLength? text (min 4 (signsAtStart text)) with
  | none =>
      rw [headingLength?_eq_none.mp found 0 signed] at titled
      cases titled
  | some length =>
      obtain ⟨opening, width, -, -, rfl, -⟩ := headingLength?_eq_some.mp found
      exact missed (opening + width) (found.trans (congrArg some (by omega)))

/-- What is found as a heading begins a line that is one. -/
theorem isHeadingLine_of_matches {lineStart : Bool} {lexeme after : Text}
    (matched : heading.Matches lineStart lexeme after) :
    lineStart = true ∧ IsHeadingLine ((lexeme ++ after).takeWhile (· != '\n')) := by
  obtain ⟨isStart, opening, title, closing, feed, rfl, titled, inline, -⟩ :=
    heading_shape matched
  refine ⟨isStart, ?_⟩
  have split : (List.replicate (opening + 1) '=' ++
      (title ++ (List.replicate (closing + 1) '=' ++ feed)) ++ after).takeWhile (· != '\n') =
      '=' :: (List.replicate opening '=' ++ title ++
        '=' :: (List.replicate closing '=' ++ (feed ++ after)).takeWhile (· != '\n')) := by
    have visible : ∀ c ∈ List.replicate opening '=' ++ title, (c != '\n') = true := by
      intro c inside
      rcases List.mem_append.mp inside with sign | inTitle
      · simp [List.eq_of_mem_replicate sign]
      · simpa using fun same : c = '\n' => inline (same ▸ inTitle)
    rw [← List.takeWhile_cons_of_pos (a := '=') (by decide),
      ← List.takeWhile_append_of_pos visible,
      ← List.takeWhile_cons_of_pos (a := '=') (by decide)]
    simp [List.replicate_succ]
  rw [split]
  exact isHeadingLine_of_signs (by simp [titled])

theorem lines_eq_cons (text : Text) :
    ∃ more, lines text = text.takeWhile (· != '\n') :: more := by
  induction text with
  | nil => exact ⟨[], rfl⟩
  | cons c rest ih =>
      obtain ⟨more, rest_eq⟩ := ih
      by_cases feed : c = '\n'
      · subst feed
        exact ⟨lines rest, lines_feed rest⟩
      · exact ⟨more, by simp [lines_cons feed, rest_eq, feed]⟩

/-- The walk meets a heading exactly when one of the lines that begin on it is one. -/
private theorem heading_any_piecesFrom (lineStart : Bool) (text : Text) :
    (heading.piecesFrom lineStart text).any (·.lexeme?.isSome) = true ↔
      ∃ line ∈ if lineStart then lines text else (lines text).tail, IsHeadingLine line := by
  induction lineStart, text using Pattern.walk_induction heading with
  | nil lineStart =>
      rw [Pattern.piecesFrom_nil]
      cases lineStart <;> simp [lines_nil, IsHeadingLine]
  | @missed lineStart c rest here ih =>
      rw [here.piecesFrom_cons, List.any_cons]
      rw [Piece.lexeme?_plain, Option.isSome_none, Bool.false_or, ih]
      by_cases feed : c = '\n'
      · subst feed
        cases lineStart <;> simp [lines_feed, IsHeadingLine]
      · obtain ⟨more, rest_eq⟩ := lines_eq_cons rest
        have split : lines (c :: rest) = (c :: rest.takeWhile (· != '\n')) :: more := by
          rw [lines_cons feed, rest_eq, List.modifyHead_cons]
        cases lineStart with
        | false => simp [split, rest_eq, feed]
        | true =>
            have noHeading := heading_missed here
            rw [List.takeWhile_cons_of_pos (by simp [feed])] at noHeading
            simp [split, rest_eq, feed, noHeading]
  | @matched lineStart lexeme after here ih =>
      rw [here.piecesFrom_append, List.any_cons]
      simp only [Piece.lexeme?_hit, Option.isSome_some, Bool.true_or, true_iff]
      obtain ⟨rfl, isHeading⟩ := isHeadingLine_of_matches here
      obtain ⟨more, text_eq⟩ := lines_eq_cons (lexeme ++ after)
      exact ⟨_, by simp [text_eq], isHeading⟩

/-- A text has a heading exactly when one of its lines is a heading. -/
theorem heading_occursIn {text : Text} :
    heading.occursIn text = true ↔ HasHeadingLine text := by
  rw [Pattern.occursIn_eq, heading_any_piecesFrom, if_pos rfl, HasHeadingLine]

theorem hasHeadingLine_append_feed (before after : Text) :
    HasHeadingLine (before ++ '\n' :: after) ↔ HasHeadingLine before ∨ HasHeadingLine after := by
  simp only [HasHeadingLine, lines_append_feed, List.mem_append, or_and_right, exists_or]

theorem hasHeadingLine_of_inline {line : Text} (inline : '\n' ∉ line) :
    HasHeadingLine line ↔ IsHeadingLine line := by
  simp [HasHeadingLine, lines_of_inline inline]

/-- A stretch without line feed lies on one line, whatever stands before and behind it,
and the other lines do not depend on it. -/
private theorem exists_line_around (before after : Text) :
    ∃ front back elsewhere, '\n' ∉ front ∧ '\n' ∉ back ∧ ∀ stretch, '\n' ∉ stretch →
      (HasHeadingLine (before ++ (stretch ++ after)) ↔
        elsewhere ∨ IsHeadingLine (front ++ (stretch ++ back))) := by
  obtain ⟨front, earlier, inlineFront, front_eq⟩ : ∃ front earlier, '\n' ∉ front ∧ ∀ rest,
      HasHeadingLine (before ++ rest) ↔ earlier ∨ HasHeadingLine (front ++ rest) := by
    by_cases feed : '\n' ∈ before.reverse
    · obtain ⟨front, earlier, split, inline⟩ := List.eq_append_cons_of_mem feed
      refine ⟨front.reverse, HasHeadingLine earlier.reverse, by simpa using inline, fun rest => ?_⟩
      have before_eq : before = earlier.reverse ++ '\n' :: front.reverse := by
        rw [← List.reverse_reverse before, split]
        simp
      rw [before_eq, List.append_assoc, List.cons_append, hasHeadingLine_append_feed]
    · exact ⟨before, False, by simpa using feed, by simp⟩
  obtain ⟨back, later, inlineBack, back_eq⟩ : ∃ back later, '\n' ∉ back ∧ ∀ rest,
      '\n' ∉ rest → (HasHeadingLine (rest ++ after) ↔ IsHeadingLine (rest ++ back) ∨ later) := by
    by_cases feed : '\n' ∈ after
    · obtain ⟨back, later, rfl, inline⟩ := List.eq_append_cons_of_mem feed
      refine ⟨back, HasHeadingLine later, inline, fun rest inlineRest => ?_⟩
      rw [← List.append_assoc, hasHeadingLine_append_feed,
        hasHeadingLine_of_inline (by simp [inlineRest, inline])]
    · refine ⟨after, False, feed, fun rest inlineRest => ?_⟩
      rw [or_false, hasHeadingLine_of_inline (by simp [inlineRest, feed])]
  refine ⟨front, back, earlier ∨ later, inlineFront, inlineBack, fun stretch inline => ?_⟩
  rw [front_eq, ← List.append_assoc, back_eq _ (by simp [inlineFront, inline]),
    List.append_assoc, or_comm (b := later), or_assoc]

/-- Two stretches of a line that are alike for headings: neither starts with a sign, and
both or none hold one. -/
structure Alike (first second : Text) : Prop where
  inline_first : '\n' ∉ first
  inline_second : '\n' ∉ second
  unsigned_first : ∃ c ∈ first.head?, c ≠ '='
  unsigned_second : ∃ c ∈ second.head?, c ≠ '='
  signs : '=' ∈ first ↔ '=' ∈ second

theorem Alike.isHeadingLine {first second : Text} (alike : Alike first second)
    (front back : Text) :
    IsHeadingLine (front ++ (first ++ back)) ↔ IsHeadingLine (front ++ (second ++ back)) := by
  obtain ⟨-, -, ⟨c, front_eq, unsigned⟩, ⟨d, back_eq, unsigned'⟩, signs⟩ := alike
  obtain ⟨first, rfl⟩ := List.head?_eq_some_iff.mp front_eq
  obtain ⟨second, rfl⟩ := List.head?_eq_some_iff.mp back_eq
  have signs' : '=' ∈ first ↔ '=' ∈ second := by
    simpa [Ne.symm unsigned, Ne.symm unsigned'] using signs
  match front with
  | [] => simp [IsHeadingLine, unsigned, unsigned']
  | [e] => simp [IsHeadingLine, signs']
  | e :: f :: front => simp [IsHeadingLine, Ne.symm unsigned, Ne.symm unsigned', signs']

/-- Replacing a stretch by one that is alike keeps whether there is a heading. -/
theorem Alike.hasHeadingLine {first second : Text} (alike : Alike first second)
    (before after : Text) :
    HasHeadingLine (before ++ (first ++ after)) ↔ HasHeadingLine (before ++ (second ++ after)) := by
  obtain ⟨front, back, elsewhere, -, -, around⟩ := exists_line_around before after
  rw [around first alike.inline_first, around second alike.inline_second,
    alike.isHeadingLine front back]

theorem hasHeadingLine_substitute {pattern : Pattern} {change : Text → Option Text}
    (step : ∀ {before lineStart lexeme after}, pattern.Matches lineStart lexeme after →
      (HasHeadingLine (before ++ ((change lexeme).getD lexeme ++ after)) ↔
        HasHeadingLine (before ++ (lexeme ++ after)))) (text : Text) :
    HasHeadingLine (pattern.substitute change text) ↔ HasHeadingLine text :=
  Pattern.substitute_induction
    (motive := fun changed => HasHeadingLine changed ↔ HasHeadingLine text)
    (fun matched unchanged => (step matched).trans unchanged) Iff.rfl

theorem IsPlainPhrase.alike {old new : Text} (isPlain : IsPlainPhrase old new) :
    Alike old new := by
  obtain ⟨opens, plain, -, -, -⟩ := isPlain
  simp only [List.mem_append, or_imp, forall_and] at plain
  refine ⟨fun feed => plain.1.1 _ feed rfl, fun feed => plain.1.2 _ feed rfl, ?_, ?_, ?_⟩
  · rcases opens with ⟨head, -⟩ | ⟨head, -⟩ <;> exact ⟨_, head, by decide⟩
  · rcases opens with ⟨-, head⟩ | ⟨-, head⟩ <;> exact ⟨_, head, by decide⟩
  · exact iff_of_false (fun sign => plain.2.1.1 _ sign rfl) fun sign => plain.2.1.2 _ sign rfl

/-- The fixed phrases hold no signs and stand on one line. -/
theorem hasHeadingLine_replacePhrases (text : Text) :
    HasHeadingLine (replacePhrases text) ↔ HasHeadingLine text := by
  refine replaceInOrder_induction (motive := (HasHeadingLine · ↔ HasHeadingLine text))
    (fun _ listed => (isPlainPhrase_of_mem listed).nonempty)
    (fun _ listed before after unchanged => ?_) Iff.rfl
  have alike := (isPlainPhrase_of_mem listed).alike
  exact (alike.hasHeadingLine before after).symm.trans unchanged

theorem mem_of_mem_cleanTarget {target : Text} {c : Char} (inside : c ∈ cleanTarget target) :
    c = '_' ∨ c ∈ target := by
  obtain ⟨d, isThere, rfl⟩ := List.mem_map.mp inside
  split
  · exact .inl rfl
  · exact .inr (mem_of_mem_trim isThere)

theorem sign_mem_cleanTarget {target : Text} : '=' ∈ cleanTarget target ↔ '=' ∈ target := by
  constructor
  · intro inside
    exact (mem_of_mem_cleanTarget inside).resolve_left (by decide)
  · intro inside
    exact List.mem_map.mpr ⟨'=', (mem_trim (by decide)).mpr inside, rfl⟩

/-- A link stays on its line, and keeps whether it holds signs. -/
theorem alike_of_adaptLink {lineStart : Bool} {lexeme after written : Text}
    (matched : link.Matches lineStart lexeme after) (adapted : adaptLink lexeme = some written) :
    Alike lexeme written := by
  obtain ⟨body, -, inline, shape⟩ := link_shape matched
  obtain ⟨opening, inner, closing, lexeme_eq, body_eq, -, -, isOpening, isClosing⟩ :=
    linkBody_shape shape
  have outside : ∀ {c : Char}, c ≠ '[' → c ≠ ']' → (c ∈ lexeme ↔ c ∈ inner) := by
    intro c notOpening notClosing
    rw [lexeme_eq, List.mem_append, List.mem_append]
    constructor
    · rintro (isThere | isThere | isThere)
      · exact absurd (isOpening c isThere) notOpening
      · exact isThere
      · exact absurd (isClosing c isThere) notClosing
    · exact fun isThere => .inr (.inl isThere)
  have inlineLexeme : '\n' ∉ lexeme := by
    rcases shape with rfl | rfl <;> simpa using inline
  have inlineBody : '\n' ∉ linkBody lexeme := fun inside =>
    inlineLexeme ((outside (by decide) (by decide)).mpr (mem_of_mem_trim (body_eq ▸ inside)))
  have signs : '=' ∈ lexeme ↔ '=' ∈ linkBody lexeme := by
    rw [outside (by decide) (by decide), body_eq, mem_trim (by decide)]
  have head : ∃ c ∈ lexeme.head?, c ≠ '=' := by
    rcases shape with rfl | rfl <;> exact ⟨'[', rfl, by decide⟩
  have inlineClean : ∀ {target : Text}, '\n' ∉ target → '\n' ∉ cleanTarget target := by
    intro target inlineTarget inside
    exact inlineTarget ((mem_of_mem_cleanTarget inside).resolve_left (by decide))
  rcases adaptLink_eq_some adapted with
    ⟨target, separator, display, split, isSeparator, written_eq⟩ | rfl
  · rw [split] at inlineBody signs
    simp only [List.mem_append, List.mem_cons, not_or] at inlineBody
    have notSign : '=' ≠ separator := by
      rcases isSeparator with rfl | rfl <;> decide
    rcases written_eq with rfl | rfl
    · refine ⟨inlineLexeme, ?_, head, ⟨'[', rfl, by decide⟩, ?_⟩
      · simp [inlineBody.1, inlineBody.2.2]
      · simp [signs, notSign]
    · refine ⟨inlineLexeme, ?_, head, ⟨'[', rfl, by decide⟩, ?_⟩
      · simp [inlineClean inlineBody.1, inlineBody.2.2]
      · simp [signs, notSign, sign_mem_cleanTarget]
  · refine ⟨inlineLexeme, ?_, head, ⟨'[', rfl, by decide⟩, ?_⟩
    · simp [inlineClean inlineBody]
    · simp [signs, sign_mem_cleanTarget]

theorem hasHeadingLine_adaptLinks (text : Text) :
    HasHeadingLine (adaptLinks text) ↔ HasHeadingLine text := by
  refine hasHeadingLine_substitute (fun {before _ lexeme after} matched => ?_) text
  cases adapted : adaptLink lexeme with
  | none => rfl
  | some written => exact ((alike_of_adaptLink matched adapted).hasHeadingLine before after).symm

theorem isHeadingLine_adaptRow {first : Bool} {row : Text} :
    IsHeadingLine (adaptRow first row) ↔ IsHeadingLine row := by
  obtain ⟨plain, plain_eq, adapted⟩ := adaptRow_shape first row
  have kept : IsHeadingLine plain ↔ IsHeadingLine row := by
    rcases plain_eq with rfl | ⟨indent, rest, -, rfl, rfl⟩
    · rfl
    · have alike : Alike ['|'] ['!'] :=
        ⟨by decide, by decide, ⟨'|', rfl, by decide⟩, ⟨'!', rfl, by decide⟩, by decide⟩
      exact alike.isHeadingLine indent rest
  rcases adapted with adapted | ⟨nonempty, adapted⟩
  · rw [adapted, kept]
  · have unsigned : '=' ∉ " &nbsp;".toList.drop (2 - plain.length) := fun inside =>
      absurd (List.mem_of_mem_drop inside) (by decide)
    have head_eq : (plain ++ " &nbsp;".toList).head? = plain.head? := by
      cases plain with
      | nil => exact absurd rfl nonempty
      | cons c plain => rfl
    rw [adapted, ← kept, IsHeadingLine, IsHeadingLine, head_eq, List.drop_append, List.mem_append,
      or_iff_left unsigned]

theorem hasHeadingLine_adaptTables (text : Text) :
    HasHeadingLine (adaptTables text) ↔ HasHeadingLine text := by
  have linewise : Linewise fun text => ¬ HasHeadingLine text := by
    intro before after
    show ¬ HasHeadingLine (before ++ '\n' :: after) ↔ _
    rw [hasHeadingLine_append_feed, not_or]
  refine hasHeadingLine_substitute (fun matched => ?_) text
  refine not_iff_not.mp (linewise.adaptTable_iff ?_ (fun first row inline => ?_) matched)
  · simp [HasHeadingLine, lines_nil, IsHeadingLine]
  · rw [hasHeadingLine_of_inline inline, hasHeadingLine_of_inline (adaptRow_inline inline),
      isHeadingLine_adaptRow]

end DekiMigration.Markup
