/-
# What headings keep

A heading takes no more of a page than the line that it begins, and the line feed behind it: it
depends on nothing that comes then, and nothing that comes then depends on it. So a page can be
cut behind any of its line feeds, and the parts changed for themselves. On its line a heading
changes the signs alone, and one that is changed can be told from the line: a sign stands in
front, and another one behind at least one character.
-/

import Mathlib.Data.List.Basic
import Mathlib.Data.List.TakeWhile
import DekiMigration.Proofs.Markup.HeadingLevels
import DekiMigration.Proofs.Markup.HeadingLine
import DekiMigration.Proofs.Markup.Separation

namespace DekiMigration.Markup

open Text

namespace Pattern

/-- A match ends with its line: what comes behind a line feed makes no difference to what matches
in front of it, whether or not the line feed belongs to the match. -/
def StaysOnLine (pattern : Pattern) : Prop :=
  ∀ lineStart before after,
    pattern.lengthAt? lineStart (before ++ '\n' :: after) =
      pattern.lengthAt? lineStart (before ++ ['\n'])

variable {pattern : Pattern} {change : Text → Option Text}

/-- The text up to a line feed and the text behind it are changed apart from each other. -/
theorem StaysOnLine.substituteFrom_append (stays : pattern.StaysOnLine) (lineStart : Bool)
    (before after : Text) :
    pattern.substituteFrom change lineStart (before ++ '\n' :: after) =
      pattern.substituteFrom change lineStart (before ++ ['\n']) ++
        pattern.substituteFrom change true after := by
  generalize front_eq : before ++ ['\n'] = front
  induction lineStart, front using walk_induction pattern generalizing before with
  | nil lineStart => simp at front_eq
  | @missed lineStart c rest here ih =>
      have missed : pattern.Missed lineStart (before ++ '\n' :: after) := by
        intro length found
        rw [stays, front_eq] at found
        exact here length found
      cases before with
      | nil =>
          obtain ⟨rfl, rfl⟩ := List.cons.inj front_eq
          rw [List.nil_append] at missed ⊢
          rw [missed.substituteFrom_cons, here.substituteFrom_cons, substituteFrom_nil]
          rfl
      | cons d before =>
          obtain ⟨rfl, rest_eq⟩ := List.cons.inj front_eq
          rw [List.cons_append] at missed ⊢
          rw [missed.substituteFrom_cons, here.substituteFrom_cons, ih before rest_eq,
            List.cons_append]
  | @matched lineStart lexeme rest here ih =>
      -- The line feed either ends the match or stands in the text behind it.
      rcases List.eq_nil_or_concat' rest with rfl | ⟨more, d, rfl⟩
      · rw [List.append_nil] at front_eq
        subst front_eq
        have matched : pattern.Matches lineStart (before ++ ['\n']) after := by
          refine ⟨here.nonempty, ?_⟩
          rw [← List.append_cons, stays, ← here.lengthAt?_eq, List.append_nil]
        have ends : endsLine (before ++ ['\n']) = true := by simp [endsLine]
        rw [List.append_cons, matched.substituteFrom_append, here.substituteFrom_append, ends,
          substituteFrom_nil, List.append_nil]
      · rw [← List.append_assoc] at front_eq
        obtain ⟨rfl, same⟩ := List.append_inj' front_eq rfl
        obtain rfl : '\n' = d := List.singleton_inj.mp same
        have matched : pattern.Matches lineStart lexeme (more ++ '\n' :: after) := by
          refine ⟨here.nonempty, ?_⟩
          rw [← List.append_assoc, stays, ← here.lengthAt?_eq, List.append_assoc]
        rw [List.append_assoc, matched.substituteFrom_append, here.substituteFrom_append,
          ih more rfl, List.append_assoc]

end Pattern

theorem signsAtStart_append_feed (before after : Text) :
    signsAtStart (before ++ '\n' :: after) = signsAtStart before := by
  induction before with
  | nil => rfl
  | cons c before ih =>
      by_cases sign : (c == '=') = true
      · simpa [signsAtStart, sign] using ih
      · simp [signsAtStart, sign]

theorem closingLength_append_feed (before after : Text) :
    closingLength (before ++ '\n' :: after) = closingLength (before ++ ['\n']) := by
  have inside : min 4 (signsAtStart before) ≤ before.length :=
    Nat.le_trans (Nat.min_le_right _ _) (signsAtStart_le_length before)
  simp only [closingLength, signsAtStart_append_feed, List.drop_append_of_le_length inside,
    List.head?_append, List.head?_cons]

theorem titleLength?_append_feed (before after : Text) :
    titleLength? (before ++ '\n' :: after) = titleLength? (before ++ ['\n']) := by
  cases before with
  | nil => rfl
  | cons c before =>
      have apart : ∀ after, stretchBefore? (· != '\n') ['='] (before ++ '\n' :: after) =
          stretchBefore? (· != '\n') ['='] before := fun after =>
        stretchBefore?_append_cons (by decide) (by decide) before after 0
      simp only [List.cons_append, titleLength?, apart]
      cases found : stretchBefore? (· != '\n') ['='] before with
      | none => rfl
      | some passed =>
          obtain ⟨title, closing, rfl, rfl, -, -⟩ := stretchBefore?_eq_some.mp found
          have inside : 0 + title.length ≤ (title ++ (['='] ++ closing)).length := by simp
          simp only [Option.map_some, List.drop_append_of_le_length inside,
            closingLength_append_feed _ after]

theorem headingLength?_append_feed (before after : Text) {signs : Nat}
    (inside : signs ≤ before.length) :
    headingLength? (before ++ '\n' :: after) signs = headingLength? (before ++ ['\n']) signs := by
  induction signs with
  | zero => rfl
  | succ signs ih =>
      rw [headingLength?, headingLength?, List.drop_append_of_le_length inside,
        List.drop_append_of_le_length inside, titleLength?_append_feed, ih (Nat.le_of_lt inside)]

theorem heading_staysOnLine : heading.StaysOnLine := by
  intro lineStart before after
  have inside : min 4 (signsAtStart before) ≤ before.length :=
    Nat.le_trans (Nat.min_le_right _ _) (signsAtStart_le_length before)
  simp only [heading, signsAtStart_append_feed, headingLength?_append_feed before after inside]

/-- A page is changed on either side of the end of a line. -/
theorem deepenHeadings_append (before after : Text) :
    deepenHeadings (before ++ '\n' :: after) =
      deepenHeadings (before ++ ['\n']) ++ deepenHeadings after := by
  rw [deepenHeadings, Pattern.substitute_eq, heading_staysOnLine.substituteFrom_append,
    deepenHeadings, Pattern.substitute_eq, deepenHeadings, Pattern.substitute_eq]

theorem head?_deepenHeading (lexeme : Text) : (deepenHeading lexeme).head? = some '\n' := by
  rw [deepenHeading, List.append_assoc, List.head?_append]
  split <;> rfl

/-- A line is changed exactly when it is a heading. -/
theorem deepenHeadings_ne_iff {line : Text} (inline : '\n' ∉ line) :
    deepenHeadings line ≠ line ↔ IsHeadingLine line := by
  constructor
  · intro changed
    by_contra noHeading
    refine changed (Pattern.substitute_eq_self ?_)
    rwa [Bool.eq_false_iff, ne_eq, heading_occursIn, hasHeadingLine_of_inline inline]
  · intro isHeading same
    rcases Pattern.missed_or_matches heading true line with
      missed | ⟨lexeme, after, rfl, matched⟩
    · have whole : line.takeWhile (· != '\n') = line :=
        List.takeWhile_eq_self_iff.mpr fun c inside => by
          simpa using fun feed : c = '\n' => inline (feed ▸ inside)
      exact heading_missed missed (by rwa [whole])
    · -- What the heading becomes is set off by a line feed, and the line has none.
      rw [deepenHeadings, Pattern.substitute_eq, matched.substituteFrom_append,
        Option.getD_some] at same
      obtain ⟨rest, written_eq⟩ := List.head?_eq_some_iff.mp (head?_deepenHeading lexeme)
      rw [written_eq, List.cons_append] at same
      exact inline (same ▸ List.mem_cons_self)

/-- What a page says, apart from signs and the ends of lines. -/
def isWording (c : Char) : Bool :=
  c != '=' && c != '\n'

theorem filter_isWording_signs (count : Nat) : (signs count).filter isWording = [] :=
  List.filter_eq_nil_iff.mpr fun _ inside => List.eq_of_mem_replicate inside ▸ by decide

/-- A heading keeps its wording: the signs around it and the line feeds are all that changes. -/
theorem filter_isWording_deepenHeading {lineStart : Bool} {lexeme after : Text}
    (matched : heading.Matches lineStart lexeme after) :
    (deepenHeading lexeme).filter isWording = lexeme.filter isWording := by
  obtain ⟨-, opening, title, closing, feed, rfl, -, -, isFeed⟩ := heading_shape matched
  have blankFeed : ∀ c ∈ feed, isBlank c := by
    rcases isFeed with rfl | rfl <;> decide
  have noFeed : feed.filter isWording = [] := by
    rcases isFeed with rfl | rfl <;> rfl
  have trimmed := trim_heading (Nat.succ_pos opening) (Nat.succ_pos closing) title blankFeed
  have openingSigns : ∀ deepest : Prop, [Decidable deepest] →
      (if deepest then ['\n'] else ['\n', '=']).filter isWording = [] := by
    intro deepest _
    split <;> rfl
  have closingSigns : ∀ few : Prop, [Decidable few] →
      (if few then ['='] else []).filter isWording = [] := by
    intro few _
    split <;> rfl
  rw [deepenHeading, ← signs, ← signs, trimmed]
  simp only [List.filter_append, openingSigns, closingSigns, filter_isWording_signs, noFeed,
    List.append_nil, List.nil_append]

/-- Changing the headings of a page changes, adds and moves nothing but signs and line feeds. -/
theorem filter_isWording_deepenHeadings (text : Text) :
    (deepenHeadings text).filter isWording = text.filter isWording := by
  refine Pattern.substitute_induction
    (motive := fun changed => changed.filter isWording = text.filter isWording)
    (fun {before _ lexeme after} matched kept => ?_) rfl
  rw [← kept, List.filter_append, List.filter_append, List.filter_append, List.filter_append,
    Option.getD_some, filter_isWording_deepenHeading matched]

/-- Headings are changed line by line: a page may be cut behind any line feed. Of a single line
exactly the heading is changed, and never more of it than the signs and the line feeds. -/
theorem deepenHeadings_lineByLine :
    (∀ before after,
      deepenHeadings (before ++ '\n' :: after) =
        deepenHeadings (before ++ ['\n']) ++ deepenHeadings after) ∧
      ∀ line, '\n' ∉ line →
        (deepenHeadings line ≠ line ↔ line.head? = some '=' ∧ '=' ∈ line.drop 2) ∧
          (deepenHeadings line).filter isWording = line.filter isWording :=
  ⟨deepenHeadings_append, fun line inline =>
    ⟨deepenHeadings_ne_iff inline, filter_isWording_deepenHeadings line⟩⟩

/-- Three signs are a line that is changed, two are not. -/
theorem deepenHeadings_lineByLine_signs :
    '\n' ∉ signs 3 ∧ deepenHeadings (signs 3) ≠ signs 3 ∧
      '\n' ∉ signs 2 ∧ deepenHeadings (signs 2) = signs 2 := by
  have changed := (deepenHeadings_lineByLine.2 (signs 3) (by decide)).1.mpr (by decide)
  have kept := (deepenHeadings_lineByLine.2 (signs 2) (by decide)).1.not.mpr (by decide)
  exact ⟨by decide, changed, by decide, not_not.mp kept⟩

end DekiMigration.Markup
