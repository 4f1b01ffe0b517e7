/-
# Headings

A heading is the front of a line: one to four equals signs, a title, and one to
four equals signs again, with the line feed if it follows at once. As many
opening signs as possible are taken, then the shortest title of at least one
character. In a Deki page the level of a heading is one deeper than in a wiki
page, down to the fourth, so each side gains one sign unless it has four. The
heading is set off by a line feed before it instead of the one behind it.
-/

import DekiMigration.Text.Blank
import DekiMigration.Markup.Span

namespace DekiMigration.Markup

open Text

/-- How many of the characters at the front of a text are equals signs. -/
def signsAtStart (text : Text) : Nat :=
  (text.takeWhile (· == '=')).length

/-- How many of the characters at the end of a text are equals signs. -/
def signsAtEnd (text : Text) : Nat :=
  signsAtStart text.reverse

/-- The length of the closing signs at the front of a text, four at most, and a line
feed if it follows. -/
def closingLength (text : Text) : Nat :=
  let signs := min 4 (signsAtStart text)
  signs + if (text.drop signs).head? = some '\n' then 1 else 0

/-- The length of what follows the opening signs of a heading: the title, the
closing signs and a line feed. -/
def titleLength? : Text → Option Nat
  | [] => none
  | c :: rest =>
    if c = '\n' then none
    else (stretchBefore? (· != '\n') ['='] rest).map fun passed =>
      1 + passed + closingLength (rest.drop passed)

/-- The length of a heading with at most `signs` opening signs, the most that
leave it a title. -/
def headingLength? (text : Text) : (signs : Nat) → Option Nat
  | 0 => none
  | signs + 1 =>
    match titleLength? (text.drop (signs + 1)) with
    | some length => some (signs + 1 + length)
    | none => headingLength? text signs

theorem signsAtStart_le_length (text : Text) : signsAtStart text ≤ text.length :=
  (List.takeWhile_prefix (l := text) (· == '=')).length_le

theorem closingLength_le_length (text : Text) : closingLength text ≤ text.length := by
  have signs := signsAtStart_le_length text
  simp only [closingLength]
  split
  · next feed =>
      cases ahead : text.drop (min 4 (signsAtStart text)) with
      | nil => simp [ahead] at feed
      | cons c rest =>
          have lengths := congrArg List.length ahead
          rw [List.length_drop, List.length_cons] at lengths
          omega
  · omega

/-- A title has at least one character and reaches to the first sign behind it. -/
theorem titleLength?_eq_some {text : Text} {length : Nat} :
    titleLength? text = some length ↔
      ∃ c title closing, text = c :: (title ++ '=' :: closing) ∧
        length = 1 + title.length + closingLength ('=' :: closing) ∧
        '\n' ∉ c :: title ∧ '=' ∉ title := by
  cases text with
  | nil => simp [titleLength?]
  | cons c text =>
      rw [titleLength?]
      constructor
      · intro found
        split at found
        · cases found
        · next visible =>
            obtain ⟨passed, stretch, rfl⟩ := Option.map_eq_some_iff.mp found
            obtain ⟨title, closing, rfl, rfl, inline, first⟩ := stretchBefore?_eq_some.mp stretch
            refine ⟨c, title, closing, rfl, by simp, ?_, endsFirst_singleton.mp first⟩
            rw [List.mem_cons, not_or]
            exact ⟨Ne.symm visible, fun inside => by simpa using inline '\n' inside⟩
      · rintro ⟨d, title, closing, text_eq, rfl, inline, unsigned⟩
        obtain ⟨rfl, rfl⟩ := List.cons_eq_cons.mp text_eq
        rw [List.mem_cons, not_or] at inline
        have stretch : stretchBefore? (· != '\n') ['='] (title ++ '=' :: closing) =
            some title.length := by
          refine stretchBefore?_eq_some.mpr ⟨title, closing, rfl, (Nat.zero_add _).symm,
            fun d inside => ?_, endsFirst_singleton.mpr unsigned⟩
          simpa using fun same : d = '\n' => inline.2 (same ▸ inside)
        rw [if_neg (Ne.symm inline.1), stretch]
        simp

/-- Of the numbers of opening signs that leave a title, the greatest counts. -/
theorem headingLength?_eq_some {text : Text} {signs length : Nat} :
    headingLength? text signs = some length ↔
      ∃ opening width, opening < signs ∧ titleLength? (text.drop (opening + 1)) = some width ∧
        length = opening + 1 + width ∧
        ∀ more, opening < more → more < signs → titleLength? (text.drop (more + 1)) = none := by
  induction signs with
  | zero => simp [headingLength?]
  | succ signs ih =>
      rw [headingLength?]
      cases titled : titleLength? (text.drop (signs + 1)) with
      | some width =>
          constructor
          · intro found
            cases found
            exact ⟨signs, width, by omega, titled, rfl, fun more above below => by omega⟩
          · rintro ⟨opening, width', below, titled', rfl, greatest⟩
            rcases Nat.lt_succ_iff_lt_or_eq.mp below with less | rfl
            · have untitled := greatest signs less (Nat.lt_succ_self signs)
              rw [titled] at untitled
              cases untitled
            · rw [titled] at titled'
              cases titled'
              rfl
      | none =>
          rw [ih]
          constructor
          · rintro ⟨opening, width, below, titled', length_eq, greatest⟩
            refine ⟨opening, width, by omega, titled', length_eq, fun more above below' => ?_⟩
            rcases Nat.lt_succ_iff_lt_or_eq.mp below' with less | rfl
            · exact greatest more above less
            · exact titled
          · rintro ⟨opening, width, below, titled', length_eq, greatest⟩
            rcases Nat.lt_succ_iff_lt_or_eq.mp below with less | rfl
            · exact ⟨opening, width, less, titled', length_eq,
                fun more above below' => greatest more above (by omega)⟩
            · rw [titled] at titled'
              cases titled'

/-- There is no heading where no number of opening signs leaves a title. -/
theorem headingLength?_eq_none {text : Text} {signs : Nat} :
    headingLength? text signs = none ↔
      ∀ opening, opening < signs → titleLength? (text.drop (opening + 1)) = none := by
  induction signs with
  | zero => simp [headingLength?]
  | succ signs ih =>
      rw [headingLength?]
      cases titled : titleLength? (text.drop (signs + 1)) with
      | some width =>
          constructor
          · intro missing
            cases missing
          · intro untitled
            rw [untitled signs (Nat.lt_succ_self signs)] at titled
            cases titled
      | none =>
          rw [ih]
          constructor
          · intro untitled opening below
            rcases Nat.lt_succ_iff_lt_or_eq.mp below with less | rfl
            · exact untitled opening less
            · exact titled
          · exact fun untitled opening below => untitled opening (Nat.lt_succ_of_lt below)

theorem headingLength?_le_length {text : Text} {signs length : Nat}
    (found : headingLength? text signs = some length) : length ≤ text.length := by
  obtain ⟨opening, width, -, titled, rfl, -⟩ := headingLength?_eq_some.mp found
  obtain ⟨c, title, closing, ahead, rfl, -, -⟩ := titleLength?_eq_some.mp titled
  have inside := closingLength_le_length ('=' :: closing)
  have lengths := congrArg List.length ahead
  simp only [List.length_drop, List.length_cons, List.length_append] at lengths inside
  omega

/-- Headings. -/
def heading : Pattern where
  lengthAt? lineStart text :=
    if lineStart then headingLength? text (min 4 (signsAtStart text)) else none
  length_le := by
    intro lineStart text length found
    split at found
    · exact headingLength?_le_length found
    · cases found

/-- A heading one level deeper, with a line feed before it. -/
def deepenHeading (lexeme : Text) : Text :=
  let title := trim lexeme
  let opening := if signsAtStart title ≥ 4 then ['\n'] else ['\n', '=']
  let closing := if signsAtEnd title < 4 then ['='] else []
  opening ++ title ++ closing

/-- Puts every heading of a text one level deeper. -/
def deepenHeadings (text : Text) : Text :=
  heading.substitute (fun lexeme => some (deepenHeading lexeme)) text

end DekiMigration.Markup
