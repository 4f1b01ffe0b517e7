/-
# The levels of headings

The signs around a title tell the level of a heading, and a page of Deki has it one deeper on
either side, down to the fourth. The search takes at most four signs on a side, but the heading
may have more: the fifth sign in front of a title passes for the first character of what the
search takes for the title, from the sixth on the signs are a heading by themselves, and of
more than four behind a title the others stay on the line. In each case the signs that are not
more than three on their side get one more, and no sign is lost.
-/

import DekiMigration.Proofs.Markup.Shape

namespace DekiMigration.Markup

open Text

/-- A row of equals signs. -/
def signs (count : Nat) : Text :=
  List.replicate count '='

/-- The level below a level, down to the fourth. What has more signs than that keeps them. -/
def deeperLevel (level : Nat) : Nat :=
  if level < 4 then level + 1 else level

theorem signs_add (first second : Nat) : signs (first + second) = signs first ++ signs second :=
  List.replicate_append_replicate.symm

theorem signsAtStart_signs_append (count : Nat) (text : Text) :
    signsAtStart (signs count ++ text) = count + signsAtStart text := by
  have row : ∀ c ∈ signs count, (c == '=') = true := fun c inside =>
    beq_iff_eq.mpr (List.eq_of_mem_replicate inside)
  rw [signsAtStart, List.takeWhile_append_of_pos row, List.length_append, signs,
    List.length_replicate, signsAtStart]

theorem signsAtStart_of_head {text : Text} (unsigned : text.head? ≠ some '=') :
    signsAtStart text = 0 := by
  cases text with
  | nil => rfl
  | cons c rest =>
      have other : c ≠ '=' := fun same => unsigned (congrArg some same)
      simp [signsAtStart, other]

theorem signsAtStart_signs (count : Nat) : signsAtStart (signs count) = count := by
  rw [← List.append_nil (signs count), signsAtStart_signs_append, signsAtStart_of_head (by simp),
    Nat.add_zero]

/-- Behind a text that ends in another character, the signs of a row are counted. -/
theorem signsAtEnd_append_signs {text : Text} (unsigned : text.getLast? ≠ some '=')
    (count : Nat) : signsAtEnd (text ++ signs count) = count := by
  have reversed : (text ++ signs count).reverse = signs count ++ text.reverse := by
    rw [List.reverse_append, signs, List.reverse_replicate]
  rw [signsAtEnd, reversed, signsAtStart_signs_append, signsAtStart_of_head, Nat.add_zero]
  rwa [List.head?_reverse]

/-- A heading takes a whole row of signs in front of a text: four are as many as it takes, and
of fewer none is left. -/
def TakesRow (count : Nat) (text : Text) : Prop :=
  count = 4 ∨ count < 4 ∧ text.head? ≠ some '='

theorem TakesRow.min_signsAtStart {count : Nat} {text : Text} (takes : TakesRow count text) :
    min 4 (signsAtStart (signs count ++ text)) = count := by
  rw [signsAtStart_signs_append]
  rcases takes with rfl | ⟨few, unsigned⟩
  · exact Nat.min_eq_left (Nat.le_add_right 4 _)
  · rw [signsAtStart_of_head unsigned]
    omega

theorem TakesRow.closingLength_eq {count : Nat} {text : Text} (takes : TakesRow count text) :
    closingLength (signs count ++ text) = count + if text.head? = some '\n' then 1 else 0 := by
  have behind : (signs count ++ text).drop count = text :=
    List.drop_left' (List.length_replicate ..)
  rw [closingLength, takes.min_signsAtStart, behind]

/-- Signs around a title on one line, which holds none behind its first character, are a
heading, with the line feed when that is what follows. -/
theorem heading_matches {opening closing : Nat} {c : Char} {title feed after : Text}
    (isOpened : 0 < opening) (isClosed : 0 < closing) (inline : '\n' ∉ c :: title)
    (unsigned : '=' ∉ title)
    (opens : TakesRow opening (c :: title ++ (signs closing ++ (feed ++ after))))
    (closes : TakesRow closing (feed ++ after))
    (fed : feed = ['\n'] ∨ feed = [] ∧ after.head? ≠ some '\n') :
    heading.Matches true (signs opening ++ (c :: title ++ (signs closing ++ feed))) after := by
  obtain ⟨front, rfl⟩ := Nat.exists_eq_succ_of_ne_zero (Nat.ne_of_gt isOpened)
  obtain ⟨back, rfl⟩ := Nat.exists_eq_succ_of_ne_zero (Nat.ne_of_gt isClosed)
  have width : closingLength (signs (back + 1) ++ (feed ++ after)) = back + 1 + feed.length := by
    rw [closes.closingLength_eq]
    rcases fed with rfl | ⟨rfl, unfed⟩
    · rfl
    · rw [List.nil_append, if_neg unfed, List.length_nil]
  have ahead : (signs (front + 1) ++ (c :: title ++ (signs (back + 1) ++ (feed ++ after)))).drop
      (front + 1) = c :: (title ++ '=' :: (signs back ++ (feed ++ after))) :=
    List.drop_left' (List.length_replicate ..)
  have found : headingLength?
      (signs (front + 1) ++ (c :: title ++ (signs (back + 1) ++ (feed ++ after))))
      (front + 1) = some (front + 1 + (1 + title.length + (back + 1 + feed.length))) := by
    refine headingLength?_eq_some.mpr ⟨front, _, Nat.lt_succ_self _, ?_, rfl, fun _ _ _ => by omega⟩
    rw [ahead]
    exact titleLength?_eq_some.mpr ⟨c, title, _, rfl, by rw [← width]; rfl, inline, unsigned⟩
  have regroup : signs (front + 1) ++ (c :: title ++ (signs (back + 1) ++ feed)) ++ after =
      signs (front + 1) ++ (c :: title ++ (signs (back + 1) ++ (feed ++ after))) := by
    simp only [List.append_assoc, List.cons_append]
  refine ⟨by simp [signs], ?_⟩
  rw [regroup]
  simp only [heading, if_true]
  rw [opens.min_signsAtStart, found]
  simp only [signs, List.length_append, List.length_replicate, List.length_cons]
  congr 1
  omega

/-- Up to five signs in front of a title open its heading: the fifth is the first character of
what the search takes for the title. -/
theorem heading_matches_title {opening closing : Nat} {title feed after : Text}
    (isOpened : 0 < opening) (few : opening ≤ 5) (isClosed : 0 < closing) (titled : title ≠ [])
    (inline : '\n' ∉ title) (unsigned : '=' ∉ title) (closes : TakesRow closing (feed ++ after))
    (fed : feed = ['\n'] ∨ feed = [] ∧ after.head? ≠ some '\n') :
    heading.Matches true (signs opening ++ (title ++ (signs closing ++ feed))) after := by
  rcases Nat.lt_succ_iff_lt_or_eq.mp (Nat.lt_succ_of_le few) with below | rfl
  · obtain ⟨c, title, rfl⟩ := List.exists_cons_of_ne_nil titled
    rw [List.mem_cons, not_or] at unsigned
    have opens : TakesRow opening (c :: title ++ (signs closing ++ (feed ++ after))) := by
      rcases Nat.lt_succ_iff_lt_or_eq.mp below with fewer | rfl
      · exact .inr ⟨fewer, by simpa using Ne.symm unsigned.1⟩
      · exact .inl rfl
    exact heading_matches isOpened isClosed inline unsigned.2 opens closes fed
  · have inlineRow : '\n' ∉ '=' :: title := by simpa using inline
    exact heading_matches (by decide : 0 < 4) isClosed inlineRow unsigned (.inl rfl) closes fed

/-- Six and more signs in a row are a heading of their own, nine of them at most: the fifth is
its title. -/
theorem heading_matches_signs {closing : Nat} {after : Text} (isClosed : 0 < closing)
    (closes : TakesRow closing after) (unfed : after.head? ≠ some '\n') :
    heading.Matches true (signs (5 + closing)) after := by
  have matched : heading.Matches true (signs 4 ++ ('=' :: [] ++ (signs closing ++ []))) after :=
    heading_matches (by decide) isClosed (by decide) (by decide) (.inl rfl) closes
      (.inr ⟨rfl, unfed⟩)
  have row : signs 4 ++ ('=' :: [] ++ (signs closing ++ [])) = signs (5 + closing) := by
    rw [List.append_nil, signs_add]
    rfl
  rwa [row] at matched

/-- The level below has one sign more on either side, if it has any more. -/
theorem signs_deeperLevel (level : Nat) :
    signs (deeperLevel level) = (if level ≥ 4 then [] else ['=']) ++ signs level ∧
      signs (deeperLevel level) = signs level ++ if level < 4 then ['='] else [] := by
  by_cases few : level < 4
  · rw [deeperLevel, if_pos few, if_neg (by omega), if_pos few]
    exact ⟨rfl, List.replicate_succ'⟩
  · rw [deeperLevel, if_neg few, if_pos (by omega), if_neg few]
    exact ⟨rfl, (List.append_nil _).symm⟩

/-- What begins and ends with a sign has no blanks around it. -/
theorem isSolid_of_signs {opening closing : Nat} (isOpened : 0 < opening) (isClosed : 0 < closing)
    (title : Text) : IsSolid (signs opening ++ (title ++ signs closing)) := by
  obtain ⟨front, rfl⟩ := Nat.exists_eq_succ_of_ne_zero (Nat.ne_of_gt isOpened)
  obtain ⟨back, rfl⟩ := Nat.exists_eq_succ_of_ne_zero (Nat.ne_of_gt isClosed)
  have head : (signs front.succ ++ (title ++ signs back.succ)).head? = some '=' := rfl
  have last : (signs front.succ ++ (title ++ signs back.succ)).getLast? = some '=' := by
    have row : signs back.succ = signs back ++ ['='] := List.replicate_succ'
    rw [row, ← List.append_assoc, ← List.append_assoc, List.getLast?_concat]
  constructor
  · intro c isHead
    rw [head, Option.mem_some_iff] at isHead
    subst isHead
    decide
  · intro c isLast
    rw [last, Option.mem_some_iff] at isLast
    subst isLast
    decide

/-- Of the text of a heading, only what stands behind its closing signs is trimmed. -/
theorem trim_heading {opening closing : Nat} (isOpened : 0 < opening) (isClosed : 0 < closing)
    (title : Text) {feed : Text} (blank : ∀ c ∈ feed, isBlank c) :
    trim (signs opening ++ (title ++ (signs closing ++ feed))) =
      signs opening ++ (title ++ signs closing) := by
  have solid := isSolid_of_signs isOpened isClosed title
  simpa using trim_eq (by simp : ∀ c ∈ ([] : Text), isBlank c) solid blank

/-- A heading is put one level deeper on either side. -/
theorem deepenHeading_title {opening closing : Nat} {title feed : Text} (isOpened : 0 < opening)
    (isClosed : 0 < closing) (titled : title ≠ []) (unsigned : '=' ∉ title)
    (blank : ∀ c ∈ feed, isBlank c) :
    deepenHeading (signs opening ++ (title ++ (signs closing ++ feed))) =
      '\n' :: (signs (deeperLevel opening) ++ (title ++ signs (deeperLevel closing))) := by
  have headless : (title ++ signs closing).head? ≠ some '=' := by
    obtain ⟨c, title, rfl⟩ := List.exists_cons_of_ne_nil titled
    intro head
    rw [List.cons_append, List.head?_cons, Option.some.injEq] at head
    exact unsigned (head ▸ List.mem_cons_self)
  have lastless : (signs opening ++ title).getLast? ≠ some '=' := by
    intro last
    have isLast := List.getLast?_eq_some_getLast titled
    rw [List.getLast?_append, isLast, Option.some_or, ← isLast] at last
    exact unsigned (List.mem_of_mem_getLast? last)
  have atStart : signsAtStart (signs opening ++ (title ++ signs closing)) = opening := by
    rw [signsAtStart_signs_append, signsAtStart_of_head headless, Nat.add_zero]
  have atEnd : signsAtEnd (signs opening ++ (title ++ signs closing)) = closing := by
    rw [← List.append_assoc, signsAtEnd_append_signs lastless]
  rw [deepenHeading, trim_heading isOpened isClosed title blank]
  simp only [atStart, atEnd]
  rw [(signs_deeperLevel opening).1, (signs_deeperLevel closing).2]
  by_cases deepest : opening ≥ 4 <;> simp [deepest]

theorem deepenHeading_signs {count : Nat} (many : 4 ≤ count) :
    deepenHeading (signs count) = '\n' :: signs count := by
  have visible : ∀ c ∈ signs count, isBlank c = false := fun c inside =>
    List.eq_of_mem_replicate inside ▸ by decide
  have atEnd : signsAtEnd (signs count) = count := by
    rw [← List.nil_append (signs count), signsAtEnd_append_signs (by simp)]
  rw [deepenHeading, (isSolid_of_visible visible).trim_eq_self]
  simp only [atEnd, signsAtStart_signs]
  rw [if_pos many, if_neg (by omega), List.append_nil]
  rfl

/-- In the middle of a line no heading begins. -/
theorem heading_missed_inside (text : Text) : heading.Missed false text := by
  intro length found
  cases found

/-- The rest of a line behind a heading stays. -/
theorem heading_substituteFrom_line {change : Text → Option Text} {line : Text}
    (inline : '\n' ∉ line) (rest : Text) :
    heading.substituteFrom change false (line ++ '\n' :: rest) =
      line ++ '\n' :: heading.substituteFrom change true rest := by
  induction line with
  | nil => exact (heading_missed_inside _).substituteFrom_cons
  | cons c line ih =>
      rw [List.mem_cons, not_or] at inline
      have visible : (c == '\n') = false := by simpa using Ne.symm inline.1
      rw [List.cons_append, (heading_missed_inside _).substituteFrom_cons, visible, ih inline.2,
        List.cons_append]

theorem inline_signs (count : Nat) : '\n' ∉ signs count := by
  intro inside
  exact absurd (List.eq_of_mem_replicate inside) (by decide)

/-- A line in three parts, told apart from what ends it. -/
theorem append_ending (opening title closing ending : Text) :
    opening ++ (title ++ (closing ++ ending)) = opening ++ (title ++ closing) ++ ending := by
  rw [List.append_assoc, List.append_assoc]

/-- A heading whose line feed belongs to it leaves the text behind it as it is alone. -/
theorem deepenHeadings_append_feed {line rest : Text}
    (matched : heading.Matches true (line ++ ['\n']) rest) :
    deepenHeadings (line ++ '\n' :: rest) =
      deepenHeading (line ++ ['\n']) ++ deepenHeadings rest := by
  have ends : endsLine (line ++ ['\n']) = true := by simp [endsLine]
  rw [List.append_cons, deepenHeadings, Pattern.substitute_eq, matched.substituteFrom_append, ends,
    deepenHeadings, Pattern.substitute_eq, Option.getD_some]

/-- A heading in front of more of its line leaves that and the line feed. -/
theorem deepenHeadings_append_line {lexeme line rest : Text}
    (matched : heading.Matches true lexeme (line ++ '\n' :: rest)) (inline : '\n' ∉ lexeme)
    (inline' : '\n' ∉ line) :
    deepenHeadings (lexeme ++ (line ++ '\n' :: rest)) =
      deepenHeading lexeme ++ (line ++ '\n' :: deepenHeadings rest) := by
  have ends : endsLine lexeme = false := by
    rw [endsLine, beq_eq_false_iff_ne]
    exact fun last => inline (List.mem_of_mem_getLast? last)
  rw [deepenHeadings, Pattern.substitute_eq, matched.substituteFrom_append, ends,
    heading_substituteFrom_line inline', deepenHeadings, Pattern.substitute_eq, Option.getD_some]

section Levels

variable {opening closing : Nat} {title : Text}

/-- Up to five signs before the title and up to four behind it are all of the heading's. -/
theorem deepenHeadings_of_few (isOpened : 0 < opening) (isClosed : 0 < closing)
    (titled : title ≠ []) (inline : '\n' ∉ title) (unsigned : '=' ∉ title) (rest : Text)
    (few : opening ≤ 5) (few' : closing ≤ 4) :
    deepenHeadings (signs opening ++ (title ++ (signs closing ++ '\n' :: rest))) =
      '\n' :: (signs (deeperLevel opening) ++
        (title ++ (signs (deeperLevel closing) ++ deepenHeadings rest))) := by
  have closes : TakesRow closing (['\n'] ++ rest) := by
    rcases Nat.lt_or_eq_of_le few' with fewer | rfl
    · exact .inr ⟨fewer, by simp⟩
    · exact .inl rfl
  have matched := heading_matches_title isOpened few isClosed titled inline unsigned closes
    (.inl rfl)
  have changed := deepenHeading_title isOpened isClosed titled unsigned
    (by decide : ∀ c ∈ ['\n'], isBlank c)
  rw [append_ending] at matched changed ⊢
  rw [deepenHeadings_append_feed matched, changed]
  simp

/-- Of more than four signs behind the title the heading takes four, and the others stay behind
it on the line. -/
theorem deepenHeadings_of_many_closing (isOpened : 0 < opening) (titled : title ≠ [])
    (inline : '\n' ∉ title) (unsigned : '=' ∉ title) (rest : Text) (few : opening ≤ 5)
    (many : 4 < closing) :
    deepenHeadings (signs opening ++ (title ++ (signs closing ++ '\n' :: rest))) =
      '\n' :: (signs (deeperLevel opening) ++
        (title ++ (signs closing ++ '\n' :: deepenHeadings rest))) := by
  obtain ⟨more, rfl⟩ := Nat.exists_eq_add_of_lt many
  have matched : heading.Matches true (signs opening ++ (title ++ (signs 4 ++ [])))
      (signs (more + 1) ++ '\n' :: rest) :=
    heading_matches_title isOpened few (by decide) titled inline unsigned (.inl rfl)
      (.inr ⟨rfl, by simp [signs, List.replicate_succ]⟩)
  have changed := deepenHeading_title isOpened (by decide : 0 < 4) titled unsigned
    (by simp : ∀ c ∈ ([] : Text), isBlank c)
  have inlineHeading : '\n' ∉ signs opening ++ (title ++ (signs 4 ++ [])) := by
    simp [inline, inline_signs]
  have row : signs (4 + more + 1) = signs 4 ++ signs (more + 1) :=
    signs_add 4 (more + 1)
  have adapted := deepenHeadings_append_line matched inlineHeading (inline_signs _)
  rw [changed] at adapted
  simpa [row, deeperLevel] using adapted

/-- From the sixth on, signs before a title make a heading without it. -/
theorem deepenHeadings_of_many_opening (titled : title ≠ []) (inline : '\n' ∉ title)
    (unsigned : '=' ∉ title) (rest : Text) (many : 6 ≤ opening) :
    deepenHeadings (signs opening ++ (title ++ (signs closing ++ '\n' :: rest))) =
      '\n' :: (signs opening ++ (title ++ (signs closing ++ '\n' :: deepenHeadings rest))) := by
  obtain ⟨c, title, rfl⟩ := List.exists_cons_of_ne_nil titled
  obtain ⟨row, left, rfl, isClosed, closes, inlineHead⟩ : ∃ row left, opening = 5 + row + left ∧
      0 < row ∧ TakesRow row (signs left ++ (c :: title ++ (signs closing ++ '\n' :: rest))) ∧
      (signs left ++ (c :: title ++ (signs closing ++ '\n' :: rest))).head? ≠ some '\n' := by
    rw [List.mem_cons, not_or] at inline unsigned
    by_cases fits : opening < 9
    · exact ⟨opening - 5, 0, by omega, by omega,
        .inr ⟨by omega, by simpa [signs] using Ne.symm unsigned.1⟩,
        by simpa [signs] using Ne.symm inline.1⟩
    · obtain ⟨left, rfl⟩ := Nat.exists_eq_add_of_le (Nat.le_of_not_lt fits)
      refine ⟨4, left, rfl, by decide, .inl rfl, ?_⟩
      cases left with
      | zero => simpa [signs] using Ne.symm inline.1
      | succ left => simp [signs, List.replicate_succ]
  have matched := heading_matches_signs isClosed closes inlineHead
  have inlineLine : '\n' ∉ signs left ++ (c :: title ++ signs closing) := by
    simp only [List.mem_append, inline, inline_signs, or_self, not_false_eq_true]
  rw [append_ending] at matched
  have adapted := deepenHeadings_append_line matched (inline_signs _) inlineLine
  rw [deepenHeading_signs (by omega)] at adapted
  rw [signs_add (5 + row) left]
  simpa using adapted

/-- A title between signs on a line of its own becomes a heading one level deeper on either
side; what has four signs or more on a side keeps them, and from the sixth in front on nothing
is changed but that a line feed sets the line off. -/
theorem deepenHeadings_line (isOpened : 0 < opening) (isClosed : 0 < closing)
    (titled : title ≠ []) (inline : '\n' ∉ title) (unsigned : '=' ∉ title) (rest : Text) :
    (opening ≤ 5 → closing ≤ 4 →
      deepenHeadings (signs opening ++ (title ++ (signs closing ++ '\n' :: rest))) =
        '\n' :: (signs (deeperLevel opening) ++
          (title ++ (signs (deeperLevel closing) ++ deepenHeadings rest)))) ∧
    (opening ≤ 5 → 4 < closing →
      deepenHeadings (signs opening ++ (title ++ (signs closing ++ '\n' :: rest))) =
        '\n' :: (signs (deeperLevel opening) ++
          (title ++ (signs closing ++ '\n' :: deepenHeadings rest)))) ∧
    (6 ≤ opening →
      deepenHeadings (signs opening ++ (title ++ (signs closing ++ '\n' :: rest))) =
        '\n' :: (signs opening ++ (title ++ (signs closing ++ '\n' :: deepenHeadings rest)))) :=
  ⟨deepenHeadings_of_few isOpened isClosed titled inline unsigned rest,
    deepenHeadings_of_many_closing isOpened titled inline unsigned rest,
    deepenHeadings_of_many_opening titled inline unsigned rest⟩

end Levels

/-- Headings with more signs on one side than on the other, in front of another heading. -/
theorem deepenHeadings_line_uneven :
    (0 < 5 ∧ 0 < 3 ∧ 0 < 6 ∧ 0 < 10) ∧ " A ".toList ≠ [] ∧ '\n' ∉ " A ".toList ∧
      '=' ∉ " A ".toList ∧
      deepenHeadings (signs 5 ++ (" A ".toList ++ (signs 3 ++ '\n' :: "==B==".toList))) =
        '\n' :: (signs 5 ++ (" A ".toList ++ (signs 4 ++ deepenHeadings "==B==".toList))) ∧
      deepenHeadings (signs 3 ++ (" A ".toList ++ (signs 6 ++ '\n' :: "==B==".toList))) =
        '\n' :: (signs 4 ++ (" A ".toList ++ (signs 6 ++ '\n' :: deepenHeadings "==B==".toList))) ∧
      deepenHeadings (signs 10 ++ (" A ".toList ++ (signs 3 ++ '\n' :: "==B==".toList))) =
        '\n' ::
          (signs 10 ++ (" A ".toList ++ (signs 3 ++ '\n' :: deepenHeadings "==B==".toList))) := by
  have titled : " A ".toList ≠ [] := by decide
  have inline : '\n' ∉ " A ".toList := by decide
  have unsigned : '=' ∉ " A ".toList := by decide
  have few := deepenHeadings_line (by decide : 0 < 5) (by decide : 0 < 3) titled inline
    unsigned "==B==".toList
  have closing := deepenHeadings_line (by decide : 0 < 3) (by decide : 0 < 6) titled inline
    unsigned "==B==".toList
  have opening := deepenHeadings_line (by decide : 0 < 10) (by decide : 0 < 3) titled
    inline unsigned "==B==".toList
  exact ⟨by decide, titled, inline, unsigned, few.1 (by decide) (by decide),
    closing.2.1 (by decide) (by decide), opening.2.2 (by decide)⟩

end DekiMigration.Markup
