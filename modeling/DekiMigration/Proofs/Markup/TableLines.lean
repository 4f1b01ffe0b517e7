/-
# The lines of a page with tables

Adapting the tables of a page changes some of its lines and drops empty ones, and no other line
is lost, added or moved. A line can only change when it lies inside a table block, between the
line with the mark that opens the block and the line with the mark that closes it. The blocks may
stand anywhere in their lines, several of them on one line, so lines and blocks are both told by
their places in the text, and the proof goes along the walk that finds the blocks.
-/

import DekiMigration.Proofs.Markup.TableRows

namespace DekiMigration.Markup

open Text

/-- A line of a text, and where in the text it stands. -/
structure PlacedLine where
  span : Span
  text : Text
  deriving DecidableEq, Repr

/-- Lines with their places in a text, when the first of them begins at `position`. -/
def placeLines : (position : Nat) → List Text → List PlacedLine
  | _, [] => []
  | position, line :: more =>
    ⟨⟨position, position + line.length⟩, line⟩ :: placeLines (position + line.length + 1) more

/-- The lines of a text with their places in it. -/
def placedLines (text : Text) : List PlacedLine :=
  placeLines 0 (lines text)

/-- The lines stand in the text where their places say. -/
theorem stretches_placedLines (text : Text) :
    stretches text ((placedLines text).map (·.span)) = lines text := by
  -- Behind each line but the first the search stands in front of a line feed.
  suffices walk : ∀ (rows : List Text) (gap : Text) (cursor : Nat) (found : List Text),
      stretches.go cursor (gap ++ unlines rows) found
        ((placeLines (cursor + gap.length) rows).map (·.span)) = found.reverse ++ rows by
    have whole := walk (lines text) [] 0 []
    rwa [unlines_lines] at whole
  intro rows
  induction rows with
  | nil => simp [placeLines, stretches.go]
  | cons row rows ih =>
      intro gap cursor found
      rw [placeLines, List.map_cons, stretches.go]
      simp only [List.splitAt_eq, Nat.add_sub_cancel_left, List.drop_left]
      cases rows with
      | nil => simp [placeLines, stretches.go, unlines]
      | cons next more =>
          have step := ih ['\n'] (cursor + gap.length + row.length) (row :: found)
          rw [unlines_cons row (List.cons_ne_nil next more), List.take_left, List.drop_left]
          simpa using step

theorem map_text_placeLines (position : Nat) (rows : List Text) :
    (placeLines position rows).map (·.text) = rows := by
  induction rows generalizing position with
  | nil => rfl
  | cons row rows ih => rw [placeLines, List.map_cons, ih]

theorem map_text_shown (position : Nat) (rows : List Text) :
    ((placeLines position rows).filter (!·.text.isEmpty)).map (·.text) =
      rows.filter (!·.isEmpty) := by
  conv_rhs => rw [← map_text_placeLines position rows, List.filter_map]
  rfl

theorem placeLines_append (position : Nat) (rows more : List Text) :
    placeLines position (rows ++ more) =
      placeLines position rows ++ placeLines (position + (closeLines rows).length) more := by
  induction rows generalizing position with
  | nil => rfl
  | cons row rows ih =>
      have place : position + row.length + 1 + (closeLines rows).length =
          position + (closeLines (row :: rows)).length := by
        rw [closeLines_cons, List.length_append, List.length_cons]
        omega
      rw [List.cons_append, placeLines, ih, place, placeLines, List.cons_append]

theorem le_of_mem_placeLines {position : Nat} {rows : List Text} {line : PlacedLine}
    (isLine : line ∈ placeLines position rows) :
    position ≤ line.span.start ∧ line.span.start ≤ line.span.stop ∧
      line.span.stop < position + (closeLines rows).length := by
  induction rows generalizing position with
  | nil => cases isLine
  | cons row rows ih =>
      rw [closeLines_cons, List.length_append, List.length_cons]
      rcases List.mem_cons.mp isLine with rfl | later
      · refine ⟨Nat.le_refl _, Nat.le_add_right _ _, ?_⟩
        show position + row.length < _
        omega
      · have behind := ih later
        omega

/-- How a row of a table may be written: with a bar for the exclamation mark in front of all but
blanks, and with a hard space behind it. -/
def IsWrittenRow (row written : Text) : Prop :=
  ∃ plain, (plain = row ∨
      ∃ indent rest, (∀ c ∈ indent, isBlank c) ∧ row = indent ++ '!' :: rest ∧
        plain = indent ++ '|' :: rest) ∧
    (written = plain ∨ written = plain ++ " &nbsp;".toList)

theorem isWrittenRow_refl (row : Text) : IsWrittenRow row row :=
  ⟨row, .inl rfl, .inl rfl⟩

theorem IsRowFor.isWrittenRow {row written : Text} (isRow : IsRowFor row written) :
    IsWrittenRow row written := by
  rcases isRow with rfl | ⟨first, rfl⟩
  · exact isWrittenRow_refl _
  · obtain ⟨plain, plain_eq, adapted⟩ := adaptRow_shape first row
    exact ⟨plain, plain_eq, adapted.imp_right And.right⟩

theorem IsWrittenRow.nonempty {row written : Text} (isWritten : IsWrittenRow row written)
    (nonempty : row ≠ []) : written ≠ [] := by
  obtain ⟨plain, rfl | ⟨indent, rest, -, rfl, rfl⟩, rfl | rfl⟩ := isWritten
  · exact nonempty
  · simp
  · simp
  · simp

/-- A line lies inside a table block: the block begins on a line before it and ends on one
behind it. -/
def IsInside (blocks : List Span) (line : Span) : Prop :=
  ∃ block ∈ blocks, block.start < line.start ∧ line.stop < block.stop

/-- A line with no part in any table block, or with the mark that opens one of them or the mark
that closes one. -/
inductive IsSpared (blocks : List Span) (line : Span) : Prop
  | outside (apart : ∀ block ∈ blocks, line.stop ≤ block.start ∨ block.stop ≤ line.start) :
      IsSpared blocks line
  | opens {block : Span} (isBlock : block ∈ blocks)
      (holds : line.start ≤ block.start ∧ block.start + 2 ≤ line.stop) : IsSpared blocks line
  | closes {block : Span} (isBlock : block ∈ blocks)
      (holds : line.start + 2 ≤ block.stop ∧ block.stop ≤ line.stop) : IsSpared blocks line

/-- Since blocks lie one behind the other, a line with a mark of one of them lies inside none. -/
theorem IsSpared.not_isInside {position : Nat} {pieces : List Piece} {line : Span}
    (proper : line.start ≤ line.stop) (spared : IsSpared (spansOf position pieces) line) :
    ¬ IsInside (spansOf position pieces) line := by
  rintro ⟨block, isBlock, before, behind⟩
  have blockProper := (le_of_mem_spansOf isBlock).2
  cases spared with
  | outside outside =>
      have beside := outside block isBlock
      omega
  | @opens other isOther holds =>
      have otherProper := (le_of_mem_spansOf isOther).2
      rcases eq_or_beside_of_mem_spansOf isBlock isOther with rfl | beside <;> omega
  | @closes other isOther holds =>
      have otherProper := (le_of_mem_spansOf isOther).2
      rcases eq_or_beside_of_mem_spansOf isBlock isOther with rfl | beside <;> omega

/-- What is written for a line: a row, and the line itself unless it lies inside a block. -/
structure IsLineFor (blocks : List Span) (line : PlacedLine) (written : Text) : Prop where
  row : IsWrittenRow line.text written
  kept : ¬ IsInside blocks line.span → written = line.text

/-- Lines from a position of a text on correspond to written lines: those that are not empty do,
one by one and in their order. -/
def Correspond (blocks : List Span) (position : Nat) (before after : List Text) : Prop :=
  List.Forall₂ (IsLineFor blocks) ((placeLines position before).filter (!·.text.isEmpty))
    (after.filter (!·.isEmpty))

section Correspond

variable {blocks : List Span} {position : Nat} {before after : List Text}

theorem correspond_refl (blocks : List Span) (position : Nat) (rows : List Text) :
    Correspond blocks position rows rows := by
  rw [Correspond, ← map_text_shown position rows, List.forall₂_map_right_iff]
  exact List.forall₂_same.mpr fun line _ => ⟨isWrittenRow_refl line.text, fun _ => rfl⟩

theorem Correspond.append {before' after' : List Text}
    (front : Correspond blocks position before after)
    (back : Correspond blocks (position + (closeLines before).length) before' after') :
    Correspond blocks position (before ++ before') (after ++ after') := by
  rw [Correspond, placeLines_append, List.filter_append, List.filter_append]
  exact List.rel_append front back

/-- A line inside a block is inside one of more blocks. -/
theorem Correspond.mono {others : List Span} (among : blocks ⊆ others)
    (correspond : Correspond blocks position before after) :
    Correspond others position before after := by
  refine List.Forall₂.imp (fun line written isLine => ⟨isLine.row, fun outside => ?_⟩) correspond
  refine isLine.kept fun ⟨block, isBlock, inside⟩ => outside ⟨block, among isBlock, inside⟩

/-- The rows of a block correspond to the rows that are written for it. -/
theorem correspond_adaptInner {block : Span} {rows : List Text} (isBlock : block ∈ blocks)
    (begins : block.start < position)
    (ends : position + (closeLines rows).length ≤ block.stop) :
    Correspond blocks position rows (adaptInner (rows.filter (!·.isEmpty))) := by
  have inside : ∀ line ∈ (placeLines position rows).filter (!·.text.isEmpty),
      IsInside blocks line.span := by
    intro line isLine
    have place := le_of_mem_placeLines (List.mem_filter.mp isLine).1
    exact ⟨block, isBlock, by omega, by omega⟩
  have written := adaptInner_rows (rows.filter (!·.isEmpty))
  have shown : (adaptInner (rows.filter (!·.isEmpty))).filter (!·.isEmpty) =
      adaptInner (rows.filter (!·.isEmpty)) := by
    rw [List.filter_eq_self]
    refine (forall_mem_iff_of_forall₂ written fun row isRow line isRowFor => ?_).mpr
      fun row isRow => (List.mem_filter.mp isRow).2
    have nonempty : row ≠ [] := by simpa using (List.mem_filter.mp isRow).2
    simp [nonempty, isRowFor.isWrittenRow.nonempty nonempty]
  rw [← map_text_shown position rows, List.forall₂_map_left_iff] at written
  rw [Correspond, shown, ← map_text_shown position rows]
  exact ((List.forall₂_and_left _ _).mpr ⟨inside, written⟩).imp fun line row isRow =>
    ⟨isRow.2.isWrittenRow, fun outside => absurd isRow.1 outside⟩

end Correspond

/-- An adapted block has the lines of the block, with the rows kept or adapted. -/
theorem adaptTable_lines {lineStart : Bool} {lexeme after : Text}
    (matched : table.Matches lineStart lexeme after) :
    ∃ opening rows last written, lexeme = closeLines (opening :: rows) ++ last ∧
      adaptTable lexeme = closeLines (opening :: written) ++ last ∧
      (∀ row ∈ opening :: rows, '\n' ∉ row) ∧ (∀ row ∈ opening :: written, '\n' ∉ row) ∧
      '\n' ∉ last ∧ (written = rows ∨ written = adaptInner (rows.filter (!·.isEmpty))) := by
  obtain ⟨opening, rows, last, rfl, opened, closed, inline, inlineLast⟩ := table_lines matched
  have adapted := adaptTable_closeLines opened closed inline inlineLast
  split at adapted
  · exact ⟨opening, rows, last, rows, rfl, adapted, inline, inline, inlineLast, .inl rfl⟩
  · refine ⟨opening, rows, last, _, rfl, adapted, inline, ?_, inlineLast, .inr rfl⟩
    rw [List.forall_mem_cons] at inline ⊢
    exact ⟨inline.1, adaptInner_inline fun row isRow => inline.2 row (List.mem_filter.mp isRow).1⟩

/-- From every place of the walk on, the line that goes on there stays as it is, and the lines
behind it correspond to what is written for them. -/
theorem exists_lines_adaptTables (lineStart : Bool) (text : Text) (position : Nat) :
    ∃ head more written, lines text = head :: more ∧
      lines (table.substituteFrom (fun block => some (adaptTable block)) lineStart text) =
        head :: written ∧
      Correspond (spansOf position (table.piecesFrom lineStart text))
        (position + head.length + 1) more written := by
  induction lineStart, text using Pattern.walk_induction table generalizing position with
  | nil lineStart =>
      rw [Pattern.substituteFrom_nil]
      exact ⟨[], [], [], lines_nil, lines_nil, .nil⟩
  | @missed lineStart c rest here ih =>
      obtain ⟨head, more, written, lines_eq, written_eq, correspond⟩ := ih (position + 1)
      rw [here.substituteFrom_cons, here.piecesFrom_cons]
      by_cases feed : c = '\n'
      · subst feed
        refine ⟨[], head :: more, head :: written, ?_, ?_, ?_⟩
        · rw [lines_feed, lines_eq]
        · rw [lines_feed, written_eq]
        · refine Correspond.append (correspond_refl _ _ [head]) ?_
          rw [spansOf]
          simpa [closeLines_cons, Nat.add_assoc] using correspond
      · refine ⟨c :: head, more, written, ?_, ?_, ?_⟩
        · rw [lines_cons feed, lines_eq, List.modifyHead_cons]
        · rw [lines_cons feed, written_eq, List.modifyHead_cons]
        · have place : position + (c :: head).length + 1 = position + 1 + head.length + 1 := by
            rw [List.length_cons]
            omega
          rw [place]
          exact correspond
  | @matched lineStart lexeme after here ih =>
      obtain ⟨head, more, written, lines_eq, written_eq, correspond⟩ :=
        ih (position + lexeme.length)
      obtain ⟨opening, rows, last, adapted, rfl, adapted_eq, inline, inlineAdapted, inlineLast,
        isAdapted⟩ := adaptTable_lines here
      rw [here.substituteFrom_append, here.piecesFrom_append, Option.getD_some, adapted_eq]
      -- The last line of the block goes on with the text behind it.
      refine ⟨opening, rows ++ (last ++ head) :: more, adapted ++ (last ++ head) :: written,
        ?_, ?_, ?_⟩
      · rw [List.append_assoc, lines_closeLines_append inline,
          lines_inline_append inlineLast lines_eq]
        rfl
      · rw [List.append_assoc, lines_closeLines_append inlineAdapted,
          lines_inline_append inlineLast written_eq]
        rfl
      · have width : (closeLines (opening :: rows) ++ last).length =
            opening.length + 1 + (closeLines rows).length + last.length := by
          rw [List.length_append, closeLines_cons, List.length_append, List.length_cons]
          omega
        refine Correspond.append ?_ (Correspond.append (correspond_refl _ _ [last ++ head]) ?_)
        · rcases isAdapted with rfl | rfl
          · exact correspond_refl _ _ _
          · refine correspond_adaptInner List.mem_cons_self ?_ ?_
            · exact Nat.lt_succ_of_le (Nat.le_add_right _ _)
            · show _ ≤ position + (closeLines (opening :: rows) ++ last).length
              omega
        · have place : position + opening.length + 1 + (closeLines rows).length +
              (closeLines [last ++ head]).length =
                position + (closeLines (opening :: rows) ++ last).length + head.length + 1 := by
            rw [width, closeLines_cons, closeLines_nil, List.length_append, List.length_append,
              List.length_singleton]
            omega
          rw [place]
          exact correspond.mono (List.subset_cons_self _ _)

/-- The rows of every page stay in their order, and those outside the blocks as they are. -/
theorem correspond_adaptTables (text : Text) :
    Correspond (table.spans text) 0 (lines text) (lines (adaptTables text)) := by
  obtain ⟨head, more, written, lines_eq, written_eq, correspond⟩ :=
    exists_lines_adaptTables true text 0
  rw [adaptTables, Pattern.substitute_eq, Pattern.spans_eq, lines_eq, written_eq]
  refine Correspond.append (correspond_refl _ _ [head]) ?_
  simpa [closeLines_cons, Nat.add_assoc] using correspond

/-- The mark of a heading cell is found in every row that shows it in front, and nothing but
blanks before it. -/
theorem adaptRow_of_marked {row : Text} (marked : (trim row).head? = some '!') :
    ∃ indent rest, cutAt? '!' row = some (indent, rest) ∧ (∀ c ∈ indent, isBlank c) ∧
      adaptRow false row = indent ++ '|' :: (rest ++ filling (trim row)) := by
  obtain ⟨front, back, row_eq, blankFront, -, adapted⟩ := exists_adaptRow false row
  obtain ⟨cells, shown_eq⟩ := List.head?_eq_some_iff.mp marked
  have unmarked : '!' ∉ front := fun inside => absurd (blankFront _ inside) (by decide)
  refine ⟨front, cells ++ back, cutAt?_eq_some.mpr ⟨?_, unmarked⟩, blankFront, ?_⟩
  · conv => lhs; rw [row_eq, shown_eq]
    rfl
  · rw [adapted, shown_eq]
    simp [barred]

/-- Adapting the tables of a page keeps its lines: one by one and in their order, those that are
not empty are written as they are or as rows, and only those inside a block as rows. The mark
that a row has in front is always found in it. -/
theorem adaptTables_lineByLine :
    (∀ text, List.Forall₂
      (fun line written => IsWrittenRow line.text written ∧
        (IsSpared (table.spans text) line.span → written = line.text))
      ((placedLines text).filter (!·.text.isEmpty)) (shownLines (adaptTables text))) ∧
      ∀ row, (trim row).head? = some '!' →
        ∃ indent rest, cutAt? '!' row = some (indent, rest) ∧ (∀ c ∈ indent, isBlank c) ∧
          adaptRow false row = indent ++ '|' :: (rest ++ filling (trim row)) := by
  refine ⟨fun text => ?_, fun row => adaptRow_of_marked⟩
  have proper : ∀ line ∈ (placedLines text).filter (!·.text.isEmpty),
      line.span.start ≤ line.span.stop := fun line isLine =>
    (le_of_mem_placeLines (List.mem_filter.mp isLine).1).2.1
  have correspond := (List.forall₂_and_left _ _).mpr ⟨proper, correspond_adaptTables text⟩
  refine correspond.imp fun line written isLine => ⟨isLine.2.row, fun spared => isLine.2.kept ?_⟩
  rw [Pattern.spans_eq] at spared ⊢
  exact spared.not_isInside isLine.1

/-- A block that begins and ends in the middle of a line. The line that closes it has two bars at
its end, behind the block, and stays as it is. -/
theorem adaptTables_lineByLine_midLine :
    IsSpared (table.spans "a \x7b| x\n!b\n\n !c ||\n|\x7d! ||".toList) ⟨18, 24⟩ ∧
      List.Forall₂
        (fun line written => IsWrittenRow line.text written ∧
          (IsSpared (table.spans "a \x7b| x\n!b\n\n !c ||\n|\x7d! ||".toList) line.span →
            written = line.text))
        ((placedLines "a \x7b| x\n!b\n\n !c ||\n|\x7d! ||".toList).filter (!·.text.isEmpty))
        (shownLines (adaptTables "a \x7b| x\n!b\n\n !c ||\n|\x7d! ||".toList)) ∧
      (trim " !c ||".toList).head? = some '!' ∧
      ∃ indent rest, cutAt? '!' " !c ||".toList = some (indent, rest) ∧
        (∀ c ∈ indent, isBlank c) ∧
          adaptRow false " !c ||".toList =
            indent ++ '|' :: (rest ++ filling (trim " !c ||".toList)) := by
  have marked : (trim " !c ||".toList).head? = some '!' := by decide
  have closes : (⟨2, 20⟩ : Span) ∈ table.spans "a \x7b| x\n!b\n\n !c ||\n|\x7d! ||".toList := by
    decide
  exact ⟨.closes closes (by decide), adaptTables_lineByLine.1 _, marked,
    adaptTables_lineByLine.2 _ marked⟩

end DekiMigration.Markup
