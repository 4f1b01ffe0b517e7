/-
# The rows of tables

A table block is changed line by line: the line that opens it and the last one stay,
empty lines disappear, and every row between them is adapted for itself. So whatever
can be told of a text from its lines, and does not change for a row, does not change
for a block either, wherever in a text the block stands.
-/

import Mathlib.Data.List.Forall2
import DekiMigration.Proofs.Markup.Shape
import DekiMigration.Proofs.Text.Lines

namespace DekiMigration.Markup

open Text

/-- What holds of a text exactly when it holds on either side of any line feed. -/
def Linewise (motive : Text → Prop) : Prop :=
  ∀ before after, motive (before ++ '\n' :: after) ↔ motive before ∧ motive after

/-- What a row shows, with a bar for the mark of a heading cell in front when it may not stay. -/
def barred (first : Bool) : Text → Text
  | '!' :: cells => (if first then '!' else '|') :: cells
  | shown => shown

/-- What a row needs at its end so that its last cell is not empty. -/
def filling (shown : Text) : Text :=
  if ['|', '|'].isSuffixOf shown then " &nbsp;".toList else []

theorem barred_of_head {first : Bool} {shown : Text}
    (kept : first = true ∨ shown.head? ≠ some '!') : barred first shown = shown := by
  unfold barred
  split
  · rcases kept with rfl | other
    · rfl
    · exact absurd rfl other
  · rfl

theorem barred_eq_nil {first : Bool} {shown : Text} : barred first shown = [] ↔ shown = [] := by
  unfold barred
  split <;> simp

/-- A row is changed in what it shows, between its blanks, and filled behind them. -/
theorem adaptRow_eq (first : Bool) {front shown back : Text} (blankFront : ∀ c ∈ front, isBlank c)
    (solid : IsSolid shown) (blankBack : ∀ c ∈ back, isBlank c) :
    adaptRow first (front ++ (shown ++ back)) =
      front ++ (barred first shown ++ (back ++ filling shown)) := by
  have shown_eq : trim (front ++ (shown ++ back)) = shown := trim_eq blankFront solid blankBack
  have filled : ∀ plain : Text,
      (if ['|', '|'].isSuffixOf shown then plain ++ " &nbsp;".toList else plain) =
        plain ++ filling shown := by
    intro plain
    rw [filling]
    split
    · rfl
    · rw [List.append_nil]
  rw [adaptRow]
  simp only [shown_eq, filled]
  by_cases marked : (!first && decide (shown.head? = some '!')) = true
  · obtain ⟨later, head⟩ := Bool.and_eq_true_iff.mp marked
    obtain ⟨cells, rfl⟩ := List.head?_eq_some_iff.mp (of_decide_eq_true head)
    obtain rfl : first = false := by simpa using later
    have unmarked : '!' ∉ front := fun inside => absurd (blankFront _ inside) (by decide)
    rw [if_pos marked, List.cons_append, takeWhile_ne_append_cons unmarked]
    simp [barred]
  · have kept : first = true ∨ shown.head? ≠ some '!' := by
      cases first with
      | true => exact .inl rfl
      | false => exact .inr (by simpa using marked)
    rw [if_neg marked, barred_of_head kept]
    simp only [List.append_assoc]

/-- So is every row: its blanks stay around what it shows. -/
theorem exists_adaptRow (first : Bool) (row : Text) :
    ∃ front back, row = front ++ (trim row ++ back) ∧ (∀ c ∈ front, isBlank c) ∧
      (∀ c ∈ back, isBlank c) ∧
      adaptRow first row =
        front ++ (barred first (trim row) ++ (back ++ filling (trim row))) := by
  obtain ⟨front, back, row_eq, blankFront, blankBack⟩ := exists_trim row
  have adapted := adaptRow_eq first blankFront (isSolid_trim row) blankBack
  rw [← row_eq] at adapted
  exact ⟨front, back, row_eq, blankFront, blankBack, adapted⟩

/-- A row gets a bar for an exclamation mark in front of all but blanks, and a hard space at its
end; each of both may also not happen. -/
theorem adaptRow_shape (first : Bool) (row : Text) :
    ∃ plain, (plain = row ∨
        ∃ indent rest, (∀ c ∈ indent, isBlank c) ∧ row = indent ++ '!' :: rest ∧
          plain = indent ++ '|' :: rest) ∧
      (adaptRow first row = plain ∨
        plain ≠ [] ∧ adaptRow first row = plain ++ " &nbsp;".toList) := by
  obtain ⟨front, back, row_eq, blankFront, -, adapted⟩ := exists_adaptRow first row
  refine ⟨front ++ (barred first (trim row) ++ back), ?_, ?_⟩
  · by_cases kept : first = true ∨ (trim row).head? ≠ some '!'
    · exact .inl (by rw [barred_of_head kept, ← row_eq])
    · rw [not_or, not_not] at kept
      obtain ⟨cells, core_eq⟩ := List.head?_eq_some_iff.mp kept.2
      refine .inr ⟨front, cells ++ back, blankFront, ?_, ?_⟩
      · conv => lhs; rw [row_eq, core_eq]
        simp
      · simp [core_eq, barred, kept.1]
  · by_cases closed : ['|', '|'].isSuffixOf (trim row) = true
    · have shown : barred first (trim row) ≠ [] := by
        rw [ne_eq, barred_eq_nil]
        intro empty
        rw [empty] at closed
        exact absurd closed (by decide)
      refine .inr ⟨by simp [shown], ?_⟩
      simp [adapted, filling, closed]
    · refine .inl ?_
      simp [adapted, filling, closed]

theorem adaptRow_inline {first : Bool} {row : Text} (inline : '\n' ∉ row) :
    '\n' ∉ adaptRow first row := by
  obtain ⟨plain, plain_eq, adapted⟩ := adaptRow_shape first row
  have inlinePlain : '\n' ∉ plain := by
    rcases plain_eq with rfl | ⟨indent, rest, -, rfl, rfl⟩
    · exact inline
    · simpa using inline
  rcases adapted with adapted | ⟨-, adapted⟩
  · rwa [adapted]
  · simpa [adapted] using inlinePlain

/-- How a row can be written: as it is, or adapted. -/
def IsRowFor (row written : Text) : Prop :=
  written = row ∨ ∃ first, written = adaptRow first row

/-- Row by row, the lines between the first and the last are written as the block wants them. -/
theorem adaptInner_rows (rows : List Text) : List.Forall₂ IsRowFor rows (adaptInner rows) := by
  have later : ∀ rows : List Text, List.Forall₂ IsRowFor rows (rows.map (adaptRow false)) :=
    fun rows => List.forall₂_map_right_iff.mpr
      (List.forall₂_same.mpr fun row _ => .inr ⟨false, rfl⟩)
  have adapted : ∀ rows : List Text, List.Forall₂ IsRowFor rows (adaptRows rows) := by
    intro rows
    cases rows with
    | nil => exact .nil
    | cons row rows => exact .cons (.inr ⟨true, rfl⟩) (later rows)
  cases rows with
  | nil => exact .nil
  | cons caption rows =>
      rw [adaptInner]
      split
      · exact .cons (.inl rfl) (adapted rows)
      · exact adapted (caption :: rows)

/-- What holds of the rows as they were exactly when it holds of them as they are written, row by
row, holds of all of them together in the same way. -/
theorem forall_mem_iff_of_forall₂ {relation : Text → Text → Prop} {motive : Text → Prop}
    {rows written : List Text} (corresponding : List.Forall₂ relation rows written)
    (step : ∀ row ∈ rows, ∀ line, relation row line → (motive line ↔ motive row)) :
    (∀ line ∈ written, motive line) ↔ ∀ row ∈ rows, motive row := by
  induction corresponding with
  | nil => simp
  | cons related _ ih =>
      rw [List.forall_mem_cons] at step
      rw [List.forall_mem_cons, List.forall_mem_cons, step.1 _ related, ih step.2]

theorem adaptInner_inline {rows : List Text} (inline : ∀ row ∈ rows, '\n' ∉ row) :
    ∀ line ∈ adaptInner rows, '\n' ∉ line := by
  refine (forall_mem_iff_of_forall₂ (motive := ('\n' ∉ ·)) (adaptInner_rows rows)
    fun row isRow line written => ?_).mpr inline
  rcases written with rfl | ⟨first, rfl⟩
  · rfl
  · exact iff_of_true (adaptRow_inline (inline row isRow)) (inline row isRow)

/-- A table block is a sequence of closed lines and a last one. Neither the first nor the last of
them is empty. -/
theorem table_lines {lineStart : Bool} {lexeme after : Text}
    (matched : table.Matches lineStart lexeme after) :
    ∃ opening rows last, lexeme = closeLines (opening :: rows) ++ last ∧
      opening ≠ [] ∧ last ≠ [] ∧ (∀ row ∈ opening :: rows, '\n' ∉ row) ∧ '\n' ∉ last := by
  obtain ⟨attributes, body, -, inline, rfl⟩ := table_shape matched
  obtain ⟨rows, last, rfl, inlineRows, inlineLast⟩ := exists_eq_closeLines_append body
  refine ⟨'{' :: '|' :: attributes, rows, last ++ ['|', '}'], ?_, by simp, by simp, ?_, ?_⟩
  · simp [closeLines_cons]
  · rw [List.forall_mem_cons]
    exact ⟨by simp [inline], inlineRows⟩
  · simp [inlineLast]

/-- The lines of an adapted block are those that are not empty, with the rows adapted. A block
without rows is left alone. -/
theorem adaptTable_of_shown {block opening last : Text} {rows : List Text}
    (shown : shownLines block = opening :: (rows ++ [last])) :
    adaptTable block =
      if rows = [] then block else closeLines (opening :: adaptInner rows) ++ last := by
  rw [adaptTable, ← shownLines, shown]
  match rows with
  | [] => rfl
  | [row] => exact unlines_concat (opening :: adaptInner [row]) last
  | row :: next :: rows =>
      show unlines (opening :: (adaptInner ((row :: next :: rows ++ [last]).dropLast) ++
        (row :: next :: rows ++ [last]).getLast?.toList)) = _
      rw [List.dropLast_concat, List.getLast?_concat]
      exact unlines_concat (opening :: adaptInner (row :: next :: rows)) last

theorem adaptTable_closeLines {opening last : Text} {rows : List Text} (opened : opening ≠ [])
    (closed : last ≠ []) (inline : ∀ row ∈ opening :: rows, '\n' ∉ row) (inlineLast : '\n' ∉ last) :
    adaptTable (closeLines (opening :: rows) ++ last) =
      if rows.filter (!·.isEmpty) = [] then closeLines (opening :: rows) ++ last
      else closeLines (opening :: adaptInner (rows.filter (!·.isEmpty))) ++ last := by
  refine adaptTable_of_shown ?_
  rw [shownLines, lines_closeLines_append inline, lines_of_inline inlineLast]
  simp [opened, closed]

/-- What is told line by line of a text with closed lines in it. -/
theorem Linewise.closeLines_iff {motive : Text → Prop} (linewise : Linewise motive)
    (before opening after : Text) (rows : List Text) :
    motive (before ++ (closeLines (opening :: rows) ++ after)) ↔
      motive (before ++ opening) ∧ (∀ row ∈ rows, motive row) ∧ motive after := by
  induction rows generalizing before opening with
  | nil =>
      have split : before ++ (closeLines [opening] ++ after) =
          before ++ opening ++ '\n' :: after := by simp [closeLines_cons]
      rw [split, linewise]
      simp
  | cons row rows ih =>
      have split : before ++ (closeLines (opening :: row :: rows) ++ after) =
          before ++ opening ++ '\n' :: ([] ++ (closeLines (row :: rows) ++ after)) := by
        simp [closeLines_cons]
      rw [split, linewise, ih, List.forall_mem_cons, List.nil_append, and_assoc]

/-- What is told line by line, and does not change for a row, does not change for a
table block. -/
theorem Linewise.adaptTable_iff {motive : Text → Prop} (linewise : Linewise motive)
    (empty : motive []) (row_iff : ∀ first row, '\n' ∉ row →
      (motive (adaptRow first row) ↔ motive row))
    {before lexeme after : Text} {lineStart : Bool}
    (matched : table.Matches lineStart lexeme after) :
    motive (before ++ (adaptTable lexeme ++ after)) ↔ motive (before ++ (lexeme ++ after)) := by
  obtain ⟨opening, rows, last, rfl, opened, closed, inline, inlineLast⟩ := table_lines matched
  rw [adaptTable_closeLines opened closed inline inlineLast]
  split
  · rfl
  · have inner_iff : (∀ line ∈ adaptInner (rows.filter (!·.isEmpty)), motive line) ↔
        ∀ row ∈ rows.filter (!·.isEmpty), motive row := by
      refine forall_mem_iff_of_forall₂ (adaptInner_rows _) fun row kept line written => ?_
      have inlineRow := inline row (List.mem_cons_of_mem _ (List.mem_filter.mp kept).1)
      rcases written with rfl | ⟨first, rfl⟩
      · rfl
      · exact row_iff first row inlineRow
    have shown_iff : (∀ row ∈ rows.filter (!·.isEmpty), motive row) ↔ ∀ row ∈ rows, motive row := by
      refine ⟨fun all row isRow => ?_, fun all row kept => all row (List.mem_filter.mp kept).1⟩
      by_cases isEmpty : row = []
      · exact isEmpty ▸ empty
      · exact all row (by simp [isRow, isEmpty])
    rw [List.append_assoc, List.append_assoc, linewise.closeLines_iff, linewise.closeLines_iff,
      inner_iff, shown_iff]

end DekiMigration.Markup
