/-
# Putting lines together

Lines make a text in two ways: line feeds stand between them, or each of them is closed by one.
Either way they can be read off the text again when none of them holds a line feed itself. A
text in the middle of which something is changed is best seen as closed lines and a rest, since
the rest may go on with the text behind it.
-/

import DekiMigration.Text

namespace DekiMigration.Text

/-- The lines of a text that are not empty. -/
def shownLines (text : Text) : List Text :=
  (lines text).filter (!·.isEmpty)

theorem mem_shownLines {text line : Text} (isShown : line ∈ shownLines text) :
    '\n' ∉ line ∧ line ≠ [] := by
  obtain ⟨isLine, nonempty⟩ := List.mem_filter.mp isShown
  exact ⟨inline_of_mem_lines isLine, by simpa using nonempty⟩

/-- Lines, each of them closed by a line feed. -/
def closeLines (items : List Text) : Text :=
  items.flatMap (· ++ ['\n'])

@[simp] theorem closeLines_nil : closeLines [] = [] := rfl

theorem closeLines_cons (item : Text) (items : List Text) :
    closeLines (item :: items) = item ++ '\n' :: closeLines items := by
  rw [closeLines, List.flatMap_cons, List.append_assoc]
  rfl

theorem unlines_cons (line : Text) {more : List Text} (nonempty : more ≠ []) :
    unlines (line :: more) = line ++ '\n' :: unlines more := by
  cases more with
  | nil => exact absurd rfl nonempty
  | cons next more => simp [unlines]

/-- With line feeds only between them, all lines but the last are closed. -/
theorem unlines_concat (items : List Text) (last : Text) :
    unlines (items ++ [last]) = closeLines items ++ last := by
  induction items with
  | nil => simp [unlines]
  | cons item items ih =>
      rw [List.cons_append, unlines_cons item (by simp), ih, closeLines_cons, List.append_assoc,
        List.cons_append]

/-- Every text is a number of closed lines and a rest on one line. -/
theorem exists_eq_closeLines_append (text : Text) :
    ∃ items last, text = closeLines items ++ last ∧ (∀ item ∈ items, '\n' ∉ item) ∧
      '\n' ∉ last := by
  have nonempty : lines text ≠ [] := List.splitOn_ne_nil '\n' text
  have split := List.dropLast_concat_getLast nonempty
  refine ⟨(lines text).dropLast, (lines text).getLast nonempty, ?_, fun item inside => ?_, ?_⟩
  · rw [← unlines_concat, split, unlines_lines]
  · exact inline_of_mem_lines (List.dropLast_subset _ inside)
  · exact inline_of_mem_lines (List.getLast_mem nonempty)

/-- Closed lines are told apart from what stands behind them. -/
theorem lines_closeLines_append {items : List Text} (inline : ∀ item ∈ items, '\n' ∉ item)
    (rest : Text) : lines (closeLines items ++ rest) = items ++ lines rest := by
  induction items with
  | nil => rfl
  | cons item items ih =>
      rw [List.forall_mem_cons] at inline
      rw [closeLines_cons, List.append_assoc, List.cons_append, lines_append_feed,
        lines_of_inline inline.1, ih inline.2]
      rfl

/-- A stretch without line feed lengthens the first line of the text behind it. -/
theorem lines_inline_append {stretch text head : Text} {more : List Text}
    (inline : '\n' ∉ stretch) (split : lines text = head :: more) :
    lines (stretch ++ text) = (stretch ++ head) :: more := by
  induction stretch with
  | nil => exact split
  | cons c stretch ih =>
      rw [List.mem_cons, not_or] at inline
      rw [List.cons_append, lines_cons (Ne.symm inline.1), ih inline.2]
      rfl

/-- Lines can be told apart again exactly when no line feed is inside one. -/
theorem lines_closeLines {items : List Text} :
    lines (closeLines items) = items ++ [[]] ↔ ∀ item ∈ items, '\n' ∉ item := by
  constructor
  · intro split item isItem
    have isLine : item ∈ lines (closeLines items) := by
      rw [split]
      exact List.mem_append_left _ isItem
    exact inline_of_mem_lines isLine
  · intro inline
    rw [← List.append_nil (closeLines items), lines_closeLines_append inline, lines_nil]

/-- There are as many line feeds as lines exactly when no further one is inside a line. -/
theorem count_closeLines {items : List Text} :
    (closeLines items).count '\n' = items.length ↔ ∀ item ∈ items, '\n' ∉ item := by
  have counted : (closeLines items).count '\n' =
      (items.map (·.count '\n')).sum + items.length := by
    induction items with
    | nil => rfl
    | cons item items ih =>
        rw [closeLines_cons, List.count_append, List.count_cons_self, ih, List.map_cons,
          List.sum_cons, List.length_cons]
        omega
  rw [counted, Nat.add_eq_right, List.sum_eq_zero_iff_forall_eq_nat, List.forall_mem_map]
  exact forall₂_congr fun item _ => List.count_eq_zero

end DekiMigration.Text
