/-
# Deki's rules for tables

Deki takes heading cells in the first row of a table only, and wants something in the last cell
of every row. An adapted table never breaks the first rule. It breaks the second in one case:
what a row ends in is looked at before its mark becomes a bar, so a later row that shows the mark
and one bar is left with two bars and nothing behind them.
-/

import DekiMigration.Proofs.Markup.TableRows

namespace DekiMigration.Markup

open Text

theorem isSolid_barred (first : Bool) {shown : Text} (solid : IsSolid shown) :
    IsSolid (barred first shown) := by
  unfold barred
  split
  · next cells =>
      have visible : isBlank (if first then '!' else '|') = false := by cases first <;> decide
      constructor
      · intro c isHead
        rw [List.head?_cons, Option.mem_some_iff] at isHead
        exact isHead ▸ visible
      · intro c isLast
        cases cells with
        | nil =>
            rw [List.getLast?_singleton, Option.mem_some_iff] at isLast
            exact isLast ▸ visible
        | cons d cells =>
            rw [List.getLast?_cons_cons] at isLast
            exact solid.2 c (by rwa [List.getLast?_cons_cons])
  · exact solid

theorem head?_barred (shown : Text) : (barred false shown).head? ≠ some '!' := by
  unfold barred
  split
  · simp
  · next unmarked =>
      intro head
      obtain ⟨cells, rfl⟩ := List.head?_eq_some_iff.mp head
      exact unmarked cells rfl

/-- A row that is not filled shows what it has shown, up to the bar. -/
theorem trim_adaptRow_of_open {first : Bool} {row : Text}
    (isOpen : ¬ ['|', '|'] <:+ trim row) :
    trim (adaptRow first row) = barred first (trim row) := by
  obtain ⟨front, back, -, blankFront, blankBack, adapted⟩ := exists_adaptRow first row
  have unfilled : filling (trim row) = [] := by
    rw [filling, if_neg (by rwa [List.isSuffixOf_iff_suffix])]
  rw [adapted, unfilled, List.append_nil]
  exact trim_eq blankFront (isSolid_barred first (isSolid_trim row)) blankBack

/-- A row that is filled shows more than before, up to the hard space. -/
theorem trim_adaptRow_of_closed (first : Bool) {row : Text} (closed : ['|', '|'] <:+ trim row) :
    ∃ back, trim (adaptRow first row) =
      barred first (trim row) ++ (back ++ " &nbsp;".toList) := by
  obtain ⟨front, back, -, blankFront, -, adapted⟩ := exists_adaptRow first row
  have filled : filling (trim row) = " &nbsp;".toList := by
    rw [filling, if_pos (List.isSuffixOf_iff_suffix.mpr closed)]
  refine ⟨back, ?_⟩
  have shown : barred first (trim row) ≠ [] := by
    rw [ne_eq, barred_eq_nil]
    intro empty
    exact absurd (empty ▸ closed) (by decide)
  have solid : IsSolid (barred first (trim row) ++ (back ++ " &nbsp;".toList)) := by
    obtain ⟨c, cells, shown_eq⟩ := List.exists_cons_of_ne_nil shown
    have solidHead := (isSolid_barred first (isSolid_trim row)).1
    constructor
    · rw [shown_eq] at solidHead ⊢
      exact solidHead
    · have last : (barred first (trim row) ++ (back ++ " &nbsp;".toList)).getLast? = some ';' := by
        rw [← List.append_assoc, List.getLast?_append]
        rfl
      rw [last]
      decide
  rw [adapted, filled]
  simpa using trim_eq blankFront solid (by simp : ∀ c ∈ ([] : Text), isBlank c)

/-- Behind the first row no heading cells are left. -/
theorem head?_trim_adaptRow (row : Text) : (trim (adaptRow false row)).head? ≠ some '!' := by
  by_cases closed : ['|', '|'] <:+ trim row
  · obtain ⟨back, shown_eq⟩ := trim_adaptRow_of_closed false closed
    have other := head?_barred (trim row)
    cases barred_eq : barred false (trim row) with
    | nil =>
        rw [barred_eq_nil] at barred_eq
        exact absurd (barred_eq ▸ closed) (by decide)
    | cons c cells =>
        rw [barred_eq] at shown_eq other
        rwa [shown_eq]
  · rw [trim_adaptRow_of_open closed]
    exact head?_barred (trim row)

/-- A row still ends in two bars exactly when one of them has been the mark of a heading cell. -/
theorem closed_adaptRow_iff {first : Bool} {row : Text} :
    ['|', '|'] <:+ trim (adaptRow first row) ↔ first = false ∧ trim row = ['!', '|'] := by
  by_cases closed : ['|', '|'] <:+ trim row
  · obtain ⟨back, shown_eq⟩ := trim_adaptRow_of_closed first closed
    refine iff_of_false (fun ends => ?_) fun barred => absurd (barred.2 ▸ closed) (by decide)
    obtain ⟨front, whole⟩ := ends
    have last := congrArg List.getLast? (whole.trans shown_eq)
    simp at last
  · rw [trim_adaptRow_of_open closed]
    by_cases kept : first = true ∨ (trim row).head? ≠ some '!'
    · rw [barred_of_head kept]
      refine iff_of_false closed fun barred => ?_
      rcases kept with isFirst | other
      · exact absurd (barred.1.symm.trans isFirst) (by decide)
      · exact other (by rw [barred.2]; rfl)
    · rw [not_or, not_not, Bool.not_eq_true] at kept
      obtain ⟨rfl, marked⟩ := kept
      obtain ⟨cells, shown_eq⟩ := List.head?_eq_some_iff.mp marked
      rw [shown_eq] at closed ⊢
      have ahead : ¬ ['|', '|'] <:+ cells := fun ends => closed (ends.trans (List.suffix_cons _ _))
      simp [barred, List.suffix_cons_iff, ahead, eq_comm]

/-- The rows that stand behind a caption when there is one. -/
def behindCaption : List Text → List Text
  | [] => []
  | line :: rows => if isCaption line then rows else line :: rows

/-- The rows of a table among its lines: all but the line that opens it, a caption behind that
line, and the last line. -/
def tableRows (shown : List Text) : List Text :=
  behindCaption shown.tail.dropLast

theorem tableRows_block (opening last : Text) (rows : List Text) :
    tableRows (opening :: (rows ++ [last])) = behindCaption rows := by
  rw [tableRows, List.tail_cons, List.dropLast_concat]

/-- Being the first row does not make a line a caption, or stop it from being one. -/
theorem isCaption_adaptRow (row : Text) : isCaption (adaptRow true row) = isCaption row := by
  have unbarred : barred true (trim row) = trim row := barred_of_head (.inl rfl)
  rw [isCaption, isCaption]
  by_cases closed : ['|', '|'] <:+ trim row
  · obtain ⟨back, shown_eq⟩ := trim_adaptRow_of_closed true closed
    rw [shown_eq, unbarred, Bool.eq_iff_iff, List.isPrefixOf_iff_prefix,
      List.isPrefixOf_iff_prefix]
    exact ⟨fun isLead => List.prefix_of_prefix_length_le isLead (List.prefix_append _ _)
      closed.length_le, fun isLead => isLead.trans (List.prefix_append _ _)⟩
  · rw [trim_adaptRow_of_open closed, unbarred]

theorem behindCaption_adaptInner (rows : List Text) :
    behindCaption (adaptInner rows) = adaptRows (behindCaption rows) := by
  cases rows with
  | nil => rfl
  | cons line rows =>
      rw [adaptInner]
      by_cases captioned : isCaption line = true
      · rw [if_pos captioned, behindCaption, behindCaption, if_pos captioned, if_pos captioned]
      · have uncaptioned : ¬ isCaption (adaptRow true line) = true := by
          rwa [isCaption_adaptRow]
        rw [if_neg captioned, behindCaption, if_neg captioned, adaptRows, behindCaption,
          if_neg uncaptioned]

/-- What Deki asks of the rows of a table: only the first may have heading cells, and none ends
in two bars, with nothing in its last cell. -/
structure IsDekiTable (rows : List Text) : Prop where
  plain : ∀ row ∈ rows.tail, (trim row).head? ≠ some '!'
  filled : ∀ row ∈ rows, ¬ ['|', '|'] <:+ trim row

theorem isDekiTable_adaptRows_iff {rows : List Text} :
    IsDekiTable (adaptRows rows) ↔ ∀ row ∈ rows.tail, trim row ≠ ['!', '|'] := by
  cases rows with
  | nil => exact iff_of_true ⟨by simp [adaptRows], by simp [adaptRows]⟩ (by simp)
  | cons first later =>
      rw [adaptRows, List.tail_cons]
      constructor
      · intro rules row isRow mark
        exact rules.filled _ (List.mem_cons_of_mem _ (List.mem_map_of_mem isRow))
          (closed_adaptRow_iff.mpr ⟨rfl, mark⟩)
      · intro unmarked
        constructor
        · rw [List.tail_cons, List.forall_mem_map]
          exact fun row _ => head?_trim_adaptRow row
        · rw [List.forall_mem_cons, List.forall_mem_map]
          exact ⟨fun closed => absurd (closed_adaptRow_iff.mp closed).1 (by decide),
            fun row isRow closed => unmarked row isRow (closed_adaptRow_iff.mp closed).2⟩

/-- An adapted block keeps Deki's rules exactly when no row behind the first shows the mark of a
heading cell and one bar. -/
theorem isDekiTable_adaptTable_iff {block : Text} (long : 3 ≤ (shownLines block).length) :
    IsDekiTable (tableRows (lines (adaptTable block))) ↔
      ∀ row ∈ (tableRows (shownLines block)).tail, trim row ≠ ['!', '|'] := by
  obtain ⟨opening, rows, last, shown, some⟩ : ∃ opening rows last,
      shownLines block = opening :: (rows ++ [last]) ∧ rows ≠ [] := by
    match shownLines block, long with
    | opening :: second :: third :: more, _ =>
        have split := List.dropLast_concat_getLast (List.cons_ne_nil second (third :: more))
        exact ⟨opening, _, _, congrArg (opening :: ·) split.symm, by simp⟩
  have inline : ∀ line ∈ opening :: (rows ++ [last]), '\n' ∉ line := fun line isLine =>
    (mem_shownLines (shown ▸ isLine)).1
  simp only [List.forall_mem_cons, List.forall_mem_append] at inline
  have inlineRows : ∀ line ∈ opening :: adaptInner rows, '\n' ∉ line := by
    rw [List.forall_mem_cons]
    exact ⟨inline.1, adaptInner_inline inline.2.1⟩
  rw [adaptTable_of_shown shown, if_neg some, lines_closeLines_append inlineRows,
    lines_of_inline inline.2.2.1, List.cons_append, tableRows_block, shown, tableRows_block,
    behindCaption_adaptInner, isDekiTable_adaptRows_iff]

/-- A table with a caption, an empty line, and bars at the ends of two rows. -/
theorem isDekiTable_adaptTable_captioned :
    3 ≤ (shownLines "\x7b|\n |+ C\n! A ||\n\n! B ||\n!|x\n|\x7d".toList).length ∧
      IsDekiTable (tableRows
        (lines (adaptTable "\x7b|\n |+ C\n! A ||\n\n! B ||\n!|x\n|\x7d".toList))) := by
  have long : 3 ≤ (shownLines "\x7b|\n |+ C\n! A ||\n\n! B ||\n!|x\n|\x7d".toList).length := by
    decide
  exact ⟨long, (isDekiTable_adaptTable_iff long).mpr (by decide)⟩

/-- The last cell of a row stays empty where its only bar stands behind the mark. -/
theorem not_isDekiTable_adaptTable_mark :
    3 ≤ (shownLines "\x7b|\n|-\n!|\n|\x7d".toList).length ∧
      adaptTable "\x7b|\n|-\n!|\n|\x7d".toList = "\x7b|\n|-\n||\n|\x7d".toList ∧
      ¬ IsDekiTable (tableRows (lines (adaptTable "\x7b|\n|-\n!|\n|\x7d".toList))) := by
  refine ⟨by decide, by decide, fun rules => ?_⟩
  exact rules.filled ['|', '|'] (by decide) (by decide)

end DekiMigration.Markup
