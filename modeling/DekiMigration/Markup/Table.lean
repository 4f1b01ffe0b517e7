/-
# Tables

A table block runs from `{|`, which attributes may follow on the line, to the
first `|}` behind at least one character of content. Deki takes heading cells in
the first row only, so a later row that starts with `!` gets a bar instead, and
it wants content in the last cell, so a row that ends in `||` gets a hard space.
The line that opens the table, a caption and the last line are kept. Empty lines
disappear, and a block of fewer than three other lines is left alone.
-/

import DekiMigration.Text.Blank
import DekiMigration.Markup.Span

namespace DekiMigration.Markup

open Text

/-- The length of a table block whose opening line starts behind `text`'s first
two characters. -/
def tableLength? (text : Text) : Option Nat :=
  match dropLead? ['{', '|'] text with
  | none => none
  | some rest =>
    let attributes := if rest.head? = some ' ' then (rest.takeWhile (· != '\n')).length else 0
    (enclosedLength? ['\n'] ['|', '}'] (fun _ => true) (rest.drop attributes)).map
      (2 + attributes + ·)

/-- A table block opens, may name attributes on the same line, and reaches to the first
closing mark behind at least one character of content. -/
theorem tableLength?_eq_some {text : Text} {length : Nat} :
    tableLength? text = some length ↔
      ∃ attributes c inner rest,
        text = '{' :: '|' :: (attributes ++ '\n' :: c :: (inner ++ '|' :: '}' :: rest)) ∧
        length = 2 + attributes.length + 2 + inner.length + 2 ∧
        (attributes = [] ∨ attributes.head? = some ' ' ∧ '\n' ∉ attributes) ∧
        EndsFirst ['|', '}'] inner rest := by
  rw [tableLength?]
  constructor
  · intro found
    split at found
    · cases found
    · next ahead opened =>
        obtain ⟨width, enclosed, rfl⟩ := Option.map_eq_some_iff.mp found
        obtain ⟨c, inner, rest, text_eq, rfl, -, first⟩ := enclosedLength?_eq_some.mp enclosed
        rw [dropLead?_eq_some.mp opened]
        by_cases named : ahead.head? = some ' '
        · rw [if_pos named] at text_eq ⊢
          obtain ⟨behind, split⟩ := List.takeWhile_prefix (l := ahead) (· != '\n')
          have behind_eq := congrArg (List.drop (ahead.takeWhile (· != '\n')).length) split
          rw [List.drop_left, text_eq] at behind_eq
          refine ⟨ahead.takeWhile (· != '\n'), c, inner, rest, ?_, ?_, .inr ⟨?_, ?_⟩, first⟩
          · conv => lhs; rw [← split, behind_eq]
            rfl
          · simp only [List.length_cons, List.length_nil]
            omega
          · rw [List.head?_takeWhile, named]
            rfl
          · exact not_mem_takeWhile_ne '\n' ahead
        · rw [if_neg named] at text_eq ⊢
          refine ⟨[], c, inner, rest, ?_, by simp; omega, .inl rfl, first⟩
          simpa using text_eq
  · rintro ⟨attributes, c, inner, rest, rfl, rfl, named, first⟩
    have opened : dropLead? ['{', '|']
        ('{' :: '|' :: (attributes ++ '\n' :: c :: (inner ++ '|' :: '}' :: rest))) =
          some (attributes ++ '\n' :: c :: (inner ++ '|' :: '}' :: rest)) :=
      dropLead?_eq_some.mpr rfl
    have enclosed : enclosedLength? ['\n'] ['|', '}'] (fun _ => true)
        ('\n' :: c :: (inner ++ '|' :: '}' :: rest)) = some (1 + 1 + inner.length + 2) :=
      enclosedLength?_eq_some.mpr ⟨c, inner, rest, rfl, rfl, by simp, first⟩
    rw [opened]
    rcases named with rfl | ⟨spaced, inline⟩
    · simp [enclosed]
      omega
    · have head : (attributes ++ '\n' :: c :: (inner ++ '|' :: '}' :: rest)).head? =
          some ' ' := by
        rw [List.head?_append, spaced]
        rfl
      simp [head, takeWhile_ne_append_cons inline, enclosed]
      omega

theorem tableLength?_le_length {text : Text} {length : Nat}
    (found : tableLength? text = some length) : length ≤ text.length := by
  obtain ⟨attributes, c, inner, rest, rfl, rfl, -, -⟩ := tableLength?_eq_some.mp found
  simp only [List.length_append, List.length_cons]
  omega

/-- Table blocks. -/
def table : Pattern where
  lengthAt? _ text := tableLength? text
  length_le := tableLength?_le_length

/-- A row of a table; `first` tells whether heading cells may stay. -/
def adaptRow (first : Bool) (row : Text) : Text :=
  let shown := trim row
  let plain :=
    if !first && shown.head? = some '!' then
      let indent := row.takeWhile (· != '!')
      indent ++ '|' :: row.drop (indent.length + 1)
    else row
  if ['|', '|'].isSuffixOf shown then plain ++ " &nbsp;".toList else plain

/-- The rows of a table, the first of which may have heading cells. -/
def adaptRows : List Text → List Text
  | [] => []
  | first :: later => adaptRow true first :: later.map (adaptRow false)

/-- Whether a line is the caption of a table. -/
def isCaption (line : Text) : Bool :=
  ['|', '+'].isPrefixOf (trim line)

/-- The lines of a table block between its opening line and its last. -/
def adaptInner : List Text → List Text
  | [] => []
  | line :: rows =>
    if isCaption line then line :: adaptRows rows else adaptRows (line :: rows)

/-- A table block as Deki takes it. -/
def adaptTable (block : Text) : Text :=
  match (lines block).filter (!·.isEmpty) with
  | opening :: second :: third :: more =>
    let inner := second :: third :: more
    unlines (opening :: (adaptInner inner.dropLast ++ inner.getLast?.toList))
  | _ => block

/-- Writes every table block of a text as Deki takes it. -/
def adaptTables (text : Text) : Text :=
  table.substitute (fun block => some (adaptTable block)) text

end DekiMigration.Markup
