/-
# Where tables end

A table block ends at its closing mark, and the text behind it makes no difference to it as long
as it has content. The search asks for one character of content at least. In an empty table it
takes the front of the closing mark for it and goes on to the next closing mark, if one stands
anywhere behind: the wider block that it finds holds all the text up to there. So an empty table
is apart from that text if no closing mark follows, and otherwise exactly if the wider block is
written as the empty table and the text would be written one by one.
-/

import DekiMigration.Proofs.Markup.TableRows

namespace DekiMigration.Markup

open Text

/-- What may stand behind the mark that opens a table: nothing, or a space and more of the
line. -/
def IsAttributes (attributes : Text) : Prop :=
  attributes = [] ∨ attributes.head? = some ' ' ∧ '\n' ∉ attributes

theorem IsAttributes.inline {attributes : Text} (named : IsAttributes attributes) :
    '\n' ∉ attributes := by
  rcases named with rfl | ⟨-, inline⟩
  · exact List.not_mem_nil
  · exact inline

/-- A table block: its opening mark and attributes on a line, its content, and its closing
mark. -/
def tableBlock (attributes content : Text) : Text :=
  '{' :: '|' :: (attributes ++ '\n' :: (content ++ ['|', '}']))

/-- Behind a table its closing mark stands once more, first after `stretch`. -/
structure ReachesMark (after stretch rest : Text) : Prop where
  split : after = stretch ++ (['|', '}'] ++ rest)
  first : EndsFirst ['|', '}'] stretch rest

variable {attributes content after stretch rest : Text}

theorem exists_reachesMark (inside : ['|', '}'] <:+: after) :
    ∃ stretch rest, ReachesMark after stretch rest := by
  obtain ⟨stretch, rest, split, first⟩ := exists_endsFirst inside
  exact ⟨stretch, rest, split, first⟩

theorem table_ignoresLines : table.IgnoresLines :=
  fun _ _ _ => rfl

theorem table_passesOver {stretch : Text} (foreign : '{' ∉ stretch) : table.PassesOver stretch :=
  Pattern.passesOver_of_head table_head foreign

theorem adaptTables_append_of_not_mem (foreign : '{' ∉ stretch) (text : Text) :
    adaptTables (stretch ++ text) = stretch ++ adaptTables text :=
  table_ignoresLines.substitute_append_of_passesOver (table_passesOver foreign) text

/-- A block with content reaches to the first closing mark behind one character of it. -/
theorem table_matches (named : IsAttributes attributes) {c : Char} {inner : Text}
    (first : EndsFirst ['|', '}'] inner after) (lineStart : Bool) :
    table.Matches lineStart (tableBlock attributes (c :: inner)) after := by
  refine ⟨List.cons_ne_nil _ _, ?_⟩
  show tableLength? (tableBlock attributes (c :: inner) ++ after) =
    some (tableBlock attributes (c :: inner)).length
  refine tableLength?_eq_some.mpr ⟨attributes, c, inner, after, ?_, ?_, named, first⟩
  · simp [tableBlock]
  · simp only [tableBlock, List.length_cons, List.length_append, List.length_nil]
    omega

theorem adaptTables_tableBlock (named : IsAttributes attributes) {c : Char} {inner : Text}
    (first : EndsFirst ['|', '}'] inner after) :
    adaptTables (tableBlock attributes (c :: inner) ++ after) =
      adaptTable (tableBlock attributes (c :: inner)) ++ adaptTables after :=
  table_ignoresLines.substitute_append (table_matches named first true)

theorem tableBlock_nil (attributes : Text) :
    tableBlock attributes [] = closeLines [('{' :: '|' :: attributes)] ++ ['|', '}'] := by
  simp [tableBlock, closeLines_cons]

/-- An empty table has nothing to adapt. -/
theorem adaptTable_tableBlock_nil (inline : '\n' ∉ attributes) :
    adaptTable (tableBlock attributes []) = tableBlock attributes [] := by
  rw [tableBlock_nil]
  exact adaptTable_closeLines (by simp) (by simp) (by simpa using inline) (by decide)

/-- Behind the line that opens a block and one character of content, its closing mark stands. -/
theorem infix_of_table_matches {lineStart : Bool} {lexeme line : Text} {c : Char}
    (matched : table.Matches lineStart lexeme after) (inline : '\n' ∉ line)
    (text_eq : line ++ '\n' :: c :: rest = lexeme ++ after) : ['|', '}'] <:+: rest := by
  obtain ⟨attributes, body, nonempty, inlineAttributes, rfl⟩ := table_shape matched
  obtain ⟨d, inner, rfl⟩ := List.exists_cons_of_ne_nil nonempty
  have inlineOpening : '\n' ∉ '{' :: '|' :: attributes := by simpa using inlineAttributes
  have cut : cutAt? '\n' (line ++ '\n' :: c :: rest) = some (line, c :: rest) :=
    cutAt?_eq_some.mpr ⟨rfl, inline⟩
  have cut' : cutAt? '\n' (line ++ '\n' :: c :: rest) =
      some ('{' :: '|' :: attributes, d :: (inner ++ (['|', '}'] ++ after))) :=
    cutAt?_eq_some.mpr ⟨text_eq.trans (by simp), inlineOpening⟩
  have same := cut.symm.trans cut'
  simp only [Option.some.injEq, Prod.mk.injEq, List.cons.injEq] at same
  exact ⟨inner, after, by rw [same.2.2, List.append_assoc]⟩

/-- Where no closing mark follows one character of the next line, no block begins. -/
theorem adaptTables_inline_append {line : Text} {c : Char} (inline : '\n' ∉ line)
    (never : ¬ ['|', '}'] <:+: rest) :
    adaptTables (line ++ '\n' :: c :: rest) = line ++ adaptTables ('\n' :: c :: rest) := by
  induction line with
  | nil => rfl
  | cons d line ih =>
      have missed : table.Missed true (d :: (line ++ '\n' :: c :: rest)) := by
        rcases Pattern.missed_or_matches table true (d :: (line ++ '\n' :: c :: rest)) with
          missed | ⟨lexeme, after, text_eq, matched⟩
        · exact missed
        · exact absurd (infix_of_table_matches matched inline text_eq) never
      rw [List.mem_cons, not_or] at inline
      rw [List.cons_append, adaptTables, table_ignoresLines.substitute_cons missed, ← adaptTables,
        ih inline.2, List.cons_append]

/-- In front of a text without closing mark, an empty table stays. -/
theorem adaptTables_of_apart (inline : '\n' ∉ attributes) (never : ¬ ['|', '}'] <:+: after) :
    adaptTables (tableBlock attributes [] ++ after) =
      tableBlock attributes [] ++ adaptTables after := by
  have never' : ¬ ['|', '}'] <:+: '}' :: after := by
    rw [List.infix_cons_iff, not_or]
    exact ⟨by simp, never⟩
  have inlineOpening : '\n' ∉ '{' :: '|' :: attributes := by simpa using inline
  have passed : adaptTables (['\n', '|', '}'] ++ after) = ['\n', '|', '}'] ++ adaptTables after :=
    adaptTables_append_of_not_mem (by decide) after
  have opened := adaptTables_inline_append (c := '|') inlineOpening never'
  rw [show '\n' :: '|' :: '}' :: after = ['\n', '|', '}'] ++ after from rfl, passed] at opened
  simpa [tableBlock] using opened

/-- The block that an empty table becomes when its closing mark stands again behind it. -/
def widenedTable (attributes stretch : Text) : Text :=
  tableBlock attributes ('|' :: '}' :: stretch)

theorem ReachesMark.adaptTables_append (named : IsAttributes attributes)
    (reaches : ReachesMark after stretch rest) :
    adaptTables (tableBlock attributes [] ++ after) =
      adaptTable (widenedTable attributes stretch) ++ adaptTables rest := by
  have first : EndsFirst ['|', '}'] ('}' :: stretch) rest :=
    endsFirst_cons.mpr ⟨by simp, reaches.first⟩
  have regroup : tableBlock attributes [] ++ after = widenedTable attributes stretch ++ rest := by
    simp [tableBlock, widenedTable, reaches.split]
  rw [regroup, widenedTable, adaptTables_tableBlock named first]

/-- Text in which no block opens stays, with the closing mark behind it. -/
theorem ReachesMark.adaptTables_eq (reaches : ReachesMark after stretch rest)
    (unopened : '{' ∉ stretch) :
    tableBlock attributes [] ++ adaptTables after =
      widenedTable attributes stretch ++ adaptTables rest := by
  have foreign : '{' ∉ stretch ++ ['|', '}'] := by simpa using unopened
  rw [reaches.split, ← List.append_assoc stretch, adaptTables_append_of_not_mem foreign]
  simp [tableBlock, widenedTable]

/-- The first row is written with all that it has at its front. -/
theorem prefix_closeLines_adaptInner (row : Text) (rows : List Text) :
    row <+: closeLines (adaptInner (row :: rows)) := by
  have unbarred : barred true (trim row) = trim row := barred_of_head (.inl rfl)
  have filled : row <+: adaptRow true row := by
    obtain ⟨front, back, row_eq, -, -, adapted⟩ := exists_adaptRow true row
    have same := congrArg (· ++ filling (trim row)) row_eq
    exact ⟨filling (trim row), by rw [adapted, unbarred]; simpa using same⟩
  rw [adaptInner]
  split
  · rw [closeLines_cons]
    exact List.prefix_append _ _
  · rw [adaptRows, closeLines_cons]
    exact filled.trans (List.prefix_append _ _)

/-- However the wider block is written, it begins with the empty table. -/
theorem prefix_adaptTable_widenedTable (inline : '\n' ∉ attributes) (stretch : Text) :
    tableBlock attributes [] <+: adaptTable (widenedTable attributes stretch) := by
  have inlineOpening : '\n' ∉ '{' :: '|' :: attributes := by simpa using inline
  obtain ⟨items, last, rfl, inlineItems, inlineLast⟩ := exists_eq_closeLines_append stretch
  have inlineEnd : '\n' ∉ last ++ ['|', '}'] := by simpa using inlineLast
  cases items with
  | nil =>
      have block_eq : widenedTable attributes (closeLines [] ++ last) =
          closeLines [('{' :: '|' :: attributes)] ++ ('|' :: '}' :: (last ++ ['|', '}'])) := by
        simp [widenedTable, tableBlock, closeLines_cons]
      rw [block_eq, adaptTable_closeLines (by simp) (by simp) (by simpa using inlineOpening)
        (by simpa using inlineEnd), if_pos (by simp), tableBlock_nil]
      exact (List.prefix_append_right_inj _).mpr ⟨last ++ ['|', '}'], rfl⟩
  | cons row rows =>
      rw [List.forall_mem_cons] at inlineItems
      have block_eq : widenedTable attributes (closeLines (row :: rows) ++ last) =
          closeLines (('{' :: '|' :: attributes) :: ('|' :: '}' :: row) :: rows) ++
            (last ++ ['|', '}']) := by
        simp [widenedTable, tableBlock, closeLines_cons]
      have inlineLines : ∀ line ∈ ('{' :: '|' :: attributes) :: ('|' :: '}' :: row) :: rows,
          '\n' ∉ line := by
        rw [List.forall_mem_cons, List.forall_mem_cons]
        exact ⟨inlineOpening, by simpa using inlineItems.1, inlineItems.2⟩
      have begins : ['|', '}'] <+: closeLines (adaptInner
          (('|' :: '}' :: row) :: rows.filter (!·.isEmpty))) :=
        List.IsPrefix.trans ⟨row, rfl⟩ (prefix_closeLines_adaptInner _ _)
      rw [block_eq, adaptTable_closeLines (by simp) (by simp) inlineLines inlineEnd,
        if_neg (by simp), tableBlock_nil, closeLines_cons, closeLines_cons, List.append_assoc,
        List.append_assoc, List.prefix_append_right_inj, List.cons_append, List.cons_append,
        List.cons_prefix_cons]
      refine ⟨rfl, ?_⟩
      simpa using begins.trans (List.prefix_append _ _)

/-- When a table ends at its own closing mark: it has content, or no closing mark stands behind
it, or the wider block up to the next one is written as the empty table and what is made of the
text up to there on its own. Text in which no block opens stays on its own, and so the wider
block must have nothing to adapt. -/
inductive EndsItself (attributes : Text) : (content after : Text) → Prop
  | filled {content after : Text} (nonempty : content ≠ []) : EndsItself attributes content after
  | apart {after : Text} (never : ¬ ['|', '}'] <:+: after) : EndsItself attributes [] after
  | kept {after stretch rest : Text} (reaches : ReachesMark after stretch rest)
      (unopened : '{' ∉ stretch)
      (same : adaptTable (widenedTable attributes stretch) = widenedTable attributes stretch) :
      EndsItself attributes [] after
  | agreed {after stretch rest ahead : Text} (reaches : ReachesMark after stretch rest)
      (opened : '{' ∈ stretch)
      (written : adaptTable (widenedTable attributes stretch) = tableBlock attributes [] ++ ahead)
      (same : adaptTables after = ahead ++ adaptTables rest) : EndsItself attributes [] after

theorem adaptTables_emptyTable_iff (named : IsAttributes attributes) (after : Text) :
    adaptTables (tableBlock attributes [] ++ after) =
        tableBlock attributes [] ++ adaptTables after ↔
      EndsItself attributes [] after := by
  constructor
  · intro stays
    by_cases again : ['|', '}'] <:+: after
    · obtain ⟨stretch, rest, reaches⟩ := exists_reachesMark again
      have same := (reaches.adaptTables_append named).symm.trans stays
      by_cases opened : '{' ∈ stretch
      · obtain ⟨ahead, written⟩ := prefix_adaptTable_widenedTable named.inline stretch
        rw [← written, List.append_assoc, List.append_cancel_left_eq] at same
        exact .agreed reaches opened written.symm same.symm
      · rw [reaches.adaptTables_eq opened, List.append_cancel_right_eq] at same
        exact .kept reaches opened same
    · exact .apart again
  · intro itself
    cases itself with
    | filled nonempty => exact absurd rfl nonempty
    | apart never => exact adaptTables_of_apart named.inline never
    | kept reaches unopened same =>
        rw [reaches.adaptTables_append named, same, reaches.adaptTables_eq unopened]
    | agreed reaches opened written same =>
        rw [reaches.adaptTables_append named, written, same, List.append_assoc]

/-- A table up to its first closing mark is adapted apart from the text before and behind it
exactly when it ends at that mark. -/
theorem adaptTables_tableBlock_iff {before : Text} (unopened : '{' ∉ before)
    (named : IsAttributes attributes) (first : EndsFirst ['|', '}'] content []) (after : Text) :
    adaptTables (before ++ (tableBlock attributes content ++ after)) =
        before ++ (adaptTable (tableBlock attributes content) ++ adaptTables after) ↔
      EndsItself attributes content after := by
  rw [adaptTables_append_of_not_mem unopened, List.append_cancel_left_eq]
  cases content with
  | nil => rw [adaptTable_tableBlock_nil named.inline, adaptTables_emptyTable_iff named after]
  | cons c inner =>
      exact iff_of_true (adaptTables_tableBlock named ((endsFirst_cons.mp first).2.of_rest after))
        (.filled (List.cons_ne_nil c inner))

/-- An empty table with a closing mark behind it, up to which nothing has to be adapted. -/
theorem adaptTables_tableBlock_beforeMark :
    '{' ∉ "see ".toList ∧ IsAttributes " x".toList ∧ EndsFirst ['|', '}'] [] [] ∧
      EndsItself " x".toList [] "\na |\x7d \x7b|\n|-\n! A\n|\x7d".toList ∧
      adaptTables ("see ".toList ++
          (tableBlock " x".toList [] ++ "\na |\x7d \x7b|\n|-\n! A\n|\x7d".toList)) =
        "see ".toList ++ (adaptTable (tableBlock " x".toList []) ++
          adaptTables "\na |\x7d \x7b|\n|-\n! A\n|\x7d".toList) := by
  have unopened : '{' ∉ "see ".toList := by decide
  have named : IsAttributes " x".toList := .inr ⟨by decide, by decide⟩
  have first : EndsFirst ['|', '}'] [] [] := endsFirst_nil _ _
  have reaches : ReachesMark "\na |\x7d \x7b|\n|-\n! A\n|\x7d".toList "\na ".toList
      " \x7b|\n|-\n! A\n|\x7d".toList := ⟨by decide, endsFirst_of_not_mem (by decide)⟩
  have itself : EndsItself " x".toList [] "\na |\x7d \x7b|\n|-\n! A\n|\x7d".toList :=
    .kept reaches (by decide) (by decide +kernel)
  exact ⟨unopened, named, first, itself,
    (adaptTables_tableBlock_iff unopened named first _).mpr itself⟩

/-- An empty table in front of another one makes the two of them one block: the empty line
between them is lost, and the heading cells of the second table with it. -/
theorem adaptTables_emptyTable_beforeTable :
    adaptTables "\x7b|\n|\x7d\n\n\x7b|\n! A\n|\x7d".toList =
        "\x7b|\n|\x7d\n\x7b|\n| A\n|\x7d".toList ∧
      adaptTables "\x7b|\n|\x7d\n\n\x7b|\n! A\n|\x7d".toList ≠
        adaptTable "\x7b|\n|\x7d".toList ++ adaptTables "\n\n\x7b|\n! A\n|\x7d".toList := by
  decide +kernel

end DekiMigration.Markup
