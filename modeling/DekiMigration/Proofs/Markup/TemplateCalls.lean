/-
# Calling a template by its title

The catalog holds every title with low lines for its spaces and otherwise as it is, but
the name in a call is read after all other passes. Two of them change it: a pair of hyphens
is wrapped, and on a page the mark that suppresses the table of contents is taken out. A
body that is nothing but the call of a known template becomes the reference to it exactly
when neither of them finds anything in the title.
-/

import Mathlib.Data.List.Basic
import Mathlib.Data.List.TakeWhile
import DekiMigration.Proofs.Markup.Calls
import DekiMigration.Proofs.Markup.SingleLink
import DekiMigration.Proofs.Markup.Suppression

namespace DekiMigration.Markup

open Text

/-- The call of a template by the name it is written with. -/
def plainCall (name : Text) : Text :=
  '{' :: '{' :: (name ++ ['}', '}'])

/-- The call of a template by its qualified title. -/
def templateCall (title : Text) : Text :=
  '{' :: '{' :: (Template.qualifier ++ (title ++ ['}', '}']))

/-- The reference of Deki to a template. -/
def templateReference (title : Text) : Text :=
  "\x7bs:".toList ++ Template.normalizeName title ++ ['}']

/-- What the passes make of a title in a call before the calls are resolved. -/
def calledTitle (title : Text) (isTemplate : Bool) : Text :=
  if isTemplate then wrapDashes title
  else suppression.substitute (fun _ => some []) (wrapDashes title)

/-- Every angle in a text opens a wrapper. -/
def OpensWrappers : Text → Prop
  | [] => True
  | c :: rest => (c = '<' → ['n'] <+: rest ∨ ['/', 'n'] <+: rest) ∧ OpensWrappers rest

theorem opensWrappers_of_not_mem {text : Text} (absent : '<' ∉ text) : OpensWrappers text := by
  induction text with
  | nil => trivial
  | cons c rest ih =>
      rw [List.mem_cons, not_or] at absent
      exact ⟨fun same => absurd same.symm absent.1, ih absent.2⟩

theorem OpensWrappers.append {front back : Text} (opens : OpensWrappers front)
    (opens' : OpensWrappers back) : OpensWrappers (front ++ back) := by
  induction front with
  | nil => exact opens'
  | cons c front ih =>
      refine ⟨fun same => ?_, ih opens.2⟩
      have longer := List.prefix_append front back
      exact (opens.1 same).imp (·.trans longer) (·.trans longer)

theorem OpensWrappers.of_append {front text : Text} (opens : OpensWrappers (front ++ text)) :
    OpensWrappers text := by
  induction front with
  | nil => exact opens
  | cons c front ih => exact ih opens.2

/-- What does not continue a wrapper can be replaced by whatever opens only wrappers. -/
theorem OpensWrappers.replace {before after written : Text} {c : Char}
    (opens : OpensWrappers (before ++ c :: after)) (foreign : c ∉ ['/', 'n'])
    (opens' : OpensWrappers written) : OpensWrappers (before ++ written) := by
  have whole : ∀ {lead front : Text}, (∀ d ∈ lead, d ∈ ['/', 'n']) →
      lead <+: front ++ c :: after → lead <+: front ++ written := by
    intro lead front plain begins
    have absent : c ∉ lead := fun inside => foreign (plain c inside)
    exact (prefix_of_prefix_append_cons absent begins).trans (List.prefix_append front written)
  induction before with
  | nil => exact opens'
  | cons d before ih =>
      refine ⟨fun same => ?_, ih opens.2⟩
      exact (opens.1 same).imp (whole (by decide)) (whole (by decide))

theorem opensWrappers_wrapDashes {text : Text} (opens : OpensWrappers text) :
    OpensWrappers (wrapDashes text) := by
  apply replaceAll_induction (motive := OpensWrappers) (by decide) ?_ opens
  intro before after opens
  apply OpensWrappers.replace opens (by decide)
  have opening : OpensWrappers "<nowiki>--".toList :=
    ⟨fun _ => .inl ⟨_, rfl⟩, opensWrappers_of_not_mem (by decide)⟩
  have closing : OpensWrappers "</nowiki>".toList :=
    ⟨fun _ => .inr ⟨_, rfl⟩, opensWrappers_of_not_mem (by decide)⟩
  have wrapper : OpensWrappers wrappedDash := opening.append closing
  exact wrapper.append opens.of_append.2.2

theorem opensWrappers_suppression {text : Text} (opens : OpensWrappers text) :
    OpensWrappers (suppression.substitute (fun _ => some []) text) := by
  apply Pattern.substitute_induction (motive := OpensWrappers) ?_ opens
  intro before lineStart lexeme after matched opens
  have letters : lexeme.map Char.toLower = '_' :: "_notoc__".toList :=
    (eq_of_beq (suppression_shape matched)).trans (by decide)
  obtain ⟨c, rest, rfl, first, -⟩ := List.map_eq_cons_iff.mp letters
  rw [List.cons_append] at opens
  refine opens.replace ?_ opens.of_append.2.of_append
  intro continues
  have other : ∀ d ∈ ['/', 'n'], d.toLower ≠ '_' := by decide
  exact other c continues first

/-- No sample of code begins where only wrappers are opened. -/
theorem fenceCode_of_opensWrappers {text : Text} (opens : OpensWrappers text) :
    fenceCode text = text := by
  apply replaceInOrder_eq_self fun _ listed => (isCodeMark_of_mem listed).nonempty
  rintro entry listed ⟨before, after, rfl⟩
  have marked : ∀ entry ∈ codeMarks, 2 < entry.1.tail.length ∧
      ¬ ['n'] <+: entry.1.tail ∧ ¬ ['/', 'n'] <+: entry.1.tail := by
    decide
  obtain ⟨long, other, other'⟩ := marked entry listed
  obtain ⟨tail, mark_eq⟩ := List.head?_eq_some_iff.mp (isCodeMark_of_mem listed).opens
  rw [mark_eq, List.tail_cons] at long other other'
  rw [mark_eq, List.append_assoc, List.cons_append] at opens
  have whole : ∀ {lead : Text}, lead.length ≤ 2 → lead <+: tail ++ after → lead <+: tail := by
    intro lead short begins
    exact List.prefix_of_prefix_length_le begins (List.prefix_append tail after)
      (Nat.le_of_lt (Nat.lt_of_le_of_lt short long))
  rcases opens.of_append.1 rfl with begins | begins
  · exact other (whole (by decide) begins)
  · exact other' (whole (by decide) begins)

/-- A call holds no other signs than its own. -/
theorem not_mem_templateCall {title : Text} {c : Char} (absent : c ∉ title)
    (sign : c ∈ ['[', '#', '\n', '|']) : c ∉ templateCall title := by
  have other : ∀ d ∈ ['[', '#', '\n', '|'],
      d ∉ '{' :: '{' :: (Template.qualifier ++ ['}', '}']) := by
    decide
  have foreign := other c sign
  simp only [List.mem_cons, List.mem_append, not_or] at foreign
  simp only [templateCall, List.mem_cons, List.mem_append, not_or]
  exact ⟨foreign.1, foreign.2.1, foreign.2.2.1, absent, foreign.2.2.2⟩

/-- What the colon and the brace separate is changed apart from what stands around it. -/
theorem change_templateCall {change : Text → Text} (title : Text)
    (separated : ∀ c ∈ [':', '}'], ∀ before after,
      change (before ++ c :: after) = change before ++ c :: change after)
    (kept : change "\x7b\x7bTemplate".toList = "\x7b\x7bTemplate".toList)
    (kept' : change ['}'] = ['}']) :
    change (templateCall title) = templateCall (change title) := by
  have parts : ∀ title, templateCall title =
      "\x7b\x7bTemplate".toList ++ ':' :: (title ++ '}' :: ['}']) := fun _ => rfl
  rw [parts, separated ':' (by simp), separated '}' (by simp), kept, kept', parts]

theorem wrapDashes_templateCall (title : Text) :
    wrapDashes (templateCall title) = templateCall (wrapDashes title) := by
  have foreign : ∀ c ∈ [':', '}'], c ∉ dash := by decide
  apply change_templateCall
  · intro c separates
    exact replaceAll_append_cons (by decide) (foreign c separates)
  · exact replaceAll_eq_self (by decide) (by decide +kernel)
  · exact replaceAll_eq_self (by decide) (by decide)

/-- On a page without headings nothing happens to the table of contents but that the mark
that suppresses it is taken out. -/
theorem placeContents_of_line {c : Char} {rest : Text} (unsigned : c ≠ '=')
    (inline : '\n' ∉ c :: rest) (isTemplate : Bool) :
    placeContents (c :: rest) isTemplate =
      if isTemplate then c :: rest else suppression.substitute (fun _ => some []) (c :: rest) := by
  have noHeading := heading_not_occursIn_of_line unsigned inline
  cases suppressed : suppression.occursIn (c :: rest) with
  | true => simp [placeContents, suppressed]
  | false => simp [placeContents, suppressed, noHeading, Pattern.substitute_eq_self suppressed]

theorem suppression_templateCall (title : Text) :
    suppression.substitute (fun _ => some []) (templateCall title) =
      templateCall (suppression.substitute (fun _ => some []) title) := by
  have foreign : ∀ c ∈ [':', '}'], c.toLower ∉ "__notoc__".toList := by decide
  apply change_templateCall
  · intro c separates
    exact (suppression_separatedBy (foreign c separates)).substitute_append_cons
  · decide
  · decide

theorem removeCategories_of_not_mem {text : Text} (absent : '[' ∉ text) :
    removeCategories text = text :=
  Pattern.substitute_eq_self (Pattern.not_occursIn_of_head category_head absent)

theorem adaptTables_of_not_mem {text : Text} (absent : '|' ∉ text) : adaptTables text = text := by
  apply Pattern.substitute_eq_self
  refine Pattern.not_occursIn_of_mem (fun matched => ?_) absent
  obtain ⟨attributes, body, -, -, rfl⟩ := table_shape matched
  simp

theorem mem_of_mem_calledTitle {title : Text} {isTemplate : Bool} {c : Char}
    (inside : c ∈ calledTitle title isTemplate) : c ∈ title ∨ c ∈ wrappedDash := by
  have wrapped : ∀ c ∈ wrapDashes title, c ∈ title ∨ c ∈ wrappedDash := by
    apply replaceAll_induction (motive := fun text => ∀ c ∈ text, c ∈ title ∨ c ∈ wrappedDash)
      (by decide) ?_ (fun _ => .inl)
    intro before after known c inside
    simp only [List.mem_append] at known inside
    rcases inside with isBefore | isWrapper | isAfter
    · exact known c (.inl isBefore)
    · exact .inr isWrapper
    · exact known c (.inr (.inr isAfter))
  rw [calledTitle] at inside
  split at inside
  · exact wrapped c inside
  · rw [Pattern.substitute_eq] at inside
    exact wrapped c ((Pattern.erase_sublist _ _ _).subset inside)

/-- A title in a call holds no other signs than those of the wrapper. -/
theorem not_mem_calledCall {title : Text} (unmarked : IsUnmarked title) (isTemplate : Bool)
    {c : Char} (sign : c ∈ ['[', '#', '\n', '|']) :
    c ∉ templateCall (calledTitle title isTemplate) := by
  have isSign : ∀ d ∈ ['[', '#', '\n', '|'],
      d ∈ ['\n', '[', ']', '{', '}', '|', '<', '>', '#'] ∧ d ∉ wrappedDash := by
    decide
  apply not_mem_templateCall ?_ sign
  intro inside
  rcases mem_of_mem_calledTitle inside with inTitle | inWrapper
  · exact unmarked.not_mem (isSign c sign).1 inTitle
  · exact (isSign c sign).2 inWrapper

theorem brace_not_mem_calledTitle {title : Text} (unmarked : IsUnmarked title)
    (isTemplate : Bool) : '}' ∉ calledTitle title isTemplate := by
  intro inside
  rcases mem_of_mem_calledTitle inside with inTitle | inWrapper
  · exact unmarked.not_mem (by simp) inTitle
  · exact absurd inWrapper (by decide)

theorem opensWrappers_calledCall {title : Text} (unmarked : IsUnmarked title)
    (isTemplate : Bool) : OpensWrappers (templateCall (calledTitle title isTemplate)) := by
  have front : OpensWrappers ('{' :: '{' :: Template.qualifier) :=
    opensWrappers_of_not_mem (by decide)
  have back : OpensWrappers ['}', '}'] := opensWrappers_of_not_mem (by decide)
  have wrapped : OpensWrappers (wrapDashes title) :=
    opensWrappers_wrapDashes (opensWrappers_of_not_mem (unmarked.not_mem (by simp)))
  apply front.append (OpensWrappers.append ?_ back)
  rw [calledTitle]
  split
  · exact wrapped
  · exact opensWrappers_suppression wrapped

/-- Once the table of contents is placed, the passes in front of the last one leave a line
alone that opens nothing but wrappers and holds no sign of phrases, links or tables. -/
theorem restructure_of_placed {content rest : Text} {c : Char} {isTemplate : Bool}
    (placed : placeContents (wrapDashes (removeCategories content)) isTemplate = c :: rest)
    (unsigned : c ≠ '=') (absent : ∀ d ∈ ['[', '#', '\n', '|'], d ∉ c :: rest)
    (opens : OpensWrappers (c :: rest)) : restructure content isTemplate = c :: rest := by
  have phrases : replacePhrases (c :: rest) = c :: rest := by
    apply replaceInOrder_eq_self fun _ listed => (isPlainPhrase_of_mem listed).nonempty
    intro entry listed inside
    rcases (isPlainPhrase_of_mem listed).opens with ⟨head, -⟩ | ⟨head, -⟩
    · exact absent '[' (by simp) (inside.subset (List.mem_of_mem_head? head))
    · exact absent '#' (by simp) (inside.subset (List.mem_of_mem_head? head))
  have links : adaptLinks (c :: rest) = c :: rest :=
    Pattern.substitute_eq_self (Pattern.not_occursIn_of_head link_head (absent '[' (by simp)))
  have headings : deepenHeadings (c :: rest) = c :: rest :=
    Pattern.substitute_eq_self
      (heading_not_occursIn_of_line unsigned (absent '\n' (by simp)))
  rw [restructure, beforeHeadings, placed, phrases, links,
    adaptTables_of_not_mem (absent '|' (by simp)), headings, fenceCode_of_opensWrappers opens]

/-- The passes in front of the last one change nothing of a call but the title. -/
theorem restructure_templateCall {title : Text} (unmarked : IsUnmarked title)
    (isTemplate : Bool) :
    restructure (templateCall title) isTemplate =
      templateCall (calledTitle title isTemplate) := by
  have unlinked : '[' ∉ templateCall title :=
    not_mem_templateCall (unmarked.not_mem (by simp)) (by simp)
  have inline : '\n' ∉ templateCall (wrapDashes title) := not_mem_calledCall unmarked true (by simp)
  have placed : placeContents (templateCall (wrapDashes title)) isTemplate =
      templateCall (calledTitle title isTemplate) := by
    refine (placeContents_of_line (by decide) inline isTemplate).trans ?_
    cases isTemplate with
    | true => rfl
    | false => exact suppression_templateCall (wrapDashes title)
  refine restructure_of_placed ?_ (by decide)
    (fun c => not_mem_calledCall unmarked isTemplate) (opensWrappers_calledCall unmarked isTemplate)
  rw [removeCategories_of_not_mem unlinked, wrapDashes_templateCall, placed]
  rfl

/-- When the other passes leave a single call, it is resolved if its template is known, and
reported otherwise. -/
theorem transform_of_isCall {content lexeme : Text} {isTemplate : Bool}
    (structured : restructure content isTemplate = lexeme) (isCall : IsCall lexeme [])
    (catalog : Template.Catalog) :
    transform content catalog isTemplate =
      if catalog.knows (callName lexeme) then
        ⟨"\x7bs:".toList ++ Template.bareName (callName lexeme) ++ ['}'], []⟩
      else ⟨lexeme, [callName lexeme]⟩ := by
  have matched : call.Matches true lexeme [] := call_matches.mpr isCall
  have resolved : resolveCalls catalog lexeme = (resolveCall catalog lexeme).getD lexeme := by
    have written : call.substituteFrom (resolveCall catalog) true (lexeme ++ []) = _ :=
      matched.substituteFrom_append
    rwa [Pattern.substituteFrom_nil, List.append_nil, List.append_nil,
      ← Pattern.substitute_eq] at written
  have called : calledNames lexeme = [callName lexeme] := by
    have pieces := matched.piecesFrom_append
    rw [Pattern.piecesFrom_nil, List.append_nil] at pieces
    rw [calledNames_eq, pieces]
    rfl
  rw [transform, structured, resolved, unresolvedNames, called, resolveCall]
  cases known : catalog.knows (callName lexeme) <;> simp [known]

/-- Some character in double braces is a call. -/
theorem isCall_plainCall {name : Text} (nonempty : name ≠ []) (unclosed : '}' ∉ name) :
    IsCall (plainCall name) [] := by
  obtain ⟨c, rest, rfl⟩ := List.exists_cons_of_ne_nil nonempty
  rw [List.mem_cons, not_or] at unclosed
  exact ⟨c, rest, rfl, endsFirst_of_not_mem unclosed.2⟩

/-- The braces are taken from the name in a call. -/
theorem callName_plainCall {name : Text} (unopened : name.head? ≠ some '{')
    (unclosed : '}' ∉ name) : callName (plainCall name) = Template.normalizeName name := by
  have opened : (plainCall name).dropWhile (· == '{') = name ++ ['}', '}'] := by
    show (name ++ ['}', '}']).dropWhile (· == '{') = _
    cases name with
    | nil => rfl
    | cons c rest => exact List.dropWhile_cons_of_neg (by simpa using unopened)
  have closed : ((name ++ ['}', '}']).reverse.dropWhile (· == '}')).reverse = name := by
    rw [List.reverse_append, List.dropWhile_append_of_pos (by simp)]
    rw [List.dropWhile_eq_self_iff.mpr, List.reverse_reverse]
    intro nonempty closes
    exact unclosed (List.mem_reverse.mp (eq_of_beq closes ▸ List.getElem_mem nonempty))
  rw [callName, opened, closed]

/-- A call by the title is one by the qualified name. -/
theorem templateCall_eq (title : Text) :
    templateCall title = plainCall (Template.qualifier ++ title) := by
  rw [templateCall, plainCall, List.append_assoc]

theorem isCall_templateCall {title : Text} (unclosed : '}' ∉ title) :
    IsCall (templateCall title) [] := by
  have nonempty : Template.qualifier ++ title ≠ [] :=
    List.append_ne_nil_of_left_ne_nil (by decide) title
  rw [templateCall_eq]
  apply isCall_plainCall nonempty
  rw [List.mem_append, not_or]
  exact ⟨by decide, unclosed⟩

theorem callName_templateCall {title : Text} (unclosed : '}' ∉ title) :
    callName (templateCall title) = Template.normalizeName (Template.qualifier ++ title) := by
  have first : (Template.qualifier ++ title).head? = some 'T' := rfl
  rw [templateCall_eq]
  apply callName_plainCall (by simp [first])
  rw [List.mem_append, not_or]
  exact ⟨by decide, unclosed⟩

/-- A name with low lines for its spaces. -/
def lowLines (name : Text) : Text :=
  name.map fun c => if c = ' ' then '_' else c

theorem mem_lowLines {name : Text} {c : Char} (other : c ≠ ' ') (other' : c ≠ '_') :
    c ∈ lowLines name ↔ c ∈ name := by
  rw [lowLines, List.mem_map]
  constructor
  · rintro ⟨d, inside, spelled⟩
    split at spelled
    · exact absurd spelled.symm other'
    · exact spelled ▸ inside
  · intro inside
    exact ⟨c, inside, if_neg other⟩

/-- Behind the qualifier only the blanks at the end are taken from a name. -/
theorem exists_normalizeName_qualified (title : Text) :
    ∃ core back, title = core ++ back ∧ (∀ c ∈ back, isBlank c) ∧
      Template.normalizeName (Template.qualifier ++ title) =
        Template.qualifier ++ lowLines core := by
  have visible : isBlank 'T' = false ∧ isBlank ':' = false := by decide
  obtain ⟨front, back, split, blankFront, blankBack⟩ := exists_trim (Template.qualifier ++ title)
  obtain rfl : front = [] := by
    cases front with
    | nil => rfl
    | cons c front =>
        have first : 'T' = c := (List.cons.inj split).1
        rw [← first] at blankFront
        simp [visible] at blankFront
  have named : ∀ core, trim (Template.qualifier ++ title) = Template.qualifier ++ core →
      Template.normalizeName (Template.qualifier ++ title) =
        Template.qualifier ++ lowLines core := by
    intro core trimmed
    rw [Template.normalizeName, trimmed, List.map_append]
    rfl
  rw [List.nil_append] at split
  rcases List.append_eq_append_iff.mp split with
    ⟨core, trimmed, title_eq⟩ | ⟨rest, qualifier_eq, back_eq⟩
  · exact ⟨core, back, title_eq, blankBack, named core trimmed⟩
  · -- the qualifier ends in a colon, which is not blank
    rcases List.eq_nil_or_concat' rest with rfl | ⟨others, c, rfl⟩
    · rw [List.append_nil] at qualifier_eq
      rw [List.nil_append] at back_eq
      have whole : Template.qualifier ++ [] = trim (Template.qualifier ++ title) :=
        (List.append_nil _).trans qualifier_eq
      exact ⟨[], title, rfl, back_eq ▸ blankBack, named [] whole.symm⟩
    · have last : some ':' = some c := by
        have whole := congrArg List.getLast? qualifier_eq
        rwa [← List.append_assoc, List.getLast?_concat] at whole
      have blank := blankBack c (by simp [back_eq])
      rw [← Option.some.inj last, visible.2] at blank
      cases blank

theorem bareName_qualified (name : Text) :
    Template.bareName (Template.qualifier ++ name) = name := by
  have qualified : Template.isQualified (Template.qualifier ++ name) = true := by
    rw [Template.isQualified, List.take_left]
    decide
  rw [Template.bareName, if_pos qualified, List.drop_left]

/-- Where a title is called as it is, the name in the call is that in the catalog. -/
theorem normalizeName_qualified {title : Text} (nonempty : title ≠ [])
    (trimmed : trim title = title) :
    Template.normalizeName (Template.qualifier ++ title) =
      Template.qualifier ++ Template.normalizeName title := by
  have solid : IsSolid (Template.qualifier ++ title) := by
    apply IsSolid.append ⟨by decide, by decide⟩ (by decide) ?_ nonempty
    exact trimmed ▸ isSolid_trim title
  rw [Template.normalizeName, Template.normalizeName, solid.trim_eq_self, trimmed,
    List.map_append]
  rfl

theorem calledTitle_eq_self {title : Text} {isTemplate : Bool} (dashless : ¬ dash <:+: title)
    (unsuppressed : isTemplate = true ∨ ¬ HoldsLetters "__NOTOC__".toList title) :
    calledTitle title isTemplate = title := by
  rw [calledTitle, show wrapDashes title = title from replaceAll_eq_self (by decide) dashless]
  cases isTemplate with
  | true => rfl
  | false =>
      have unsuppressed := unsuppressed.resolve_left Bool.false_ne_true
      apply Pattern.substitute_eq_self
      rw [← Bool.not_eq_true, suppression_occursIn]
      exact unsuppressed

/-- An angle outlasts the search for the mark that suppresses the table of contents. -/
theorem mem_calledTitle_of_dash {title : Text} (dashed : dash <:+: title) (isTemplate : Bool) :
    '<' ∈ calledTitle title isTemplate := by
  have wrapped : '<' ∈ wrapDashes title :=
    subset_replaceAll (by decide) dashed (show '<' ∈ wrappedDash by decide)
  rw [calledTitle]
  split
  · exact wrapped
  · obtain ⟨before, after, split⟩ := List.append_of_mem wrapped
    rw [split, (suppression_separatedBy (by decide)).substitute_append_cons]
    simp

theorem length_calledTitle_lt {title : Text} (dashless : ¬ dash <:+: title)
    (suppressed : HoldsLetters "__NOTOC__".toList title) :
    (calledTitle title false).length < title.length := by
  rw [calledTitle, show wrapDashes title = title from replaceAll_eq_self (by decide) dashless]
  exact Pattern.length_erase_lt (suppression_occursIn.mpr suppressed)

/-- A title that is called by its own name has come through the passes as it is. -/
theorem unchanged_of_bareName_eq {title : Text} {isTemplate : Bool} (trimmed : trim title = title)
    (unmarked : IsUnmarked title)
    (named : Template.bareName
      (Template.normalizeName (Template.qualifier ++ calledTitle title isTemplate)) =
        Template.normalizeName title) :
    ¬ dash <:+: title ∧
      (isTemplate = true ∨ ¬ HoldsLetters "__NOTOC__".toList title) := by
  obtain ⟨core, back, called_eq, blank, name_eq⟩ :=
    exists_normalizeName_qualified (calledTitle title isTemplate)
  have same : lowLines core = lowLines title := by
    rwa [name_eq, bareName_qualified, Template.normalizeName, trimmed, ← lowLines] at named
  have dashless : ¬ dash <:+: title := by
    intro dashed
    have angle := mem_calledTitle_of_dash dashed isTemplate
    rw [called_eq, List.mem_append] at angle
    rcases angle with inCore | inBack
    · rw [← mem_lowLines (by decide) (by decide), same,
        mem_lowLines (by decide) (by decide)] at inCore
      exact unmarked.not_mem (by simp) inCore
    · exact absurd (blank '<' inBack) (by decide)
  refine ⟨dashless, ?_⟩
  cases isTemplate with
  | true => exact .inl rfl
  | false =>
      refine .inr fun suppressed => ?_
      have shorter := length_calledTitle_lt dashless suppressed
      have width : core.length = title.length := by
        simpa [lowLines] using congrArg List.length same
      rw [called_eq, List.length_append, width] at shorter
      exact absurd shorter (Nat.not_lt_of_le (Nat.le_add_right _ _))

/-- The call of a catalogued template becomes the reference to it, and nothing is reported,
exactly when the title holds no dash and, on a page, no mark that suppresses the table of
contents. -/
theorem transformContent_templateCall_iff {title : Text} {titles : List Text}
    (nonempty : title ≠ []) (trimmed : trim title = title) (unmarked : IsUnmarked title)
    (listed : title ∈ titles) (isTemplate : Bool) :
    transformContent (some (templateCall title)) (.ofTitles titles) isTemplate =
        ⟨templateReference title, []⟩ ↔
      ¬ dash <:+: title ∧
        (isTemplate = true ∨ ¬ HoldsLetters "__NOTOC__".toList title) := by
  have structured := restructure_templateCall unmarked isTemplate
  have unbraced := brace_not_mem_calledTitle unmarked isTemplate
  rw [transformContent_eq, Option.getD_some,
    transform_of_isCall structured (isCall_templateCall unbraced), callName_templateCall unbraced]
  constructor
  · intro resolved
    split at resolved
    · have texts := (Transformed.mk.inj resolved).1
      rw [templateReference, List.append_cancel_right_eq, List.append_cancel_left_eq] at texts
      exact unchanged_of_bareName_eq trimmed unmarked texts
    · cases (Transformed.mk.inj resolved).2
  · rintro ⟨dashless, unsuppressed⟩
    have listed' := Template.Catalog.mem_ofTitles.mpr ⟨title, listed, rfl⟩
    rw [calledTitle_eq_self dashless unsuppressed, normalizeName_qualified nonempty trimmed,
      if_pos (Template.Catalog.knows_iff.mpr (.inl listed')), bareName_qualified]
    rfl

/-- A title with single hyphens and low lines. -/
def hyphenatedTitle : Text := "A-b _-c_TOC_".toList

theorem transformContent_templateCall_hyphenatedTitle :
    hyphenatedTitle ≠ [] ∧ trim hyphenatedTitle = hyphenatedTitle ∧ IsUnmarked hyphenatedTitle ∧
      hyphenatedTitle ∈ ["x--y".toList, hyphenatedTitle] ∧
      transformContent (some (templateCall hyphenatedTitle))
          (.ofTitles ["x--y".toList, hyphenatedTitle]) false =
        ⟨"\x7bs:A-b__-c_TOC_\x7d".toList, []⟩ := by
  have nonempty : hyphenatedTitle ≠ [] := by decide +kernel
  have trimmed : trim hyphenatedTitle = hyphenatedTitle := by decide +kernel
  have unmarked : IsUnmarked hyphenatedTitle := by decide +kernel
  have listed : hyphenatedTitle ∈ ["x--y".toList, hyphenatedTitle] := by simp
  refine ⟨nonempty, trimmed, unmarked, listed, ?_⟩
  rw [(transformContent_templateCall_iff nonempty trimmed unmarked listed false).mpr
    ⟨by decide +kernel, .inr (by decide +kernel)⟩]
  decide +kernel

/-- A dash in the title keeps the call open, and so does the mark on a page. -/
theorem transformContent_templateCall_unresolved :
    ("a--b".toList ≠ [] ∧ trim "a--b".toList = "a--b".toList ∧ IsUnmarked "a--b".toList ∧
      transformContent (some (templateCall "a--b".toList)) (.ofTitles ["a--b".toList]) false ≠
        ⟨templateReference "a--b".toList, []⟩) ∧
    ("a__NOTOC__".toList ≠ [] ∧ trim "a__NOTOC__".toList = "a__NOTOC__".toList ∧
      IsUnmarked "a__NOTOC__".toList ∧
      transformContent (some (templateCall "a__NOTOC__".toList)) (.ofTitles ["a__NOTOC__".toList])
          false ≠
        ⟨templateReference "a__NOTOC__".toList, []⟩) := by
  decide +kernel

end DekiMigration.Markup
