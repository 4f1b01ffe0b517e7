/-
# Dashes stay wrapped

The second pass wraps every pair of hyphens, and the wrappers can be taken off again, since none
but those that it has put in hold hyphens. None of the later passes brings two bare hyphens
together or breaks a wrapper: what they replace is enclosed in characters that no wrapper holds,
or is a fixed text that no wrapper runs into or out of, and what they write is made of guarded
parts.
-/

import DekiMigration.Proofs.Markup.Contents
import DekiMigration.Proofs.Markup.Guarded

namespace DekiMigration.Markup

open Text

/-- What every single replacement keeps guarded the substitution keeps guarded. -/
theorem guarded_substitute {pattern : Pattern} {change : Text → Option Text}
    (step : ∀ {before lineStart lexeme after}, pattern.Matches lineStart lexeme after →
      ∀ written, change lexeme = some written → Guarded (before ++ (lexeme ++ after)) →
        Guarded (before ++ (written ++ after)))
    {text : Text} (guarded : Guarded text) : Guarded (pattern.substitute change text) := by
  apply Pattern.substitute_induction ?_ guarded
  intro before lineStart lexeme after matched guardedHere
  cases changed : change lexeme with
  | none => exact guardedHere
  | some written => exact step matched written changed guardedHere

/-- Wrapping every pair of hyphens guards a text. -/
theorem guarded_wrapDashes (text : Text) : Guarded (wrapDashes text) := by
  have nonempty : dash ≠ [] := by decide
  unfold wrapDashes
  induction text using replaceAll_walk nonempty with
  | nil =>
      rw [replaceAll_nil nonempty]
      exact guarded_nil
  | @absent c rest bare guarded =>
      rw [replaceAll_cons nonempty bare]
      have single : Guarded [c] := by
        apply guarded_of_dashless
        intro inside
        have shorter := inside.length_le
        simp [dash] at shorter
      apply single.append guarded
      by_cases hyphen : c = '-'
      · refine .inr fun head => ?_
        -- a hyphen follows in the result only if one follows in the text
        cases rest with
        | nil => simp [replaceAll_nil nonempty] at head
        | cons d rest =>
            have visible : d ≠ '-' := fun same => bare ⟨rest, by rw [hyphen, same]; rfl⟩
            rw [replaceAll_cons nonempty fun pair => visible (List.cons_prefix_cons.mp pair).1.symm,
              List.head?_cons, Option.some.injEq] at head
            exact visible head
      · exact .inl (by simpa using hyphen)
  | found guarded =>
      rw [replaceAll_append nonempty]
      exact guarded_wrappedDash.append guarded (.inl (by decide))

/-- No mark for the table of contents comes into being where a dash is wrapped. -/
theorem not_holdsLetters_wrapDashes {text : Text}
    (absent : ¬ HoldsLetters "__NOTOC__".toList text) :
    ¬ HoldsLetters "__NOTOC__".toList (wrapDashes text) := by
  have wrapper : wrappedDash = '<' :: ("nowiki>--</nowiki".toList ++ ['>']) := by decide
  apply replaceAll_induction (motive := fun text => ¬ HoldsLetters "__NOTOC__".toList text)
    (by decide) ?_ absent
  intro before after apart holds
  rw [wrapper, List.cons_append, List.append_assoc] at holds
  rcases holds.of_append_cons (by decide) with ⟨stretch, inside, same⟩ | holds
  · exact apart ⟨stretch, inside.trans (List.prefix_append before _).isInfix, same⟩
  · rcases HoldsLetters.of_append_cons (by decide) holds with
      within | ⟨stretch, inside, same⟩
    · exact absurd within (by decide)
    · refine apart ⟨stretch, inside.trans ?_, same⟩
      rw [← List.append_assoc]
      exact (List.suffix_append _ after).isInfix

/-- The text with every wrapped pair of hyphens written without its wrapper. -/
def unwrapDashes (text : Text) : Text :=
  replaceAll wrappedDash dash text

/-- No wrapper begins in front of a wrapped text: the hyphens in it would have a wrapper of
their own there, which had to begin further to the left. -/
theorem not_wrappedDash_prefix_cons (c : Char) (rest : Text) :
    ¬ wrappedDash <+: c :: wrapDashes rest := by
  rintro ⟨after, begins⟩
  have ahead : wrapDashes rest = "nowiki>".toList ++ (dash ++ (wrapClosing ++ after)) :=
    (List.cons.inj begins).2.symm
  have opened := (guarded_wrapDashes rest _ _ ahead).1
  exact absurd opened.length_le (by decide)

theorem unwrapDashes_wrapDashes (text : Text) : unwrapDashes (wrapDashes text) = text := by
  have nonempty : dash ≠ [] := by decide
  have nonempty' : wrappedDash ≠ [] := by decide
  unfold unwrapDashes wrapDashes
  induction text using replaceAll_walk nonempty with
  | nil => rw [replaceAll_nil nonempty, replaceAll_nil nonempty']
  | @absent c rest bare ih =>
      have bare' : ¬ wrappedDash <+: c :: replaceAll dash wrappedDash rest :=
        not_wrappedDash_prefix_cons c rest
      rw [replaceAll_cons nonempty bare, replaceAll_cons nonempty' bare', ih]
  | found ih => rw [replaceAll_append nonempty, replaceAll_append nonempty', ih]

/-- Wrapping loses nothing, whatever wrappers and hyphens a text already holds: unwrapping from
left to right finds the wrappers that have been put in and no others, so different texts stay
different. In the wrapped text every pair of hyphens stands in such a wrapper. -/
theorem wrapDashes_recoverable :
    Function.LeftInverse unwrapDashes wrapDashes ∧ Function.Injective wrapDashes ∧
      ∀ text, Guarded (wrapDashes text) := by
  have inverse : Function.LeftInverse unwrapDashes wrapDashes := unwrapDashes_wrapDashes
  exact ⟨inverse, inverse.injective, guarded_wrapDashes⟩

/-- A phrase begins with a foreign character and opens no wrapper. -/
theorem IsPlainPhrase.guarded {old new before after : Text} (isPlain : IsPlainPhrase old new)
    (guarded : Guarded (before ++ (old ++ after))) : Guarded (before ++ (new ++ after)) := by
  have unopened : '<' ∉ old := by
    intro inside
    exact (isPlain.plain '<' (List.mem_append_left new inside)).2.2 rfl
  have last : new.getLast? ≠ some '-' := by
    intro isLast
    obtain ⟨rest, rfl⟩ := List.getLast?_eq_some_iff.mp isLast
    exact isPlain.dashless ⟨rest, [], by simp [dash]⟩
  have dashless : ¬ dash <:+: new := by
    intro inside
    exact isPlain.dashless (inside.trans (List.prefix_append new ['-']).isInfix)
  apply guarded.replace_apart ?_ (not_cutsWrapper_of_unopened unopened)
    (guarded_of_dashless dashless) ?_ last
  · obtain ⟨c, head, foreign⟩ : ∃ c, old.head? = some c ∧ IsForeign c := by
      rcases isPlain.opens with ⟨head, -⟩ | ⟨head, -⟩
      · exact ⟨'[', head, isForeign_of_mem (by simp)⟩
      · exact ⟨'#', head, isForeign_of_mem (by simp)⟩
    obtain ⟨rest, rfl⟩ := List.head?_eq_some_iff.mp head
    exact not_cutsWrapper_of_head foreign
  · rcases isPlain.opens with ⟨-, head⟩ | ⟨-, head⟩
    · exact ⟨'[', head, by decide⟩
    · exact ⟨'>', head, by decide⟩

theorem guarded_replacePhrases {text : Text} (guarded : Guarded text) :
    Guarded (replacePhrases text) := by
  apply replaceInOrder_induction (motive := Guarded) ?_ ?_ guarded
  · intro entry listed
    exact (isPlainPhrase_of_mem listed).nonempty
  · intro entry listed before after
    exact (isPlainPhrase_of_mem listed).guarded

/-- The mark of a code sample agrees with no part of a wrapper that it could overlap. -/
theorem IsCodeMark.guarded {old new before after : Text} (isMark : IsCodeMark old new)
    (guarded : Guarded (before ++ (old ++ after))) : Guarded (before ++ (new ++ after)) := by
  have cutAt : ∀ {front back : Text}, wrappedDash = front ++ back → front ≠ [] → back ≠ [] →
      ¬ back <+: old ∧ ¬ old <+: back ∧ ¬ front <:+ old := by
    intro front back split nonempty nonempty'
    have width : front.length + back.length = 19 := by
      rw [← List.length_append, ← split]
      decide
    have positive := List.length_pos_iff.mpr nonempty
    have positive' := List.length_pos_iff.mpr nonempty'
    have here := isMark.apart (front.length - 1) (by omega)
    rwa [Nat.sub_add_cancel positive, split, List.drop_left, List.take_left] at here
  apply guarded.replace_apart ?_ ?_ (guarded_of_hyphenless isMark.hyphenless) ?_ ?_
  · rintro ⟨front, back, split, nonempty, nonempty', -, isStart⟩
    obtain ⟨notAhead, notBehind, -⟩ := cutAt split nonempty nonempty'
    rcases List.prefix_or_prefix_of_prefix isStart (List.prefix_append old after) with
      ahead | behind
    · exact notAhead ahead
    · exact notBehind behind
  · rintro ⟨front, back, split, nonempty, nonempty', isEnd, -⟩
    exact (cutAt split nonempty nonempty').2.2 isEnd
  · cases new with
    | nil => exact absurd rfl isMark.fenced
    | cons c rest => exact ⟨c, rfl, fun same => isMark.hyphenless (same ▸ List.mem_cons_self)⟩
  · intro isLast
    exact isMark.hyphenless (List.mem_of_mem_getLast? isLast)

theorem guarded_fenceCode {text : Text} (guarded : Guarded text) : Guarded (fenceCode text) := by
  apply replaceInOrder_induction (motive := Guarded) ?_ ?_ guarded
  · intro entry listed
    exact (isCodeMark_of_mem listed).nonempty
  · intro entry listed before after
    exact (isCodeMark_of_mem listed).guarded

/-- Placing the table of contents puts in a placeholder, if it takes nothing out. -/
theorem guarded_placeContents {text : Text} {isTemplate : Bool} (guarded : Guarded text)
    (unsuppressed : isTemplate = true ∨ ¬ HoldsLetters "__NOTOC__".toList text) :
    Guarded (placeContents text isTemplate) := by
  cases isTemplate with
  | true => exact guarded
  | false =>
      rw [placeContents_of_unsuppressed (unsuppressed.resolve_left (by decide))]
      have placeholder : Guarded contentsPlaceholder := guarded_of_hyphenless (by decide)
      split
      · split
        · apply replaceAll_induction (by decide) ?_ guarded
          intro before after guardedHere
          apply guardedHere.replace_apart ?_ (not_cutsWrapper_of_unopened (by decide))
            placeholder ⟨'{', rfl, by decide⟩ (by decide)
          obtain ⟨rest, mark_eq⟩ : ∃ rest, contentsMark = '_' :: rest :=
            List.head?_eq_some_iff.mp (by decide)
          rw [mark_eq]
          exact not_cutsWrapper_of_head (isForeign_of_mem (by simp))
        · rw [guarded_append_cons (isForeign_of_mem (by simp))]
          exact ⟨placeholder, guarded⟩
      · exact guarded

theorem Guarded.cleanTarget {target : Text} (guarded : Guarded target) :
    Guarded (cleanTarget target) := by
  apply guarded.trim.map_low_line
  decide

theorem guarded_brackets {text : Text} :
    Guarded ('[' :: (text ++ [']'])) ↔ Guarded text := by
  rw [guarded_cons (isForeign_of_mem (by simp)), guarded_append_foreign]
  intro c inside
  rw [List.mem_singleton.mp inside]
  exact isForeign_of_mem (by simp)

theorem enclosed_brackets (text : Text) : Enclosed ('[' :: (text ++ [']'])) where
  head := ⟨'[', rfl, isForeign_of_mem (by simp)⟩
  last := ⟨']', by rw [← List.cons_append]; exact List.getLast?_concat,
    isForeign_of_mem (by simp)⟩

theorem enclosed_link {lineStart : Bool} {lexeme after : Text}
    (matched : link.Matches lineStart lexeme after) : Enclosed lexeme := by
  obtain ⟨body, -, -, rfl | rfl⟩ := link_shape matched
  · have split : '[' :: '[' :: (body ++ [']', ']']) =
        '[' :: (('[' :: (body ++ [']'])) ++ [']']) := by
      simp
    rw [split]
    exact enclosed_brackets _
  · exact enclosed_brackets body

/-- Only brackets and blanks stand around the body of a link. -/
theorem guarded_linkBody {lineStart : Bool} {lexeme after : Text}
    (matched : link.Matches lineStart lexeme after) (guarded : Guarded lexeme) :
    Guarded (linkBody lexeme) := by
  obtain ⟨body, -, -, shape⟩ := link_shape matched
  obtain ⟨opening, inner, closing, lexeme_eq, body_eq, -, -, isOpening, isClosing⟩ :=
    linkBody_shape shape
  rw [lexeme_eq, guarded_append_of_foreign, guarded_append_foreign] at guarded
  · rw [body_eq]
    exact guarded.trim
  · intro c inside
    rw [isClosing c inside]
    exact isForeign_of_mem (by simp)
  · intro c inside
    rw [isOpening c inside]
    exact isForeign_of_mem (by simp)

theorem enclosed_adaptLink {lexeme written : Text} (adapted : adaptLink lexeme = some written) :
    Enclosed written := by
  obtain ⟨content, rfl⟩ : ∃ content, written = '[' :: (content ++ [']']) := by
    rcases adaptLink_eq_some adapted with ⟨target, _, display, -, -, rfl | rfl⟩ | rfl
    · exact ⟨target ++ '|' :: display, by simp⟩
    · exact ⟨cleanTarget target ++ '|' :: display, by simp⟩
    · exact ⟨_, rfl⟩
  exact enclosed_brackets content

/-- The target and the text to display are parts of the body of the link. -/
theorem guarded_adaptLink {lexeme written : Text} (adapted : adaptLink lexeme = some written)
    (guarded : Guarded (linkBody lexeme)) : Guarded written := by
  have bar : IsForeign '|' := isForeign_of_mem (by simp)
  rcases adaptLink_eq_some adapted with
    ⟨target, separator, display, split, isSeparator, written_eq⟩ | rfl
  · have foreign : IsForeign separator := by
      rcases isSeparator with rfl | rfl <;> exact isForeign_of_mem (by simp)
    rw [split, guarded_append_cons foreign] at guarded
    have regroup : ∀ shown : Text, '[' :: (shown ++ '|' :: (display ++ [']'])) =
        '[' :: (shown ++ '|' :: display ++ [']']) := by
      simp
    rcases written_eq with rfl | rfl
    · rw [regroup, guarded_brackets, guarded_append_cons bar]
      exact guarded
    · rw [regroup, guarded_brackets, guarded_append_cons bar]
      exact ⟨guarded.1.cleanTarget, guarded.2⟩
  · exact guarded_brackets.mpr guarded.cleanTarget

theorem guarded_adaptLinks {text : Text} (guarded : Guarded text) :
    Guarded (adaptLinks text) := by
  apply guarded_substitute ?_ guarded
  intro before lineStart lexeme after matched written adapted guardedHere
  apply guardedHere.replace_enclosed (enclosed_link matched) (enclosed_adaptLink adapted)
  intro guardedLexeme
  exact guarded_adaptLink adapted (guarded_linkBody matched guardedLexeme)

theorem guarded_adaptRow {first : Bool} {row : Text} :
    Guarded (adaptRow first row) ↔ Guarded row := by
  obtain ⟨plain, plain_eq, adapted⟩ := adaptRow_shape first row
  have kept : Guarded plain ↔ Guarded row := by
    rcases plain_eq with rfl | ⟨indent, rest, -, rfl, rfl⟩
    · rfl
    · rw [guarded_append_cons (isForeign_of_mem (by simp)),
        guarded_append_cons (isForeign_of_mem (by simp))]
  rcases adapted with adapted | ⟨-, adapted⟩
  · rw [adapted, kept]
  · have space_eq : " &nbsp;".toList = ' ' :: "&nbsp;".toList := by decide
    have space : Guarded "&nbsp;".toList := guarded_of_hyphenless (by decide)
    rw [adapted, space_eq, guarded_append_cons (isForeign_of_mem (by simp)), and_iff_left space,
      kept]

theorem guarded_adaptTables {text : Text} (guarded : Guarded text) :
    Guarded (adaptTables text) := by
  have linewise : Linewise Guarded := guarded_append_cons (isForeign_of_mem (by simp))
  apply guarded_substitute ?_ guarded
  intro before lineStart lexeme after matched written adapted guardedHere
  rw [← Option.some.inj adapted]
  exact (linewise.adaptTable_iff guarded_nil (fun _ _ _ => guarded_adaptRow) matched).mpr
    guardedHere

theorem getLast?_of_signsAtEnd {text : Text} (signed : 0 < signsAtEnd text) :
    text.getLast? = some '=' := by
  rw [List.getLast?_eq_head?_reverse]
  rw [signsAtEnd, signsAtStart] at signed
  cases split : text.reverse with
  | nil => simp [split] at signed
  | cons c rest =>
      rw [split, List.takeWhile_cons] at signed
      by_cases sign : c = '='
      · rw [sign, List.head?_cons]
      · simp [sign] at signed

/-- A heading is enclosed in its signs or its line feeds, before and after. -/
theorem enclosed_heading {lineStart : Bool} {lexeme after : Text}
    (matched : heading.Matches lineStart lexeme after) : Enclosed lexeme := by
  obtain ⟨-, opening, title, closing, feed, rfl, -, -, rfl | rfl⟩ := heading_shape matched
  · constructor
    · exact ⟨'=', rfl, isForeign_of_mem (by simp)⟩
    · exact ⟨'=', by simp [List.replicate_succ', ← List.append_assoc],
        isForeign_of_mem (by simp)⟩
  · constructor
    · exact ⟨'=', rfl, isForeign_of_mem (by simp)⟩
    · exact ⟨'\n', by simp [← List.append_assoc], isForeign_of_mem (by simp)⟩

theorem enclosed_deepenHeading (lexeme : Text) : Enclosed (deepenHeading lexeme) := by
  constructor
  · refine ⟨'\n', ?_, isForeign_of_mem (by simp)⟩
    rw [deepenHeading]
    split <;> rfl
  · refine ⟨'=', ?_, isForeign_of_mem (by simp)⟩
    rw [deepenHeading]
    by_cases few : signsAtEnd (trim lexeme) < 4
    · rw [if_pos few]
      exact List.getLast?_concat
    · -- the title ends in four signs and gets no other
      have signed : (trim lexeme).getLast? = some '=' := getLast?_of_signsAtEnd (by omega)
      rw [if_neg few, List.append_nil, List.getLast?_append, signed]
      rfl

theorem guarded_deepenHeading {lexeme : Text} (guarded : Guarded lexeme) :
    Guarded (deepenHeading lexeme) := by
  rw [deepenHeading, guarded_append_foreign, guarded_append_of_foreign]
  · exact guarded.trim
  · intro c inside
    split at inside
    · rw [List.mem_singleton.mp inside]
      exact isForeign_of_mem (by simp)
    · simp only [List.mem_cons, List.not_mem_nil, or_false] at inside
      rcases inside with rfl | rfl <;> exact isForeign_of_mem (by simp)
  · intro c inside
    split at inside
    · rw [List.mem_singleton.mp inside]
      exact isForeign_of_mem (by simp)
    · cases inside

theorem guarded_deepenHeadings {text : Text} (guarded : Guarded text) :
    Guarded (deepenHeadings text) := by
  apply guarded_substitute ?_ guarded
  intro before lineStart lexeme after matched written deepened guardedHere
  rw [← Option.some.inj deepened]
  exact guardedHere.replace_enclosed (enclosed_heading matched) (enclosed_deepenHeading lexeme)
    guarded_deepenHeading

theorem Guarded.dropWhile {text : Text} {c : Char} (guarded : Guarded text)
    (foreign : IsForeign c) : Guarded (text.dropWhile (· == c)) := by
  rw [← List.takeWhile_append_dropWhile (p := (· == c)) (l := text),
    guarded_append_of_foreign] at guarded
  · exact guarded
  · intro d inside
    exact eq_of_mem_takeWhile_eq inside ▸ foreign

theorem Guarded.dropWhileEnd {text : Text} {c : Char} (guarded : Guarded text)
    (foreign : IsForeign c) : Guarded (text.reverse.dropWhile (· == c)).reverse := by
  have split := congrArg List.reverse
    (List.takeWhile_append_dropWhile (p := (· == c)) (l := text.reverse))
  rw [List.reverse_append, List.reverse_reverse] at split
  rw [← split, guarded_append_foreign] at guarded
  · exact guarded
  · intro d inside
    rw [List.mem_reverse] at inside
    exact eq_of_mem_takeWhile_eq inside ▸ foreign

theorem guarded_callName {lexeme : Text} (guarded : Guarded lexeme) :
    Guarded (callName lexeme) := by
  have opened := guarded.dropWhile (c := '{') (isForeign_of_mem (by simp))
  have closed := opened.dropWhileEnd (c := '}') (isForeign_of_mem (by simp))
  apply closed.trim.map_low_line
  decide

/-- No wrapper opens in what qualifies a name. -/
theorem guarded_bareName {name : Text} (guarded : Guarded name) :
    Guarded (Template.bareName name) := by
  rw [Template.bareName]
  split
  · next qualified =>
      rw [← List.take_append_drop Template.qualifier.length name] at guarded
      apply (guarded.cut (not_cutsWrapper_of_unopened ?_)).2
      intro opened
      have inside : Char.toLower '<' ∈ lower (name.take Template.qualifier.length) :=
        List.mem_map_of_mem opened
      rw [eq_of_beq qualified] at inside
      exact absurd inside (by decide)
  · exact guarded

theorem guarded_resolveCalls {catalog : Template.Catalog} {text : Text}
    (guarded : Guarded text) : Guarded (resolveCalls catalog text) := by
  apply guarded_substitute ?_ guarded
  intro before lineStart lexeme after matched written resolved guardedHere
  obtain ⟨body, -, lexeme_eq⟩ := call_shape matched
  have brace : IsForeign '{' := isForeign_of_mem (by simp)
  have brace' : IsForeign '}' := isForeign_of_mem (by simp)
  have enclosed : Enclosed lexeme := by
    constructor
    · exact ⟨'{', by rw [lexeme_eq]; rfl, brace⟩
    · have closing : lexeme = '{' :: '{' :: (body ++ ['}']) ++ ['}'] := by simp [lexeme_eq]
      rw [closing]
      exact ⟨'}', List.getLast?_concat, brace'⟩
  rw [resolveCall] at resolved
  split at resolved
  · cases resolved
    apply guardedHere.replace_enclosed enclosed
    · constructor
      · exact ⟨'{', by simp, brace⟩
      · exact ⟨'}', List.getLast?_concat, brace'⟩
    · intro guardedLexeme
      have lead : Guarded ("\x7bs:".toList) := guarded_of_hyphenless (by decide)
      rw [guarded_append_foreign]
      · apply lead.append (guarded_bareName (guarded_callName guardedLexeme))
        exact .inl (by decide)
      · intro c inside
        rw [List.mem_singleton.mp inside]
        exact brace'
  · cases resolved

/-- What comes of a body is guarded, unless a mark is taken out of it. -/
theorem guarded_transform {content : Text} (catalog : Template.Catalog) {isTemplate : Bool}
    (unsuppressed : isTemplate = true ∨
      ¬ HoldsLetters "__NOTOC__".toList (wrapDashes (removeCategories content))) :
    Guarded (transform content catalog isTemplate).text := by
  apply guarded_resolveCalls
  apply guarded_fenceCode
  apply guarded_deepenHeadings
  apply guarded_adaptTables
  apply guarded_adaptLinks
  apply guarded_replacePhrases
  exact guarded_placeContents (guarded_wrapDashes _) unsuppressed

/-- Every pair of hyphens in a converted body is shown as it is: it stands in a wrapper. -/
theorem transformContent_dash_wrapped (content : Option Text) (catalog : Template.Catalog)
    (isTemplate : Bool)
    (unsuppressed : isTemplate = true ∨ ¬ HoldsLetters "__NOTOC__".toList
      (wrapDashes (removeCategories (content.getD []))))
    (before after : Text)
    (split : (transformContent content catalog isTemplate).text = before ++ '-' :: '-' :: after) :
    "<nowiki>".toList <:+ before ∧ "</nowiki>".toList <+: after := by
  rw [transformContent_eq] at split
  exact guarded_transform catalog unsuppressed before after split

/-- A page on which hyphens meet markup: its contents, a heading, a table and a link. -/
def dashedBody : Text := "-----\n==-==\n\x7b|\n-[[-|--]]-\n! -\n|\x7d--".toList

/-- What comes of it, up to the last pair of hyphens behind the table. -/
def dashedFront : Text :=
  "\x7bTOC\x7d\n<nowiki>--</nowiki><nowiki>--</nowiki>-\n\n===-===\x7b|\n".toList ++
    "-[-|<nowiki>--</nowiki>]-\n| -\n|\x7d<nowiki>".toList

theorem transformContent_dash_wrapped_last :
    ¬ HoldsLetters "__NOTOC__".toList (wrapDashes (removeCategories dashedBody)) ∧
      (transformContent (some dashedBody) .empty false).text =
        dashedFront ++ '-' :: '-' :: "</nowiki>".toList ∧
      "<nowiki>".toList <:+ dashedFront := by
  have unsuppressed : ¬ HoldsLetters "__NOTOC__".toList
      (wrapDashes (removeCategories dashedBody)) := by
    decide +kernel
  have split : (transformContent (some dashedBody) .empty false).text =
      dashedFront ++ '-' :: '-' :: "</nowiki>".toList := by
    decide +kernel
  have wrapped := transformContent_dash_wrapped (some dashedBody) .empty false
    (.inr unsuppressed) dashedFront "</nowiki>".toList split
  exact ⟨unsuppressed, split, wrapped.1⟩

end DekiMigration.Markup
