/-
# Resolving calls once

The reference that is written for a call stands in single braces, so no call begins in it.
None begins in front of it either: two braces in a row before the end of a call begin a call
themselves, which the search would have met sooner. So when the calls of known templates are
resolved, the calls of the text that is left are those that no known template answers, with the
same names and in the same order, and resolving them again changes nothing.
-/

import DekiMigration.Proofs.Markup.Calls

namespace DekiMigration.Markup

open Text

variable {catalog : Template.Catalog} {text lexeme after rest : Text} {calls : List Text}

theorem IsCall.of_rest (isCall : IsCall lexeme after) (other : Text) : IsCall lexeme other := by
  obtain ⟨c, inner, lexeme_eq, first⟩ := isCall
  exact ⟨c, inner, lexeme_eq, first.of_rest other⟩

/-- Two opening braces and a character begin a call when two braces close behind them. -/
theorem exists_isCall (c : Char) (closed : ['}', '}'] <:+: rest) :
    ∃ lexeme after, '{' :: '{' :: c :: rest = lexeme ++ after ∧ IsCall lexeme after := by
  obtain ⟨inner, after, rfl, first⟩ := exists_endsFirst closed
  exact ⟨'{' :: '{' :: c :: (inner ++ ['}', '}']), after, by simp, c, inner, rfl, first⟩

/-- No call begins with a character unless the character and the one behind it are opening
braces. -/
theorem HasCalls.cons {c : Char} (later : HasCalls rest calls)
    (single : c ≠ '{' ∨ rest.head? ≠ some '{') : HasCalls (c :: rest) calls := by
  refine .pass ?_ later
  rintro lexeme after split ⟨d, inner, rfl, -⟩
  simp only [List.cons_append, List.cons.injEq] at split
  obtain ⟨rfl, rfl⟩ := split
  simp at single

theorem HasCalls.append_of_not_mem (later : HasCalls rest calls) {stretch : Text}
    (foreign : '{' ∉ stretch) : HasCalls (stretch ++ rest) calls := by
  induction stretch with
  | nil => exact later
  | cons c stretch ih =>
      rw [List.mem_cons, not_or] at foreign
      exact (ih foreign.2).cons (.inl (Ne.symm foreign.1))

/-- Where there are calls, braces close, and no sooner than behind three characters. -/
theorem HasCalls.closes (hasCalls : HasCalls text calls) (nonempty : calls ≠ []) :
    ['}', '}'] <:+: text.drop 3 := by
  induction hasCalls with
  | nil => exact absurd rfl nonempty
  | @pass c rest calls _ _ ih =>
      have shorter : rest.drop 3 <:+ rest.drop 2 := List.drop_suffix_drop_left rest (by decide)
      exact (ih nonempty).trans shorter.isInfix
  | @take lexeme after calls here _ _ =>
      obtain ⟨c, inner, rfl, -⟩ := here
      exact ⟨inner, after, by simp⟩

/-- An opening brace in front of a text that begins with another one begins a call, if the text
has any. -/
theorem HasCalls.exists_isCall_cons (hasCalls : HasCalls text calls) (nonempty : calls ≠ [])
    (opens : text.head? = some '{') :
    ∃ lexeme after, '{' :: text = lexeme ++ after ∧ IsCall lexeme after := by
  have closed := hasCalls.closes nonempty
  obtain ⟨rest, rfl⟩ := List.head?_eq_some_iff.mp opens
  cases rest with
  | nil => exact absurd (List.infix_nil.mp closed) (by simp)
  | cons c rest => exact exists_isCall c (closed.trans (List.drop_suffix 1 rest).isInfix)

theorem resolveCalls_cons {c : Char}
    (absent : ∀ lexeme after, c :: rest = lexeme ++ after → ¬ IsCall lexeme after) :
    resolveCalls catalog (c :: rest) = c :: resolveCalls catalog rest :=
  call_ignoresLines.substitute_cons (call_missed.mpr absent)

theorem resolveCalls_append (isCall : IsCall lexeme after) :
    resolveCalls catalog (lexeme ++ after) =
      (resolveCall catalog lexeme).getD lexeme ++ resolveCalls catalog after :=
  call_ignoresLines.substitute_append (call_matches.mpr isCall)

theorem resolveCall_of_unknown (unknown : catalog.knows (callName lexeme) = false) :
    resolveCall catalog lexeme = none := by
  rw [resolveCall, unknown, if_neg Bool.false_ne_true]

theorem resolveCall_of_known (known : catalog.knows (callName lexeme) = true) :
    resolveCall catalog lexeme =
      some ('{' :: ("s:".toList ++ Template.bareName (callName lexeme) ++ ['}'])) := by
  rw [resolveCall, known, if_pos rfl]
  rfl

/-- The name that a reference is written with is one of the catalog, or the back of one. -/
theorem not_mem_bareName {c : Char} (foreign : ∀ name ∈ catalog.names, c ∉ name) {name : Text}
    (known : catalog.knows name = true) : c ∉ Template.bareName name := by
  rw [Template.bareName]
  rcases Template.Catalog.knows_iff.mp known with listed | ⟨qualified, listed⟩
  · split
    · exact fun inside => foreign name listed (List.mem_of_mem_drop inside)
    · exact foreign name listed
  · rw [if_pos qualified]
    exact foreign _ listed

/-- Texts begin alike before and after their calls are resolved. -/
theorem head?_resolveCalls (hasCalls : HasCalls text calls) :
    (resolveCalls catalog text).head? = text.head? := by
  cases hasCalls with
  | nil => rfl
  | pass absent _ => rw [resolveCalls_cons absent, List.head?_cons, List.head?_cons]
  | @take lexeme after calls here _ =>
      rw [resolveCalls_append here]
      obtain ⟨c, inner, rfl, -⟩ := here
      cases known : catalog.knows (callName ('{' :: '{' :: c :: (inner ++ ['}', '}']))) with
      | false => rw [resolveCall_of_unknown known]; rfl
      | true => rw [resolveCall_of_known known]; rfl

/-- The calls that no known template answers. -/
def unknownCalls (catalog : Template.Catalog) (calls : List Text) : List Text :=
  calls.filter fun lexeme => !catalog.knows (callName lexeme)

theorem knows_of_mem_unknownCalls (isLeft : lexeme ∈ unknownCalls catalog calls) :
    catalog.knows (callName lexeme) = false := by
  simpa using (List.mem_filter.mp isLeft).2

theorem unknownCalls_cons_of_unknown (unknown : catalog.knows (callName lexeme) = false)
    (calls : List Text) :
    unknownCalls catalog (lexeme :: calls) = lexeme :: unknownCalls catalog calls :=
  List.filter_cons_of_pos (by simp [unknown])

theorem unknownCalls_cons_of_known (known : catalog.knows (callName lexeme) = true)
    (calls : List Text) : unknownCalls catalog (lexeme :: calls) = unknownCalls catalog calls :=
  List.filter_cons_of_neg (by simp [known])

theorem unknownCalls_idem (calls : List Text) :
    unknownCalls catalog (unknownCalls catalog calls) = unknownCalls catalog calls := by
  simp [unknownCalls]

/-- A text none of whose calls is known stays as it is. -/
theorem HasCalls.resolveCalls_eq_self (hasCalls : HasCalls text calls)
    (unknown : ∀ lexeme ∈ calls, catalog.knows (callName lexeme) = false) :
    resolveCalls catalog text = text := by
  induction hasCalls with
  | nil => rfl
  | pass absent _ ih => rw [resolveCalls_cons absent, ih unknown]
  | take here _ ih =>
      rw [List.forall_mem_cons] at unknown
      rw [resolveCalls_append here, resolveCall_of_unknown unknown.1, Option.getD_none,
        ih unknown.2]

/-- Resolving calls leaves those that no known template answers, and brings about no others. -/
theorem HasCalls.resolved (braceless : ∀ name ∈ catalog.names, '{' ∉ name)
    (hasCalls : HasCalls text calls) :
    HasCalls (resolveCalls catalog text) (unknownCalls catalog calls) := by
  induction hasCalls with
  | nil => exact .nil
  | @pass c rest calls absent later ih =>
      -- the text behind only changes if it has a call, which would end one that began here
      by_cases empty : calls = []
      · subst empty
        rw [(HasCalls.pass absent later).resolveCalls_eq_self (List.forall_mem_nil _)]
        exact .pass absent later
      · rw [resolveCalls_cons absent]
        refine ih.cons ?_
        rw [head?_resolveCalls later, ← not_and_or]
        rintro ⟨rfl, opens⟩
        obtain ⟨lexeme, after, split, isCall⟩ := later.exists_isCall_cons empty opens
        exact absent lexeme after split isCall
  | @take lexeme after calls here later ih =>
      rw [resolveCalls_append here]
      cases known : catalog.knows (callName lexeme) with
      | false =>
          rw [resolveCall_of_unknown known, Option.getD_none, unknownCalls_cons_of_unknown known]
          exact .take (here.of_rest _) ih
      | true =>
          have foreign : '{' ∉ "s:".toList ++ Template.bareName (callName lexeme) ++ ['}'] := by
            simp [not_mem_bareName braceless known]
          rw [resolveCall_of_known known, Option.getD_some, unknownCalls_cons_of_known known,
            List.cons_append]
          exact (ih.append_of_not_mem foreign).cons (.inr (by simp))

/-- What is reported are the names of the calls that are left. -/
theorem HasCalls.unresolvedNames_eq (hasCalls : HasCalls text calls) :
    unresolvedNames catalog text = (unknownCalls catalog calls).map callName := by
  rw [unresolvedNames, calledNames_eq, ← hasCalls_iff.mp hasCalls, List.filter_map]
  rfl

/-- Resolving calls is done in one go, if no name in the catalog holds an opening brace: a second
time nothing changes and the same names are reported. The calls of the resolved text are those
of the text that no known template answers, in order and as often, and what is reported are
their names. -/
theorem resolveCalls_stable (braceless : ∀ name ∈ catalog.names, '{' ∉ name) (text : Text) :
    resolveCalls catalog (resolveCalls catalog text) = resolveCalls catalog text ∧
      unresolvedNames catalog (resolveCalls catalog text) = unresolvedNames catalog text ∧
      ∃ calls, (∀ listed, HasCalls text listed ↔ listed = calls) ∧
        (∀ listed, HasCalls (resolveCalls catalog text) listed ↔
          listed = unknownCalls catalog calls) ∧
        unresolvedNames catalog text = (unknownCalls catalog calls).map callName := by
  have hasCalls := hasCalls_piecesFrom true text
  have left := hasCalls.resolved braceless
  refine ⟨left.resolveCalls_eq_self fun _ => knows_of_mem_unknownCalls, ?_, _,
    fun _ => hasCalls_iff, fun listed => ?_, hasCalls.unresolvedNames_eq⟩
  · rw [left.unresolvedNames_eq, hasCalls.unresolvedNames_eq, unknownCalls_idem]
  · rw [hasCalls_iff, ← hasCalls_iff.mp left]

/-- A body with calls among stray braces: behind a known one two more braces close, and behind
an unknown one two open that nothing closes. -/
def strayBraces : Text :=
  "\x7b\x7b\x7b _A\x7d\x7d\x7d\x7d\x7b\x7bB\x7d\x7d\x7b\x7b".toList

theorem resolveCalls_stable_strayBraces :
    (∀ name ∈ fewTemplates.names, '{' ∉ name) ∧
      resolveCalls fewTemplates strayBraces =
        "\x7bs:_A\x7d\x7d\x7d\x7b\x7bB\x7d\x7d\x7b\x7b".toList ∧
      resolveCalls fewTemplates (resolveCalls fewTemplates strayBraces) =
        resolveCalls fewTemplates strayBraces ∧
      unresolvedNames fewTemplates (resolveCalls fewTemplates strayBraces) = ["B".toList] := by
  have braceless : ∀ name ∈ fewTemplates.names, '{' ∉ name := by decide
  have stable := resolveCalls_stable braceless strayBraces
  refine ⟨braceless, by decide +kernel, stable.1, ?_⟩
  rw [stable.2.1]
  decide +kernel

end DekiMigration.Markup
