/-
# Calls

Which stretches of a text are calls is decided by the text alone: from left to right each
call is the shortest stretch in double braces that holds at least one character, and the
search goes on behind it. No catalog has a say in that, so a larger catalog answers more of
the same calls, and the empty one leaves all of them open.
-/

import DekiMigration.Proofs.Markup.Contents
import DekiMigration.Proofs.Template

namespace DekiMigration.Markup

open Text

/-- A call in front of a text: at least one character in double braces, which close as soon
as they can. -/
def IsCall (lexeme after : Text) : Prop :=
  ∃ c inner, lexeme = '{' :: '{' :: c :: (inner ++ ['}', '}']) ∧
    EndsFirst ['}', '}'] inner after

/-- The calls of a text from left to right. A character is passed over when no call begins
with it, and a call is taken as a whole. -/
inductive HasCalls : Text → List Text → Prop
  | nil : HasCalls [] []
  | pass {c : Char} {rest : Text} {calls : List Text}
      (absent : ∀ lexeme after, c :: rest = lexeme ++ after → ¬ IsCall lexeme after)
      (later : HasCalls rest calls) : HasCalls (c :: rest) calls
  | take {lexeme after : Text} {calls : List Text} (here : IsCall lexeme after)
      (later : HasCalls after calls) : HasCalls (lexeme ++ after) (lexeme :: calls)

theorem call_matches {lineStart : Bool} {lexeme after : Text} :
    call.Matches lineStart lexeme after ↔ IsCall lexeme after := by
  constructor
  · intro matched
    obtain ⟨c, inner, rest, text_eq, length_eq, -, first⟩ :=
      enclosedLength?_eq_some.mp matched.lengthAt?_eq
    obtain ⟨lexeme_eq, rfl⟩ :
        lexeme = '{' :: '{' :: c :: (inner ++ ['}', '}']) ∧ after = rest := by
      apply List.append_inj
      · simpa using text_eq
      · simp only [List.length_cons, List.length_nil, List.length_append] at length_eq ⊢
        omega
    exact ⟨c, inner, lexeme_eq, first⟩
  · rintro ⟨c, inner, rfl, first⟩
    have found : enclosedLength? ['{', '{'] ['}', '}'] (fun _ => true)
        ('{' :: '{' :: c :: (inner ++ ['}', '}']) ++ after) =
          some ('{' :: '{' :: c :: (inner ++ ['}', '}'])).length := by
      refine enclosedLength?_eq_some.mpr ⟨c, inner, after, by simp, ?_, by simp, first⟩
      simp only [List.length_cons, List.length_nil, List.length_append]
      omega
    exact ⟨by simp, found⟩

theorem call_missed {lineStart : Bool} {text : Text} :
    call.Missed lineStart text ↔
      ∀ lexeme after, text = lexeme ++ after → ¬ IsCall lexeme after := by
  constructor
  · rintro missed lexeme after rfl isCall
    have matched : call.Matches lineStart lexeme after := call_matches.mpr isCall
    obtain ⟨length, length_eq⟩ :=
      Nat.exists_eq_succ_of_ne_zero (mt List.length_eq_zero_iff.mp matched.nonempty)
    exact missed length (matched.lengthAt?_eq.trans (congrArg some length_eq))
  · intro absent
    rcases Pattern.missed_or_matches call lineStart text with
      missed | ⟨lexeme, after, text_eq, matched⟩
    · exact missed
    · exact absurd (call_matches.mp matched) (absent lexeme after text_eq)

theorem call_ignoresLines : call.IgnoresLines :=
  fun _ _ _ => rfl

/-- The matches that are met on the walk are the calls. -/
theorem hasCalls_piecesFrom (lineStart : Bool) (text : Text) :
    HasCalls text ((call.piecesFrom lineStart text).filterMap Piece.lexeme?) := by
  induction lineStart, text using Pattern.walk_induction call with
  | nil lineStart =>
      rw [Pattern.piecesFrom_nil]
      exact .nil
  | missed here ih =>
      rw [here.piecesFrom_cons]
      exact .pass (call_missed.mp here) ih
  | matched here ih =>
      rw [here.piecesFrom_append]
      exact .take (call_matches.mp here) ih

/-- A text determines its calls. -/
theorem HasCalls.eq_piecesFrom {text : Text} {calls : List Text} (hasCalls : HasCalls text calls)
    (lineStart : Bool) :
    calls = (call.piecesFrom lineStart text).filterMap Piece.lexeme? := by
  induction hasCalls generalizing lineStart with
  | nil => rw [Pattern.piecesFrom_nil, List.filterMap_nil]
  | pass absent _ ih =>
      have missed : call.Missed lineStart _ := call_missed.mpr absent
      rw [missed.piecesFrom_cons]
      exact ih _
  | take here _ ih =>
      have matched : call.Matches lineStart _ _ := call_matches.mpr here
      rw [matched.piecesFrom_append, List.filterMap_cons_some (f := Piece.lexeme?) rfl, ← ih]

/-- The calls of a text are the matches that are met on the walk, and no others. -/
theorem hasCalls_iff {text : Text} {calls : List Text} :
    HasCalls text calls ↔ calls = (call.piecesFrom true text).filterMap Piece.lexeme? :=
  ⟨fun hasCalls => hasCalls.eq_piecesFrom true, fun found => found ▸ hasCalls_piecesFrom true text⟩

/-- A catalog matters only for what it knows. -/
theorem transform_eq_of_knows {first second : Template.Catalog}
    (same : ∀ name, first.knows name = second.knows name) (content : Text) (isTemplate : Bool) :
    transform content first isTemplate = transform content second isTemplate := by
  have resolved : resolveCall first = resolveCall second := by
    funext lexeme
    rw [resolveCall, resolveCall, same]
  have unresolved : ∀ text, unresolvedNames first text = unresolvedNames second text := by
    intro text
    simp only [unresolvedNames, same]
  rw [transform, transform, resolveCalls, resolveCalls, resolved, unresolved]

/-- The last pass reports the open calls of the text that the others leave. -/
theorem magicWords_transform (content : Text) (catalog : Template.Catalog) (isTemplate : Bool) :
    (transform content catalog isTemplate).magicWords =
      unresolvedNames catalog (restructure content isTemplate) := by
  rw [transform]

theorem unresolvedNames_of_subset {few many : Template.Catalog} (more : few.names ⊆ many.names)
    (text : Text) :
    unresolvedNames many text = (unresolvedNames few text).filter fun name => !many.knows name := by
  rw [unresolvedNames, unresolvedNames, List.filter_filter]
  apply List.filter_congr
  intro name _
  cases unknown : few.knows name with
  | false => simp
  | true => simp [Template.Catalog.knows_of_subset more unknown]

/-- With more templates fewer calls stay open: those that the further templates answer are
no longer reported, and the others are, in the same order and as often. With the same
templates all is the same, and without any the calls that the text has are reported. -/
theorem transformContent_magicWords_of_subset (content : Option Text) (isTemplate : Bool)
    {few many : Template.Catalog} (more : few.names ⊆ many.names) :
    (transformContent content many isTemplate).magicWords =
        (transformContent content few isTemplate).magicWords.filter (fun name => !many.knows name) ∧
      (many.names ⊆ few.names →
        transformContent content many isTemplate = transformContent content few isTemplate) ∧
      ∃ calls, (∀ listed, HasCalls (restructure (content.getD []) isTemplate) listed ↔
          listed = calls) ∧
        (transformContent content .empty isTemplate).magicWords = calls.map callName := by
  simp only [transformContent_eq, magicWords_transform]
  refine ⟨unresolvedNames_of_subset more _, fun fewer => ?_, _, fun _ => hasCalls_iff, ?_⟩
  · exact transform_eq_of_knows (Template.Catalog.knows_eq_of_subset fewer more) _ isTemplate
  · rw [unresolvedNames, ← calledNames_eq]
    simp [Template.Catalog.knows_empty]

/-- A body with calls that repeat, one of them qualified, and braces that close late. -/
def callingBody : Text :=
  "\x7b\x7bB\x7d\x7d \x7b\x7btemplate: A\x7d\x7d\n".toList ++
    "\x7b\x7bB\x7d\x7d \x7b\x7b\x7bC\x7d\x7d\x7d".toList

/-- A catalog that knows a name only without its qualifier. -/
def fewTemplates : Template.Catalog := ⟨["_A".toList]⟩

/-- A catalog with another name. -/
def moreTemplates : Template.Catalog := ⟨["B".toList, "_A".toList]⟩

theorem transformContent_magicWords_of_subset_callingBody :
    fewTemplates.names ⊆ moreTemplates.names ∧
      (transformContent (some callingBody) fewTemplates false).magicWords =
        ["B".toList, "B".toList, "C".toList] ∧
      (transformContent (some callingBody) moreTemplates false).magicWords = ["C".toList] := by
  have more : fewTemplates.names ⊆ moreTemplates.names := by decide +kernel
  have reported : (transformContent (some callingBody) fewTemplates false).magicWords =
      ["B".toList, "B".toList, "C".toList] := by
    decide +kernel
  refine ⟨more, reported, ?_⟩
  rw [(transformContent_magicWords_of_subset (some callingBody) false more).1, reported]
  decide +kernel

end DekiMigration.Markup
