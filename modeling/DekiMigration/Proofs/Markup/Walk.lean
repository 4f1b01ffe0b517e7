/-
# Walking over the matches of a pattern

Searching first and splicing afterwards is one walk over the text: every place
either begins a match, which is taken as a whole, or holds a character that is
passed over. The pieces of the walk put together are the text. Writing each piece,
a match as the change wants it, is the substitution, and the matches among the
pieces are the stretches under the spans that the search finds.

Two principles carry everything that is said about a pass. `walk_induction` follows
the walk itself. `substitute_induction` says that what a single replacement keeps,
whatever stands before and behind it, the whole substitution keeps. Of a pattern that
does not look at where lines begin more can be said: what it makes of a text can be read
off from the front, match by match and stretch by stretch.
-/

import DekiMigration.Markup.MagicWord
import DekiMigration.Proofs.Markup.Splice

namespace DekiMigration.Markup

open Text

/-- What a walk meets: a character outside all matches, or a match. -/
inductive Piece where
  | plain (c : Char)
  | hit (lexeme : Text)
  deriving DecidableEq, Repr

namespace Piece

/-- The stretch that a piece covers. -/
def text : Piece → Text
  | plain c => [c]
  | hit lexeme => lexeme

/-- What a substitution writes for a piece. -/
def written (change : Text → Option Text) : Piece → Text
  | plain c => [c]
  | hit lexeme => (change lexeme).getD lexeme

/-- The match that a piece is. -/
def lexeme? : Piece → Option Text
  | plain _ => none
  | hit lexeme => some lexeme

@[simp] theorem text_plain (c : Char) : (plain c).text = [c] := rfl

@[simp] theorem text_hit (lexeme : Text) : (hit lexeme).text = lexeme := rfl

@[simp] theorem written_plain (change : Text → Option Text) (c : Char) :
    (plain c).written change = [c] := rfl

@[simp] theorem written_hit (change : Text → Option Text) (lexeme : Text) :
    (hit lexeme).written change = (change lexeme).getD lexeme := rfl

@[simp] theorem lexeme?_plain (c : Char) : (plain c).lexeme? = none := rfl

@[simp] theorem lexeme?_hit (lexeme : Text) : (hit lexeme).lexeme? = some lexeme := rfl

end Piece

/-- Whether a line begins behind a stretch that is not empty. -/
def endsLine (stretch : Text) : Bool :=
  stretch.getLast? == some '\n'

namespace Pattern

variable (pattern : Pattern)

/-- A pattern matches `lexeme` in front of `after`. -/
structure Matches (lineStart : Bool) (lexeme after : Text) : Prop where
  nonempty : lexeme ≠ []
  lengthAt?_eq : pattern.lengthAt? lineStart (lexeme ++ after) = some lexeme.length

/-- No match begins at the front of a text. -/
def Missed (lineStart : Bool) (text : Text) : Prop :=
  ∀ length, pattern.lengthAt? lineStart text ≠ some (length + 1)

/-- The pieces of a text, from left to right. -/
def piecesFrom (lineStart : Bool) : Text → List Piece
  | [] => []
  | c :: rest =>
    match pattern.lengthAt? lineStart (c :: rest) with
    | some (length + 1) =>
      let lexeme := c :: rest.take length
      .hit lexeme :: piecesFrom (endsLine lexeme) (rest.drop length)
    | _ => .plain c :: piecesFrom (c == '\n') rest
termination_by text => text.length
decreasing_by all_goals simp only [List.length_drop, List.length_cons]; omega

theorem piecesFrom_nil (lineStart : Bool) : pattern.piecesFrom lineStart [] = [] := by
  rw [piecesFrom]

variable {pattern}

theorem Missed.piecesFrom_cons {lineStart : Bool} {c : Char} {rest : Text}
    (missed : pattern.Missed lineStart (c :: rest)) :
    pattern.piecesFrom lineStart (c :: rest) =
      .plain c :: pattern.piecesFrom (c == '\n') rest := by
  rw [piecesFrom]
  split
  · next length found => exact absurd found (missed length)
  · rfl

theorem Matches.piecesFrom_append {lineStart : Bool} {lexeme after : Text}
    (matched : pattern.Matches lineStart lexeme after) :
    pattern.piecesFrom lineStart (lexeme ++ after) =
      .hit lexeme :: pattern.piecesFrom (endsLine lexeme) after := by
  obtain ⟨nonempty, length_eq⟩ := matched
  cases lexeme with
  | nil => exact absurd rfl nonempty
  | cons c lexeme =>
      rw [List.cons_append] at length_eq ⊢
      rw [piecesFrom, length_eq]
      simp

variable (pattern) in
/-- At every place a match begins or none does. -/
theorem missed_or_matches (lineStart : Bool) (text : Text) :
    pattern.Missed lineStart text ∨
      ∃ lexeme after, text = lexeme ++ after ∧ pattern.Matches lineStart lexeme after := by
  by_cases found : ∃ length, pattern.lengthAt? lineStart text = some (length + 1)
  · obtain ⟨length, found⟩ := found
    have inside := pattern.length_le found
    have width : (text.take (length + 1)).length = length + 1 := by
      rw [List.length_take, Nat.min_eq_left inside]
    refine .inr ⟨text.take (length + 1), text.drop (length + 1),
      (List.take_append_drop _ text).symm, ?_, ?_⟩
    · intro empty
      rw [empty] at width
      cases width
    · rw [List.take_append_drop, width, found]
  · exact .inl fun length isFound => found ⟨length, isFound⟩

variable (pattern) in
/-- Induction along a walk: from behind the character that is passed over, or from
behind the match. -/
theorem walk_induction {motive : Bool → Text → Prop}
    (nil : ∀ lineStart, motive lineStart [])
    (missed : ∀ {lineStart c rest}, pattern.Missed lineStart (c :: rest) →
      motive (c == '\n') rest → motive lineStart (c :: rest))
    (matched : ∀ {lineStart lexeme after}, pattern.Matches lineStart lexeme after →
      motive (endsLine lexeme) after → motive lineStart (lexeme ++ after))
    (lineStart : Bool) (text : Text) : motive lineStart text := by
  induction length : text.length using Nat.strongRecOn generalizing lineStart text with
  | ind _ ih =>
      subst length
      rcases missed_or_matches pattern lineStart text with
        here | ⟨lexeme, after, rfl, here⟩
      · cases text with
        | nil => exact nil lineStart
        | cons c rest => exact missed here (ih _ (Nat.lt_succ_self _) _ _ rfl)
      · refine matched here (ih _ ?_ _ _ rfl)
        have := List.length_pos_iff.mpr here.nonempty
        rw [List.length_append]
        omega

/-- Nothing is lost on a walk. -/
theorem piecesFrom_text (lineStart : Bool) (text : Text) :
    (pattern.piecesFrom lineStart text).flatMap Piece.text = text := by
  induction lineStart, text using walk_induction pattern with
  | nil lineStart => rw [piecesFrom_nil, List.flatMap_nil]
  | missed here ih => rw [here.piecesFrom_cons, List.flatMap_cons, ih]; rfl
  | matched here ih => rw [here.piecesFrom_append, List.flatMap_cons, ih]; rfl

end Pattern

/-- The spans of the matches among pieces, the first of which begins at `position`. -/
def spansOf : (position : Nat) → List Piece → List Span
  | _, [] => []
  | position, .plain _ :: pieces => spansOf (position + 1) pieces
  | position, .hit lexeme :: pieces =>
    ⟨position, position + lexeme.length⟩ :: spansOf (position + lexeme.length) pieces

theorem le_of_mem_spansOf {position : Nat} {pieces : List Piece} {span : Span}
    (isSpan : span ∈ spansOf position pieces) :
    position ≤ span.start ∧ span.start ≤ span.stop := by
  induction pieces generalizing position with
  | nil => cases isSpan
  | cons piece pieces ih =>
      cases piece with
      | plain c =>
          have behind := ih isSpan
          exact ⟨Nat.le_of_succ_le behind.1, behind.2⟩
      | hit lexeme =>
          rcases List.mem_cons.mp isSpan with rfl | later
          · exact ⟨Nat.le_refl _, Nat.le_add_right _ _⟩
          · have behind := ih later
            exact ⟨Nat.le_trans (Nat.le_add_right _ _) behind.1, behind.2⟩

/-- The spans lie one behind the other. -/
theorem pairwise_spansOf (position : Nat) (pieces : List Piece) :
    (spansOf position pieces).Pairwise fun first second => first.stop ≤ second.start := by
  induction pieces generalizing position with
  | nil => exact .nil
  | cons piece pieces ih =>
      cases piece with
      | plain c => exact ih (position + 1)
      | hit lexeme =>
          exact .cons (fun span isSpan => (le_of_mem_spansOf isSpan).1) (ih _)

theorem eq_or_beside_of_mem_spansOf {position : Nat} {pieces : List Piece} {span other : Span}
    (isSpan : span ∈ spansOf position pieces) (isOther : other ∈ spansOf position pieces) :
    span = other ∨ span.stop ≤ other.start ∨ other.stop ≤ span.start := by
  have ordered := pairwise_spansOf position pieces
  exact List.Pairwise.forall_of_forall_of_flip
    (R := fun span other => span = other ∨ span.stop ≤ other.start ∨ other.stop ≤ span.start)
    (fun _ _ => .inl rfl) (ordered.imp fun before => .inr (.inl before))
    (ordered.imp fun before => .inr (.inr before)) isSpan isOther

namespace Pattern

variable {pattern : Pattern}

/-- Inside a match the search only counts the characters. -/
private theorem spansFrom_skip (inside : Text) (position : Nat) (c : Char) (after : Text)
    (found : List Span) :
    pattern.spansFrom position inside.length (c == '\n') (inside ++ after) found =
      pattern.spansFrom (position + inside.length) 0 (endsLine (c :: inside)) after found := by
  induction inside generalizing position c with
  | nil => rfl
  | cons d inside ih =>
      rw [List.cons_append, List.length_cons, spansFrom, ih, Nat.add_right_comm, Nat.add_assoc]
      simp [endsLine]

theorem spansFrom_eq (position : Nat) (lineStart : Bool) (text : Text) (found : List Span) :
    pattern.spansFrom position 0 lineStart text found =
      found.reverse ++ spansOf position (pattern.piecesFrom lineStart text) := by
  induction lineStart, text using walk_induction pattern
      generalizing position found with
  | nil lineStart => rw [piecesFrom_nil, spansOf, spansFrom, List.append_nil]
  | @missed lineStart c rest here ih =>
      rw [here.piecesFrom_cons, spansOf, ← ih, spansFrom]
      split
      · next length isFound => exact absurd isFound (here length)
      · rfl
  | @matched lineStart lexeme after here ih =>
      rw [here.piecesFrom_append, spansOf]
      obtain ⟨nonempty, length_eq⟩ := here
      cases lexeme with
      | nil => exact absurd rfl nonempty
      | cons c inside =>
          rw [List.cons_append] at length_eq ⊢
          rw [spansFrom, length_eq, List.length_cons]
          dsimp only
          rw [spansFrom_skip, Nat.add_right_comm, Nat.add_assoc, ih]
          simp

theorem spans_eq (text : Text) :
    pattern.spans text = spansOf 0 (pattern.piecesFrom true text) :=
  spansFrom_eq 0 true text []

end Pattern

theorem stop_le_of_mem_spansOf {position : Nat} {pieces : List Piece} {span : Span}
    (isSpan : span ∈ spansOf position pieces) :
    span.stop ≤ position + (pieces.flatMap Piece.text).length := by
  induction pieces generalizing position with
  | nil => cases isSpan
  | cons piece pieces ih =>
      rw [List.flatMap_cons, List.length_append]
      cases piece with
      | plain c =>
          have behind := ih isSpan
          rw [Piece.text_plain, List.length_singleton]
          omega
      | hit lexeme =>
          rw [Piece.text_hit]
          rcases List.mem_cons.mp isSpan with rfl | later
          · exact Nat.add_le_add_left (Nat.le_add_right _ _) _
          · have behind := ih later
            omega

/-- The spans of the matches among the pieces of a text lie in it one behind the other. -/
theorem ascending_spansOf (pieces : List Piece) :
    AreAscending (pieces.flatMap Piece.text) (spansOf 0 pieces) where
  ordered := pairwise_spansOf 0 pieces
  inside := by
    intro span isSpan
    have stop_le := stop_le_of_mem_spansOf isSpan
    rw [Nat.zero_add] at stop_le
    exact ⟨(le_of_mem_spansOf isSpan).2, stop_le⟩

/-- The parts of a substitution are the pieces as they are written. They begin behind
`front`, and `gap` holds what has been passed over since. -/
private theorem flatten_partsFrom_spansOf (change : Text → Option Text) {pieces : List Piece}
    {text : Text} (front gap : Text) (split : text = front ++ (gap ++ pieces.flatMap Piece.text)) :
    (partsFrom (fun _ => change) text front.length
        (spansOf (front.length + gap.length) pieces)).flatten =
      gap ++ pieces.flatMap (Piece.written change) := by
  induction pieces generalizing front gap with
  | nil => simp [split, spansOf, partsFrom]
  | cons piece pieces ih =>
      cases piece with
      | plain c =>
          have step := ih front (gap ++ [c]) (by simpa using split)
          rw [List.length_append, ← Nat.add_assoc] at step
          simpa [spansOf] using step
      | hit lexeme =>
          rw [List.flatMap_cons, Piece.text_hit] at split
          have passed : text.extract front.length (front.length + gap.length) = gap :=
            extract_part front split rfl rfl
          have found : text.extract (front.length + gap.length)
              (front.length + gap.length + lexeme.length) = lexeme :=
            extract_part (front ++ gap) (by simpa using split) (by simp) (by simp)
          have step := ih (front ++ (gap ++ lexeme)) [] (by simpa using split)
          rw [List.length_append, List.length_append, ← Nat.add_assoc] at step
          rw [spansOf, partsFrom, Span.written, Span.under, found, passed]
          simpa using step

/-- Splicing at the spans of the matches among pieces writes every piece. -/
theorem splice_spansOf (change : Text → Option Text) (pieces : List Piece) :
    splice (pieces.flatMap Piece.text) (spansOf 0 pieces) (fun _ => change) =
      pieces.flatMap (Piece.written change) := by
  rw [splice_eq (ascending_spansOf pieces)]
  exact flatten_partsFrom_spansOf change [] [] rfl

private theorem stretchesFrom_spansOf (pieces : List Piece) (cursor : Nat) (gap : Text)
    (found : List Text) :
    stretches.go cursor (gap ++ pieces.flatMap Piece.text) found
        (spansOf (cursor + gap.length) pieces) =
      found.reverse ++ pieces.filterMap Piece.lexeme? := by
  induction pieces generalizing cursor gap found with
  | nil => simp [spansOf, stretches.go]
  | cons piece pieces ih =>
      cases piece with
      | plain c =>
          have step := ih cursor (gap ++ [c]) found
          rw [List.length_append, ← Nat.add_assoc] at step
          rw [List.filterMap_cons_none rfl]
          simpa [spansOf] using step
      | hit lexeme =>
          have step := ih (cursor + gap.length + lexeme.length) [] (lexeme :: found)
          rw [spansOf, stretches.go, List.filterMap_cons_some (f := Piece.lexeme?) rfl]
          simp only [List.splitAt_eq, Nat.add_sub_cancel_left, List.flatMap_cons, Piece.text_hit,
            List.take_left, List.drop_left]
          simpa using step

/-- The stretches under the spans of pieces are the matches among them. -/
theorem stretches_spansOf (pieces : List Piece) :
    stretches (pieces.flatMap Piece.text) (spansOf 0 pieces) =
      pieces.filterMap Piece.lexeme? :=
  stretchesFrom_spansOf pieces 0 [] []

namespace Pattern

variable {pattern : Pattern} {change : Text → Option Text}

/-- Changes the matches in a text from whose front on a line may begin. -/
def substituteFrom (pattern : Pattern) (change : Text → Option Text) (lineStart : Bool)
    (text : Text) : Text :=
  (pattern.piecesFrom lineStart text).flatMap (Piece.written change)

theorem substitute_eq (text : Text) :
    pattern.substitute change text = pattern.substituteFrom change true text := by
  rw [substitute, spans_eq, substituteFrom, ← splice_spansOf, piecesFrom_text]

theorem substituteFrom_nil (lineStart : Bool) :
    pattern.substituteFrom change lineStart [] = [] := by
  rw [substituteFrom, piecesFrom_nil, List.flatMap_nil]

theorem Missed.substituteFrom_cons {lineStart : Bool} {c : Char} {rest : Text}
    (missed : pattern.Missed lineStart (c :: rest)) :
    pattern.substituteFrom change lineStart (c :: rest) =
      c :: pattern.substituteFrom change (c == '\n') rest := by
  rw [substituteFrom, missed.piecesFrom_cons, List.flatMap_cons]
  rfl

theorem Matches.substituteFrom_append {lineStart : Bool} {lexeme after : Text}
    (matched : pattern.Matches lineStart lexeme after) :
    pattern.substituteFrom change lineStart (lexeme ++ after) =
      (change lexeme).getD lexeme ++ pattern.substituteFrom change (endsLine lexeme) after := by
  rw [substituteFrom, matched.piecesFrom_append, List.flatMap_cons]
  rfl

/-- What every single replacement keeps, whatever stands before and behind it, the
substitution keeps. The text before is already changed, and the text behind is not. -/
theorem substitute_induction {motive : Text → Prop}
    (step : ∀ {before lineStart lexeme after}, pattern.Matches lineStart lexeme after →
      motive (before ++ (lexeme ++ after)) →
        motive (before ++ ((change lexeme).getD lexeme ++ after)))
    {text : Text} (holds : motive text) : motive (pattern.substitute change text) := by
  rw [substitute_eq]
  suffices walk : ∀ before, motive (before ++ text) →
      motive (before ++ pattern.substituteFrom change true text) from walk [] holds
  clear holds
  induction true, text using walk_induction pattern with
  | nil lineStart =>
      intro before holds
      rwa [substituteFrom_nil]
  | @missed lineStart c rest here ih =>
      intro before holds
      rw [here.substituteFrom_cons, List.append_cons]
      exact ih (before ++ [c]) (by rwa [← List.append_cons])
  | @matched lineStart lexeme after here ih =>
      intro before holds
      rw [here.substituteFrom_append, ← List.append_assoc]
      exact ih _ (by simpa using step here holds)

/-- Whether a match occurs is whether one is met on the walk. -/
theorem occursIn_eq (text : Text) :
    pattern.occursIn text = (pattern.piecesFrom true text).any (·.lexeme?.isSome) := by
  have found : ∀ position pieces,
      (!(spansOf position pieces).isEmpty) = pieces.any (·.lexeme?.isSome) := by
    intro position pieces
    induction pieces generalizing position with
    | nil => rfl
    | cons piece pieces ih =>
        cases piece with
        | plain c => simpa [spansOf] using ih (position + 1)
        | hit lexeme => simp [spansOf]
  rw [occursIn, spans_eq, found]

/-- A text without matches is left as it is. -/
theorem substitute_eq_self {text : Text} (absent : pattern.occursIn text = false) :
    pattern.substitute change text = text := by
  have spans_nil : pattern.spans text = [] := by
    rw [occursIn, Bool.not_eq_false'] at absent
    exact List.isEmpty_iff.mp absent
  rw [substitute, spans_nil]
  rfl

theorem exists_matches_of_occursIn {text : Text} (occurs : pattern.occursIn text = true) :
    ∃ before lineStart lexeme after, text = before ++ (lexeme ++ after) ∧
      pattern.Matches lineStart lexeme after := by
  suffices walk : ∀ start, (pattern.piecesFrom start text).any (·.lexeme?.isSome) = true →
      ∃ before lineStart lexeme after, text = before ++ (lexeme ++ after) ∧
        pattern.Matches lineStart lexeme after from walk true (occursIn_eq text ▸ occurs)
  clear occurs
  intro start occurs
  induction start, text using walk_induction pattern with
  | nil lineStart => simp [piecesFrom_nil] at occurs
  | @missed lineStart c rest here ih =>
      rw [here.piecesFrom_cons, List.any_cons, Piece.lexeme?_plain, Option.isSome_none,
        Bool.false_or] at occurs
      obtain ⟨before, isStart, lexeme, after, rfl, matched⟩ := ih occurs
      exact ⟨c :: before, isStart, lexeme, after, rfl, matched⟩
  | @matched lineStart lexeme after here ih =>
      exact ⟨[], lineStart, lexeme, after, rfl, here⟩

/-- A pattern does not occur in a text without the character that all its matches need, in
them or behind them. -/
theorem not_occursIn_of_mem {c : Char} {text : Text}
    (needed : ∀ {lineStart lexeme after}, pattern.Matches lineStart lexeme after →
      c ∈ lexeme ++ after)
    (foreign : c ∉ text) : pattern.occursIn text = false := by
  apply Bool.eq_false_iff.mpr
  intro occurs
  obtain ⟨before, lineStart, lexeme, after, rfl, matched⟩ := exists_matches_of_occursIn occurs
  exact foreign (List.mem_append_right before (needed matched))

/-- A pattern occurs only where the character stands that all its matches begin with. -/
theorem not_occursIn_of_head {c : Char} {text : Text}
    (heads : ∀ {lineStart lexeme after}, pattern.Matches lineStart lexeme after →
      lexeme.head? = some c)
    (foreign : c ∉ text) : pattern.occursIn text = false :=
  not_occursIn_of_mem
    (fun matched => List.mem_append_left _ (List.mem_of_mem_head? (heads matched))) foreign

/-- No match begins on a stretch, whatever follows it. -/
def PassesOver (pattern : Pattern) (stretch : Text) : Prop :=
  ∀ lineStart front back after, stretch = front ++ back → back ≠ [] →
    pattern.Missed lineStart (back ++ after)

theorem PassesOver.tail {c : Char} {stretch : Text} (passes : pattern.PassesOver (c :: stretch)) :
    pattern.PassesOver stretch := by
  intro lineStart front back after split nonempty
  exact passes lineStart (c :: front) back after (by rw [split, List.cons_append]) nonempty

/-- A pattern whose matches all begin with a lead passes over a stretch that agrees with
the lead nowhere. -/
theorem passesOver_of_lead (lead : Text) {stretch : Text}
    (leads : ∀ {lineStart lexeme after}, pattern.Matches lineStart lexeme after →
      lead <+: lexeme)
    (apart : ∀ cut < stretch.length,
      ¬ lead <+: stretch.drop cut ∧ ¬ stretch.drop cut <+: lead) :
    pattern.PassesOver stretch := by
  intro lineStart front back after split nonempty
  obtain ⟨notAhead, notBehind⟩ : ¬ lead <+: back ∧ ¬ back <+: lead := by
    have within : front.length < stretch.length := by
      rw [split, List.length_append]
      exact Nat.lt_add_of_pos_right (List.length_pos_iff.mpr nonempty)
    have here := apart front.length within
    rwa [split, List.drop_left] at here
  rcases missed_or_matches pattern lineStart (back ++ after) with
    missed | ⟨lexeme, rest, text_eq, matched⟩
  · exact missed
  · have isLead : lead <+: back ++ after :=
      text_eq ▸ (leads matched).trans (List.prefix_append lexeme rest)
    rcases List.prefix_or_prefix_of_prefix isLead (List.prefix_append back after) with
      ahead | behind
    · exact absurd ahead notAhead
    · exact absurd behind notBehind

theorem passesOver_of_head {c : Char} {stretch : Text}
    (heads : ∀ {lineStart lexeme after}, pattern.Matches lineStart lexeme after →
      lexeme.head? = some c)
    (foreign : c ∉ stretch) : pattern.PassesOver stretch := by
  apply passesOver_of_lead [c]
  · intro lineStart lexeme after matched
    obtain ⟨rest, rfl⟩ := List.head?_eq_some_iff.mp (heads matched)
    exact ⟨rest, rfl⟩
  · intro cut within
    have split := List.drop_eq_getElem_cons within
    have other : c ≠ stretch[cut] := fun same => foreign (same ▸ List.getElem_mem within)
    rw [split]
    constructor
    · intro ahead
      exact other (List.cons_prefix_cons.mp ahead).1
    · intro behind
      exact other (List.cons_prefix_cons.mp behind).1.symm

/-- The walk meets nothing on a line that is passed over. -/
theorem PassesOver.piecesFrom_append {line : Text} (passes : pattern.PassesOver (line ++ ['\n']))
    (lineStart : Bool) (text : Text) :
    pattern.piecesFrom lineStart (line ++ '\n' :: text) =
      (line ++ ['\n']).map .plain ++ pattern.piecesFrom true text := by
  induction line generalizing lineStart with
  | nil =>
      have missed : pattern.Missed lineStart ('\n' :: text) :=
        passes lineStart [] ['\n'] text rfl (by simp)
      exact missed.piecesFrom_cons
  | cons c line ih =>
      have missed : pattern.Missed lineStart (c :: (line ++ '\n' :: text)) := by
        have here := passes lineStart [] _ text rfl (by simp)
        simpa using here
      rw [List.cons_append, missed.piecesFrom_cons, ih passes.tail]
      rfl

/-- A substitution leaves a line that is passed over as it is. -/
theorem PassesOver.substitute_append {line : Text} {change : Text → Option Text}
    (passes : pattern.PassesOver (line ++ ['\n'])) (text : Text) :
    pattern.substitute change (line ++ '\n' :: text) =
      line ++ '\n' :: pattern.substitute change text := by
  have kept : ∀ stretch : Text,
      (stretch.map Piece.plain).flatMap (Piece.written change) = stretch := by
    intro stretch
    induction stretch with
    | nil => rfl
    | cons c stretch ih => rw [List.map_cons, List.flatMap_cons, ih]; rfl
  rw [substitute_eq, substitute_eq, substituteFrom, substituteFrom, passes.piecesFrom_append,
    List.flatMap_append, kept, List.append_assoc]
  rfl

/-- Where lines begin makes no difference to what matches. -/
def IgnoresLines (pattern : Pattern) : Prop :=
  ∀ first second text, pattern.lengthAt? first text = pattern.lengthAt? second text

namespace IgnoresLines

variable (ignores : pattern.IgnoresLines)

include ignores

theorem substituteFrom_eq (first second : Bool) (text : Text) :
    pattern.substituteFrom change first text = pattern.substituteFrom change second text := by
  rcases missed_or_matches pattern first text with missed | ⟨lexeme, after, rfl, matched⟩
  · cases text with
    | nil => rw [substituteFrom_nil, substituteFrom_nil]
    | cons c rest =>
        have missed' : pattern.Missed second (c :: rest) := fun length found =>
          missed length ((ignores first second _).trans found)
        rw [missed.substituteFrom_cons, missed'.substituteFrom_cons]
  · have matched' : pattern.Matches second lexeme after :=
      ⟨matched.nonempty, (ignores second first _).trans matched.lengthAt?_eq⟩
    rw [matched.substituteFrom_append, matched'.substituteFrom_append]

theorem substitute_cons {c : Char} {rest : Text} (missed : pattern.Missed true (c :: rest)) :
    pattern.substitute change (c :: rest) = c :: pattern.substitute change rest := by
  rw [substitute_eq, substitute_eq, missed.substituteFrom_cons,
    ignores.substituteFrom_eq (c == '\n') true]

theorem substitute_append {lexeme after : Text} (matched : pattern.Matches true lexeme after) :
    pattern.substitute change (lexeme ++ after) =
      (change lexeme).getD lexeme ++ pattern.substitute change after := by
  rw [substitute_eq, substitute_eq, matched.substituteFrom_append,
    ignores.substituteFrom_eq (endsLine lexeme) true]

/-- A substitution leaves a stretch that is passed over as it is. -/
theorem substitute_append_of_passesOver {stretch : Text} (passes : pattern.PassesOver stretch)
    (text : Text) :
    pattern.substitute change (stretch ++ text) = stretch ++ pattern.substitute change text := by
  induction stretch with
  | nil => rfl
  | cons c stretch ih =>
      have missed : pattern.Missed true (c :: (stretch ++ text)) :=
        passes true [] (c :: stretch) text rfl (by simp)
      rw [List.cons_append, ignores.substitute_cons missed, ih passes.tail, List.cons_append]

end IgnoresLines

end Pattern

/-- The names called in a text are those of the calls met on the walk. -/
theorem calledNames_eq (text : Text) :
    calledNames text = ((call.piecesFrom true text).filterMap Piece.lexeme?).map callName := by
  rw [calledNames, Pattern.spans_eq, ← stretches_spansOf, Pattern.piecesFrom_text]

end DekiMigration.Markup
