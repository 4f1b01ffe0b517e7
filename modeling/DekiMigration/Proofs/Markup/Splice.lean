/-
# Splicing is plain substitution

The splice follows a text with a cursor that only moves when something is replaced, so a
stretch that stays is copied late, together with the gaps on both sides of it. What comes
out is all the same what one would write down at once: the gaps between the spans as they
are, and between them what takes the place of each stretch. The invariant is that from the
cursor up to the span to be looked at next everything is still to be copied as it stands.
-/

import DekiMigration.Markup.Span

namespace DekiMigration.Markup

open Text

/-- The stretch of a text under a span. -/
def Span.under (span : Span) (text : Text) : Text :=
  text.extract span.start span.stop

/-- What is written for the stretch under a span: its replacement, or else the stretch
itself. -/
def Span.written (change : Span → Text → Option Text) (text : Text) (span : Span) : Text :=
  (change span (span.under text)).getD (span.under text)

/-- The parts of a plain substitution from a position on: by turns a gap as it is and what
is written for the stretch behind it, and in the end the rest of the text. -/
def partsFrom (change : Span → Text → Option Text) (text : Text) : Nat → List Span → List Text
  | position, [] => [text.drop position]
  | position, span :: spans =>
    text.extract position span.start :: span.written change text ::
      partsFrom change text span.stop spans

/-- Spans in a text that lie one behind the other. -/
structure AreAscending (text : Text) (spans : List Span) : Prop where
  ordered : spans.Pairwise fun first second => first.stop ≤ second.start
  inside : ∀ span ∈ spans, span.start ≤ span.stop ∧ span.stop ≤ text.length

/-- No span begins before a position. -/
def BeginFrom (position : Nat) (spans : List Span) : Prop :=
  ∀ span ∈ spans, position ≤ span.start

section Ascending

variable {text : Text} {span : Span} {spans : List Span}

theorem beginFrom_zero (spans : List Span) : BeginFrom 0 spans :=
  fun span _ => Nat.zero_le span.start

theorem AreAscending.beginFrom (ascending : AreAscending text (span :: spans)) :
    BeginFrom span.stop spans :=
  (List.pairwise_cons.mp ascending.ordered).1

theorem AreAscending.tail (ascending : AreAscending text (span :: spans)) :
    AreAscending text spans :=
  ⟨ascending.ordered.of_cons, fun other later =>
    ascending.inside other (List.mem_cons_of_mem span later)⟩

end Ascending

section Cutting

variable (text : Text) {first second third : Nat}

theorem extract_append_drop (ordered : first ≤ second) :
    text.extract first second ++ text.drop second = text.drop first := by
  have split := List.take_append_drop (second - first) (text.drop first)
  rwa [List.drop_drop, Nat.add_sub_cancel' ordered] at split

theorem extract_append_extract (ordered : first ≤ second) (ordered' : second ≤ third) :
    text.extract first second ++ text.extract second third = text.extract first third := by
  have width : third - first = (second - first) + (third - second) := by omega
  rw [List.extract_eq_take_drop, List.extract_eq_take_drop, List.extract_eq_take_drop, width,
    List.take_add, List.drop_drop, Nat.add_sub_cancel' ordered]

variable {text} in
/-- A part of a text is cut out by its place. -/
theorem extract_part (front : Text) {part rest : Text} (split : text = front ++ (part ++ rest))
    (first_eq : first = front.length) (second_eq : second = front.length + part.length) :
    text.extract first second = part := by
  rw [split, first_eq, second_eq, List.extract_eq_take_drop, List.drop_left,
    Nat.add_sub_cancel_left, List.take_left]

end Cutting

section Walk

variable {change : Span → Text → Option Text} {text : Text} {position : Nat}
  {spans : List Span}

private theorem stretchesFrom_eq (ascending : AreAscending text spans)
    (ahead : BeginFrom position spans) (found : List Text) :
    stretches.go position (text.drop position) found spans =
      found.reverse ++ spans.map (·.under text) := by
  induction spans generalizing position found with
  | nil => simp [stretches.go]
  | cons span spans ih =>
      have begins : position ≤ span.start := ahead span List.mem_cons_self
      have wide := (ascending.inside span List.mem_cons_self).1
      rw [stretches.go]
      simp only [List.splitAt_eq, List.drop_drop, Nat.add_sub_cancel' begins,
        Nat.add_sub_cancel' wide]
      rw [ih ascending.tail ascending.beginFrom]
      simp [Span.under]

/-- The stretches under ascending spans are found in one walk. -/
theorem stretches_eq (ascending : AreAscending text spans) :
    stretches text spans = spans.map (·.under text) :=
  stretchesFrom_eq ascending (beginFrom_zero spans) []

variable (change) in
/-- From the cursor up to `position` the text is still to be copied. Nothing has been
written only if the cursor stands in front. -/
theorem spliceFrom_eq {cursor : Nat} (pieces : List Text) (behind : cursor ≤ position)
    (fresh : pieces = [] → cursor = 0) (ascending : AreAscending text spans)
    (ahead : BeginFrom position spans) :
    spliceFrom change text cursor (text.drop cursor) pieces
        (spans.map fun span => (span, span.under text)) =
      pieces.reverse.flatten ++ (text.extract cursor position ++
        (partsFrom change text position spans).flatten) := by
  induction spans generalizing cursor position pieces with
  | nil =>
      rw [partsFrom, List.flatten_singleton, extract_append_drop text behind, List.map_nil,
        spliceFrom]
      cases pieces with
      | nil => rw [fresh rfl]; rfl
      | cons piece pieces => simp
  | cons span spans ih =>
      have begins : position ≤ span.start := ahead span List.mem_cons_self
      have wide := (ascending.inside span List.mem_cons_self).1
      rw [List.map_cons, spliceFrom, partsFrom, List.flatten_cons, List.flatten_cons,
        Span.written]
      cases replaced : change span (span.under text) with
      | none =>
          -- the stretch and the gap in front of it join what is still to be copied
          dsimp only
          rw [ih pieces (Nat.le_trans behind (Nat.le_trans begins wide)) fresh ascending.tail
            ascending.beginFrom, Option.getD_none, Span.under,
            ← extract_append_extract text behind (Nat.le_trans begins wide),
            ← extract_append_extract text begins wide]
          simp only [List.append_assoc]
      | some piece =>
          have gap : (text.drop cursor).take (span.start - cursor) =
              text.extract cursor position ++ text.extract position span.start :=
            (extract_append_extract text behind begins).symm
          have reached : (text.drop cursor).drop (span.start - cursor) = text.drop span.start := by
            rw [List.drop_drop, Nat.add_sub_cancel' (Nat.le_trans behind begins)]
          have passed : (text.drop span.start).drop (span.stop - span.start) =
              text.drop span.stop := by
            rw [List.drop_drop, Nat.add_sub_cancel' wide]
          dsimp only
          rw [List.splitAt_eq, gap, reached, passed, ih _ (Nat.le_refl _) (by simp) ascending.tail
            ascending.beginFrom, Option.getD_some]
          simp

/-- The splice writes the parts of the plain substitution. -/
theorem splice_eq (ascending : AreAscending text spans) :
    splice text spans change = (partsFrom change text 0 spans).flatten := by
  have paired : spans.zip (stretches text spans) =
      spans.map fun span => (span, span.under text) := by
    rw [stretches_eq ascending, List.map_prod_left_eq_zip]
  have walked := spliceFrom_eq change [] (Nat.le_refl 0) (fun _ => rfl) ascending
    (beginFrom_zero spans)
  rw [splice, paired]
  simpa using walked

/-- Where every stretch stays, the parts of the plain substitution are those of the text. -/
theorem flatten_partsFrom_of_stays (ascending : AreAscending text spans)
    (ahead : BeginFrom position spans)
    (stays : ∀ span ∈ spans, change span (span.under text) = none) :
    (partsFrom change text position spans).flatten = text.drop position := by
  induction spans generalizing position with
  | nil => rw [partsFrom, List.flatten_singleton]
  | cons span spans ih =>
      have begins : position ≤ span.start := ahead span List.mem_cons_self
      have wide := (ascending.inside span List.mem_cons_self).1
      rw [partsFrom, List.flatten_cons, List.flatten_cons, Span.written,
        stays span List.mem_cons_self, Option.getD_none, Span.under,
        ih ascending.tail ascending.beginFrom fun other later =>
          stays other (List.mem_cons_of_mem span later),
        extract_append_drop text wide, extract_append_drop text begins]

end Walk

/-- Over any ascending spans and with any changes, which may hang on the place of a stretch
as well as on the stretch, the splice is the plain substitution: in order the gaps between
the spans, and between them each replacement, or the stretch itself where there is none. In
particular a text in which nothing is replaced is given back. -/
theorem splice_isPlain {text : Text} {spans : List Span} (ascending : AreAscending text spans)
    (change : Span → Text → Option Text) :
    splice text spans change = (partsFrom change text 0 spans).flatten ∧
      ((∀ span ∈ spans, change span (span.under text) = none) →
        splice text spans change = text) := by
  refine ⟨splice_eq ascending, fun stays => ?_⟩
  rw [splice_eq ascending, flatten_partsFrom_of_stays ascending (beginFrom_zero spans) stays,
    List.drop_zero]

/-- Of three equal letters the first is deleted, the one beside it stays and the last is
replaced. -/
theorem splice_isPlain_equalLetters :
    AreAscending "aabca".toList [⟨0, 1⟩, ⟨1, 2⟩, ⟨4, 5⟩] ∧
      splice "aabca".toList [⟨0, 1⟩, ⟨1, 2⟩, ⟨4, 5⟩] (fun span _ =>
        if span.start = 0 then some [] else if span.start = 4 then some "XY".toList else none) =
          "abcXY".toList ∧
      splice "aabca".toList [⟨0, 1⟩, ⟨1, 2⟩, ⟨4, 5⟩] (fun _ _ => none) = "aabca".toList := by
  have ascending : AreAscending "aabca".toList [⟨0, 1⟩, ⟨1, 2⟩, ⟨4, 5⟩] :=
    ⟨by decide, by decide⟩
  refine ⟨ascending, ?_, (splice_isPlain ascending _).2 fun _ _ => rfl⟩
  rw [(splice_isPlain ascending _).1]
  decide

end DekiMigration.Markup
