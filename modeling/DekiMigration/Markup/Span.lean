/-
# Substituting the matches of a pattern

Every pass over a page looks for stretches of a certain form and changes some of
them. A pattern says how long a match is that begins at a given place. Matches
are found from left to right and never overlap: the search goes on behind the
last match. The substitution then walks the text with a cursor, copying the gaps
between matches verbatim, so changed text is never searched again.
-/

import DekiMigration.Text

namespace DekiMigration.Markup

open Text

/-- A stretch of a text, from the position `start` up to the position `stop`. -/
structure Span where
  start : Nat
  stop : Nat
  deriving DecidableEq, Repr

/-- A form that stretches of a text may have. -/
structure Pattern where
  /-- The length of the match that begins at a place, when one does. The place is
  given by the text from there on and by whether a line begins there. -/
  lengthAt? : (lineStart : Bool) → (text : Text) → Option Nat
  /-- A match ends where the text does or before. -/
  length_le : ∀ {lineStart text length},
    lengthAt? lineStart text = some length → length ≤ text.length

namespace Pattern

/-- The form of one given text. -/
def literal (lexeme : Text) : Pattern where
  lengthAt? _ text := if lexeme.isPrefixOf text then some lexeme.length else none
  length_le := by
    intro _ text length found
    split at found
    · next isLead =>
        cases found
        exact (List.isPrefixOf_iff_prefix.mp isLead).length_le
    · cases found

/-- The spans of the matches in the text from `position` on, added to those
already `found`, last first. `inside` counts the characters ahead that belong to
the last match, and `lineStart` tells whether a line begins at `position`. -/
def spansFrom (pattern : Pattern) :
    (position inside : Nat) → (lineStart : Bool) → Text → (found : List Span) → List Span
  | _, _, _, [], found => found.reverse
  | position, inside + 1, _, c :: rest, found =>
    pattern.spansFrom (position + 1) inside (c == '\n') rest found
  | position, 0, lineStart, c :: rest, found =>
    match pattern.lengthAt? lineStart (c :: rest) with
    | some (length + 1) =>
      pattern.spansFrom (position + 1) length (c == '\n') rest
        (⟨position, position + (length + 1)⟩ :: found)
    | _ => pattern.spansFrom (position + 1) 0 (c == '\n') rest found

/-- The spans of the non-empty matches of a pattern, from left to right. -/
def spans (pattern : Pattern) (text : Text) : List Span :=
  pattern.spansFrom 0 0 true text []

/-- Whether a text holds a match. -/
def occursIn (pattern : Pattern) (text : Text) : Bool :=
  !(pattern.spans text).isEmpty

end Pattern

/-- The stretches of a text under the given spans. -/
def stretches (text : Text) (spans : List Span) : List Text :=
  go 0 text [] spans
where
  /-- Goes on from `cursor`, where `rest` is the text that is left. -/
  go : (cursor : Nat) → (rest : Text) → (found : List Text) → List Span → List Text
    | _, _, found, [] => found.reverse
    | cursor, rest, found, span :: spans =>
      let (lexeme, after) := (rest.drop (span.start - cursor)).splitAt (span.stop - span.start)
      go span.stop after (lexeme :: found) spans

/-- Walks on over spans and the stretches under them. The `cursor` stands behind the last
stretch that was replaced, `rest` is the text from there on, and `pieces` is what has been
written so far, last piece first. A stretch that stays leaves the cursor behind and is
copied later, with the gap around it. Where nothing was replaced the text is given back. -/
def spliceFrom (change : Span → Text → Option Text) (text : Text) :
    (cursor : Nat) → (rest : Text) → (pieces : List Text) → List (Span × Text) → Text
  | _, rest, pieces, [] => if pieces.isEmpty then text else (rest :: pieces).reverse.flatten
  | cursor, rest, pieces, (span, lexeme) :: spans =>
    match change span lexeme with
    | none => spliceFrom change text cursor rest pieces spans
    | some piece =>
      let (gap, ahead) := rest.splitAt (span.start - cursor)
      let after := ahead.drop (span.stop - span.start)
      spliceFrom change text span.stop after (piece :: gap :: pieces) spans

/-- Replaces the stretches of a text under the given spans, in order, each by what
`change` makes of the span and the stretch; a stretch for which it makes nothing stays
as it is. -/
def splice (text : Text) (spans : List Span) (change : Span → Text → Option Text) : Text :=
  spliceFrom change text 0 text [] (spans.zip (stretches text spans))

/-- Changes the matches of a pattern. -/
def Pattern.substitute (pattern : Pattern) (change : Text → Option Text) (text : Text) : Text :=
  splice text (pattern.spans text) fun _ lexeme => change lexeme

/-- The text with every occurrence of `old` replaced by `new`, from left to
right. The empty text occurs before every character and at the end. -/
def replaceAll (old new text : Text) : Text :=
  if old.isEmpty then text.flatMap (fun c => new ++ [c]) ++ new
  else (Pattern.literal old).substitute (fun _ => some new) text

/-- Applies the replacements of a table one after the other, each to the result
of those before it. -/
def replaceInOrder (table : List (Text × Text)) (text : Text) : Text :=
  table.foldl (fun text (old, new) => replaceAll old new text) text

/-- The length of the shortest stretch at the front of `text` that `close`
follows and whose characters all satisfy `body`, when there is one. -/
def stretchBefore? (body : Char → Bool) (close : Text) : Text → (passed : Nat := 0) → Option Nat
  | [], passed => if close.isEmpty then some passed else none
  | c :: rest, passed =>
    if close.isPrefixOf (c :: rest) then some passed
    else if body c then stretchBefore? body close rest (passed + 1)
    else none

/-- The length of the shortest enclosed stretch at the front of `text`: `opening`,
at least one character, all of them satisfying `body`, and `close`. -/
def enclosedLength? (opening close : Text) (body : Char → Bool) (text : Text) : Option Nat :=
  match dropLead? opening text with
  | some (c :: rest) =>
    if body c then
      (stretchBefore? body close rest).map (opening.length + 1 + · + close.length)
    else none
  | _ => none

/-- In front of `rest`, a text begins nowhere on a stretch. -/
def Spares (key stretch rest : Text) : Prop :=
  ∀ front back, stretch = front ++ back → back ≠ [] → ¬ key <+: back ++ rest

theorem spares_nil (key rest : Text) : Spares key [] rest := by
  intro front back split nonempty
  exact absurd (List.append_eq_nil_iff.mp split.symm).2 nonempty

theorem spares_cons {key stretch rest : Text} {c : Char} :
    Spares key (c :: stretch) rest ↔
      ¬ key <+: c :: (stretch ++ rest) ∧ Spares key stretch rest := by
  constructor
  · intro spared
    exact ⟨spared [] (c :: stretch) rfl (by simp), fun front back split =>
      spared (c :: front) back (by rw [split, List.cons_append])⟩
  · rintro ⟨here, later⟩ front back split nonempty
    cases front with
    | nil => exact (show c :: stretch = back from split) ▸ here
    | cons d front =>
        rw [List.cons_append, List.cons.injEq] at split
        exact later front back split.2 nonempty

/-- Between `inner` and `rest`, `close` ends a stretch at the first place where it
could: it begins nowhere inside `inner`. -/
def EndsFirst (close inner rest : Text) : Prop :=
  ∀ front back, inner = front ++ back → back ≠ [] → ¬ close <+: back ++ (close ++ rest)

theorem endsFirst_nil (close rest : Text) : EndsFirst close [] rest :=
  spares_nil close (close ++ rest)

theorem endsFirst_cons {close inner rest : Text} {c : Char} :
    EndsFirst close (c :: inner) rest ↔
      ¬ close <+: c :: (inner ++ (close ++ rest)) ∧ EndsFirst close inner rest :=
  spares_cons

/-- A text ends a stretch first when the stretch does not hold its first character. -/
theorem endsFirst_of_not_mem {c : Char} {close inner rest : Text} (absent : c ∉ inner) :
    EndsFirst (c :: close) inner rest := by
  intro front back split nonempty begins
  cases back with
  | nil => exact nonempty rfl
  | cons d back =>
      rw [List.cons_append] at begins
      apply absent
      rw [split, (List.cons_prefix_cons.mp begins).1]
      exact List.mem_append_right front List.mem_cons_self

theorem endsFirst_singleton {c : Char} {inner rest : Text} :
    EndsFirst [c] inner rest ↔ c ∉ inner := by
  refine ⟨fun first inside => ?_, endsFirst_of_not_mem⟩
  obtain ⟨front, back, split⟩ := List.append_of_mem inside
  exact first front (c :: back) split (by simp) ⟨back ++ ([c] ++ rest), rfl⟩

/-- Whether a text ends a stretch first does not hang on what follows it. -/
theorem EndsFirst.of_rest {close inner rest : Text} (first : EndsFirst close inner rest)
    (other : Text) : EndsFirst close inner other := by
  intro front back split nonempty begins
  have inside : close <+: back ++ close := by
    refine List.prefix_of_prefix_length_le begins ⟨other, List.append_assoc _ _ _⟩ ?_
    rw [List.length_append]
    exact Nat.le_add_left _ _
  exact first front back split nonempty (inside.trans ⟨rest, List.append_assoc _ _ _⟩)

/-- A text that occurs ends a stretch somewhere first. -/
theorem exists_endsFirst {close text : Text} (occurs : close <:+: text) :
    ∃ inner rest, text = inner ++ (close ++ rest) ∧ EndsFirst close inner rest := by
  induction text with
  | nil =>
      obtain rfl := List.infix_nil.mp occurs
      exact ⟨[], [], rfl, endsFirst_nil [] []⟩
  | cons c text ih =>
      by_cases begins : close <+: c :: text
      · obtain ⟨rest, text_eq⟩ := begins
        exact ⟨[], rest, text_eq.symm, endsFirst_nil close rest⟩
      · obtain ⟨inner, rest, rfl, first⟩ :=
          ih ((List.infix_cons_iff.mp occurs).resolve_left begins)
        exact ⟨c :: inner, rest, rfl, endsFirst_cons.mpr ⟨begins, first⟩⟩

/-- A stretch is as short as possible: it reaches to the first `close`. -/
theorem stretchBefore?_eq_some {body : Char → Bool} {close text : Text} {passed length : Nat} :
    stretchBefore? body close text passed = some length ↔
      ∃ inner rest, text = inner ++ (close ++ rest) ∧ length = passed + inner.length ∧
        (∀ c ∈ inner, body c) ∧ EndsFirst close inner rest := by
  induction text generalizing passed with
  | nil =>
      cases close with
      | nil =>
          rw [stretchBefore?]
          constructor
          · intro found
            cases found
            exact ⟨[], [], rfl, rfl, by simp, endsFirst_nil [] []⟩
          · rintro ⟨inner, rest, text_eq, rfl, -, -⟩
            simp [(List.append_eq_nil_iff.mp text_eq.symm).1]
      | cons => simp [stretchBefore?]
  | cons c text ih =>
      by_cases closes : close <+: c :: text
      · rw [stretchBefore?, if_pos (List.isPrefixOf_iff_prefix.mpr closes)]
        constructor
        · intro found
          obtain ⟨rest, text_eq⟩ := closes
          cases found
          exact ⟨[], rest, text_eq.symm, rfl, by simp, endsFirst_nil close rest⟩
        · rintro ⟨inner, rest, text_eq, length_eq, -, first⟩
          cases inner with
          | nil => simp [length_eq]
          | cons d inner =>
              refine absurd closes ?_
              rw [text_eq]
              exact first [] (d :: inner) rfl (by simp)
      · rw [stretchBefore?, if_neg (by rwa [List.isPrefixOf_iff_prefix])]
        by_cases allowed : body c
        · rw [if_pos allowed, ih]
          constructor
          · rintro ⟨inner, rest, text_eq, length_eq, bodied, first⟩
            refine ⟨c :: inner, rest, by rw [text_eq, List.cons_append], ?_, ?_, ?_⟩
            · rw [length_eq, List.length_cons]
              omega
            · simpa [allowed] using bodied
            · exact endsFirst_cons.mpr ⟨by rwa [← text_eq], first⟩
          · rintro ⟨inner, rest, text_eq, length_eq, bodied, first⟩
            cases inner with
            | nil => exact absurd ⟨rest, text_eq.symm⟩ closes
            | cons d inner =>
                obtain ⟨rfl, ahead_eq⟩ := List.cons_eq_cons.mp text_eq
                refine ⟨inner, rest, ahead_eq, ?_, ?_, (endsFirst_cons.mp first).2⟩
                · rw [length_eq, List.length_cons]
                  omega
                · exact fun d inside => bodied d (List.mem_cons_of_mem c inside)
        · rw [if_neg allowed]
          constructor
          · intro found
            cases found
          · rintro ⟨inner, rest, text_eq, -, bodied, -⟩
            cases inner with
            | nil => exact absurd ⟨rest, text_eq.symm⟩ closes
            | cons d inner =>
                obtain ⟨rfl, -⟩ := List.cons_eq_cons.mp text_eq
                exact absurd (bodied c List.mem_cons_self) allowed

/-- An enclosed stretch has at least one character and reaches to the first `close`
behind it. -/
theorem enclosedLength?_eq_some {opening close text : Text} {body : Char → Bool}
    {length : Nat} :
    enclosedLength? opening close body text = some length ↔
      ∃ c inner rest, text = opening ++ (c :: inner ++ (close ++ rest)) ∧
        length = opening.length + 1 + inner.length + close.length ∧
        (∀ d ∈ c :: inner, body d) ∧ EndsFirst close inner rest := by
  rw [enclosedLength?]
  constructor
  · intro found
    split at found
    · next c ahead opened =>
        split at found
        · next allowed =>
            obtain ⟨width, stretch, rfl⟩ := Option.map_eq_some_iff.mp found
            obtain ⟨inner, rest, rfl, rfl, bodied, first⟩ := stretchBefore?_eq_some.mp stretch
            refine ⟨c, inner, rest, dropLead?_eq_some.mp opened, by omega, ?_, first⟩
            simpa [allowed] using bodied
        · cases found
    · cases found
  · rintro ⟨c, inner, rest, rfl, rfl, bodied, first⟩
    have stretch : stretchBefore? body close (inner ++ (close ++ rest)) = some inner.length :=
      stretchBefore?_eq_some.mpr ⟨inner, rest, rfl, (Nat.zero_add _).symm,
        fun d inside => bodied d (List.mem_cons_of_mem c inside), first⟩
    rw [dropLead?_eq_some.mpr rfl]
    simp [bodied c List.mem_cons_self, stretch]

theorem enclosedLength?_le_length {opening close text : Text} {body : Char → Bool}
    {length : Nat} (found : enclosedLength? opening close body text = some length) :
    length ≤ text.length := by
  obtain ⟨c, inner, rest, rfl, rfl, -, -⟩ := enclosedLength?_eq_some.mp found
  simp only [List.length_append, List.length_cons]
  omega

end DekiMigration.Markup
