/-
# Guarded hyphens

A text is guarded when every pair of hyphens in it stands in a wrapper. Guarded texts can
be put together unless two hyphens meet at the seam, and a guarded text can be cut
anywhere but inside a wrapper. A character that no wrapper holds is always a place to cut:
brackets, braces, bars, signs, blanks and line feeds are such characters, and they are all
that the passes take away or put in around what they keep.
-/

import DekiMigration.Markup.Dash
import DekiMigration.Proofs.Text.Parts

namespace DekiMigration.Markup

open Text

/-- What stands in front of a pair of hyphens that is shown as it is. -/
def wrapOpening : Text := "<nowiki>".toList

/-- What stands behind it. -/
def wrapClosing : Text := "</nowiki>".toList

theorem wrappedDash_eq : wrappedDash = wrapOpening ++ (dash ++ wrapClosing) := by
  decide

/-- Every pair of hyphens stands in a wrapper. -/
def Guarded (text : Text) : Prop :=
  ∀ before after, text = before ++ (dash ++ after) →
    wrapOpening <:+ before ∧ wrapClosing <+: after

theorem guarded_iff {text : Text} :
    Guarded text ↔ ∀ cut < text.length, dash <+: text.drop cut →
      wrapOpening <:+ text.take cut ∧ wrapClosing <+: text.drop (cut + 2) := by
  constructor
  · rintro guarded cut - ⟨after, ahead⟩
    have split : text = text.take cut ++ (dash ++ after) := by
      rw [ahead, List.take_append_drop]
    have behind : text.drop (cut + 2) = after := by
      rw [← List.drop_drop, ← ahead]
      rfl
    rw [behind]
    exact guarded _ after split
  · rintro here before after rfl
    have found := here before.length (by simp [dash]) (by simp)
    rwa [List.take_left, ← List.drop_drop, List.drop_left] at found

instance (text : Text) : Decidable (Guarded text) :=
  decidable_of_iff _ guarded_iff.symm

theorem guarded_of_dashless {text : Text} (dashless : ¬ dash <:+: text) : Guarded text := by
  intro before after text_eq
  exact absurd ⟨before, after, by rw [text_eq, List.append_assoc]⟩ dashless

theorem guarded_of_hyphenless {text : Text} (hyphenless : '-' ∉ text) : Guarded text := by
  apply guarded_of_dashless
  intro inside
  exact hyphenless (inside.subset List.mem_cons_self)

theorem guarded_wrappedDash : Guarded wrappedDash := by
  decide

theorem guarded_nil : Guarded [] :=
  guarded_of_hyphenless List.not_mem_nil

/-- Guarded texts can be put together where no two hyphens meet. -/
theorem Guarded.append {first second : Text} (guarded : Guarded first)
    (guarded' : Guarded second)
    (apart : first.getLast? ≠ some '-' ∨ second.head? ≠ some '-') :
    Guarded (first ++ second) := by
  intro before after split
  rcases List.append_eq_append_iff.mp split with
    ⟨rest, rfl, ahead⟩ | ⟨rest, rfl, ahead⟩
  · -- the pair lies in the second text
    obtain ⟨opened, closed⟩ := guarded' rest after ahead
    exact ⟨opened.trans (List.suffix_append first rest), closed⟩
  · match rest, ahead with
    | [], ahead =>
        obtain ⟨opened, closed⟩ := guarded' [] after ahead.symm
        rw [List.suffix_nil.mp opened]
        exact ⟨List.nil_suffix, closed⟩
    | [c], ahead =>
        -- the seam runs between the two hyphens
        simp only [dash, List.cons_append, List.nil_append, List.cons.injEq] at ahead
        obtain ⟨rfl, rfl⟩ := ahead
        simp at apart
    | c :: d :: rest, ahead =>
        simp only [dash, List.cons_append, List.nil_append, List.cons.injEq] at ahead
        obtain ⟨rfl, rfl, rfl⟩ := ahead
        obtain ⟨opened, closed⟩ := guarded before rest rfl
        exact ⟨opened, closed.trans (List.prefix_append rest second)⟩

/-- The seam of two texts runs through a wrapper. -/
def CutsWrapper (first second : Text) : Prop :=
  ∃ front back, wrappedDash = front ++ back ∧ front ≠ [] ∧ back ≠ [] ∧
    front <:+ first ∧ back <+: second

/-- A guarded text can be cut outside its wrappers. -/
theorem Guarded.cut {first second : Text} (guarded : Guarded (first ++ second))
    (outside : ¬ CutsWrapper first second) : Guarded first ∧ Guarded second := by
  constructor
  · intro before after split
    obtain ⟨opened, closed⟩ := guarded before (after ++ second) (by simp [split])
    refine ⟨opened, ?_⟩
    rcases List.prefix_or_prefix_of_prefix closed (List.prefix_append after second) with
      inside | ⟨rest, closing_eq⟩
    · exact inside
    · by_cases complete : rest = []
      · rw [complete, List.append_nil] at closing_eq
        exact closing_eq ▸ List.prefix_rfl
      · obtain ⟨earlier, rfl⟩ := opened
        refine absurd ⟨wrapOpening ++ (dash ++ after), rest, ?_, by simp [dash], complete,
          ⟨earlier, by simp [split]⟩, ?_⟩ outside
        · rw [wrappedDash_eq, ← closing_eq, List.append_assoc, List.append_assoc]
        · rwa [← closing_eq, List.prefix_append_right_inj] at closed
  · intro before after split
    obtain ⟨opened, closed⟩ := guarded (first ++ before) after (by simp [split])
    refine ⟨?_, closed⟩
    rcases List.suffix_or_suffix_of_suffix opened (List.suffix_append first before) with
      inside | ⟨rest, opening_eq⟩
    · exact inside
    · by_cases complete : rest = []
      · rw [complete, List.nil_append] at opening_eq
        exact opening_eq ▸ List.suffix_rfl
      · obtain ⟨later, rfl⟩ := closed
        refine absurd ⟨rest, before ++ (dash ++ wrapClosing), ?_, complete, by simp [dash], ?_,
          ⟨later, by simp [split]⟩⟩ outside
        · rw [wrappedDash_eq, ← opening_eq, List.append_assoc]
        · obtain ⟨earlier, before_eq⟩ := opened
          rw [← opening_eq, ← List.append_assoc] at before_eq
          exact ⟨earlier, List.append_cancel_right before_eq⟩

/-- No wrapper runs out of a text in which none opens. -/
theorem not_cutsWrapper_of_unopened {first second : Text} (unopened : '<' ∉ first) :
    ¬ CutsWrapper first second := by
  rintro ⟨front, back, split, nonempty, -, isEnd, -⟩
  cases front with
  | nil => exact nonempty rfl
  | cons c front =>
      have head : wrappedDash.head? = some c := by
        rw [split]
        rfl
      have opens : c = '<' := Option.some.inj (head.symm.trans (by decide))
      exact unopened (isEnd.subset (opens ▸ List.mem_cons_self))

/-- A character that no wrapper holds. -/
def IsForeign (c : Char) : Prop :=
  c ∉ wrappedDash

instance (c : Char) : Decidable (IsForeign c) :=
  inferInstanceAs (Decidable (c ∉ wrappedDash))

/-- The signs of the markup are foreign. -/
theorem isForeign_of_mem {c : Char}
    (listed : c ∈ ['[', ']', '{', '}', '|', '=', '!', '_', ':', '#', ' ', '\n']) :
    IsForeign c := by
  have checked : ∀ c ∈ ['[', ']', '{', '}', '|', '=', '!', '_', ':', '#', ' ', '\n'],
      c ∉ wrappedDash := by
    decide
  exact checked c listed

theorem isForeign_of_isBlank {c : Char} (blank : isBlank c) : IsForeign c := by
  have visible : ∀ c ∈ wrappedDash, isBlank c = false := by decide
  intro inside
  rw [visible c inside] at blank
  cases blank

theorem IsForeign.ne_hyphen {c : Char} (foreign : IsForeign c) : c ≠ '-' := by
  rintro rfl
  exact foreign (by decide)

theorem IsForeign.ne_opening {c : Char} (foreign : IsForeign c) : c ≠ '<' := by
  rintro rfl
  exact foreign (by decide)

/-- No wrapper runs into a text that a foreign character begins. -/
theorem not_cutsWrapper_of_head {c : Char} (foreign : IsForeign c) {first second : Text} :
    ¬ CutsWrapper first (c :: second) := by
  rintro ⟨front, back, split, -, nonempty, -, isStart⟩
  cases back with
  | nil => exact nonempty rfl
  | cons d back =>
      have same := (List.cons_prefix_cons.mp isStart).1
      apply foreign
      rw [split, ← same]
      exact List.mem_append_right front List.mem_cons_self

/-- A foreign character is a place to cut. -/
theorem guarded_append_cons {c : Char} (foreign : IsForeign c) (before after : Text) :
    Guarded (before ++ c :: after) ↔ Guarded before ∧ Guarded after := by
  constructor
  · intro guarded
    have apart := guarded.cut (not_cutsWrapper_of_head foreign)
    have unopened : '<' ∉ [c] := by simp [foreign.ne_opening.symm]
    have ahead : Guarded ([c] ++ after) := apart.2
    exact ⟨apart.1, (ahead.cut (not_cutsWrapper_of_unopened unopened)).2⟩
  · rintro ⟨guarded, guarded'⟩
    have single : Guarded [c] := guarded_of_hyphenless (by simp [foreign.ne_hyphen.symm])
    have back : Guarded ([c] ++ after) :=
      single.append guarded' (.inl (by simp [foreign.ne_hyphen]))
    exact guarded.append back (.inr (by simp [foreign.ne_hyphen]))

theorem guarded_cons {c : Char} (foreign : IsForeign c) {text : Text} :
    Guarded (c :: text) ↔ Guarded text := by
  have split := guarded_append_cons foreign [] text
  rwa [List.nil_append, and_iff_right guarded_nil] at split

theorem guarded_append_of_foreign {front : Text} (foreign : ∀ c ∈ front, IsForeign c)
    (text : Text) : Guarded (front ++ text) ↔ Guarded text := by
  induction front with
  | nil => rfl
  | cons c front ih =>
      rw [List.cons_append, guarded_cons (foreign c List.mem_cons_self),
        ih fun d inside => foreign d (List.mem_cons_of_mem c inside)]

theorem guarded_append_foreign {text back : Text} (foreign : ∀ c ∈ back, IsForeign c) :
    Guarded (text ++ back) ↔ Guarded text := by
  cases back with
  | nil => rw [List.append_nil]
  | cons c back =>
      have others : Guarded back := by
        have all := guarded_append_of_foreign
          (fun d inside => foreign d (List.mem_cons_of_mem c inside)) []
        rw [List.append_nil] at all
        exact all.mpr guarded_nil
      rw [guarded_append_cons (foreign c List.mem_cons_self), and_iff_left others]

theorem guarded_append_of_head {first second : Text}
    (head : ∃ c ∈ second.head?, IsForeign c) :
    Guarded (first ++ second) ↔ Guarded first ∧ Guarded second := by
  obtain ⟨c, isHead, foreign⟩ := head
  obtain ⟨rest, rfl⟩ := List.head?_eq_some_iff.mp isHead
  rw [guarded_append_cons foreign, guarded_cons foreign]

theorem guarded_append_of_last {first second : Text}
    (last : ∃ c ∈ first.getLast?, IsForeign c) :
    Guarded (first ++ second) ↔ Guarded first ∧ Guarded second := by
  obtain ⟨c, isLast, foreign⟩ := last
  obtain ⟨rest, rfl⟩ := List.getLast?_eq_some_iff.mp isLast
  rw [List.append_assoc, List.singleton_append, guarded_append_cons foreign,
    guarded_append_cons foreign, and_iff_left guarded_nil]

theorem Guarded.trim {text : Text} (guarded : Guarded text) : Guarded (trim text) := by
  obtain ⟨front, back, text_eq, blankFront, blankBack⟩ := exists_trim text
  rw [text_eq, guarded_append_of_foreign fun c inside => isForeign_of_isBlank (blankFront c inside),
    guarded_append_foreign fun c inside => isForeign_of_isBlank (blankBack c inside)] at guarded
  exact guarded

/-- Characters may be spelled otherwise when those of wrappers are kept and not written for
others. -/
theorem Guarded.map {text : Text} (guarded : Guarded text) {spell : Char → Char}
    (kept : ∀ c ∈ wrappedDash, spell c = c) (faithful : ∀ c, spell c = '-' → c = '-') :
    Guarded (text.map spell) := by
  intro before after split
  obtain ⟨first, rest, rfl, rfl, ahead⟩ := List.map_eq_append_iff.mp split
  obtain ⟨pair, last, rfl, pair_eq, rfl⟩ := List.map_eq_append_iff.mp ahead
  have same : pair = dash := by
    obtain ⟨c, others, rfl, first_eq, others_eq⟩ := List.map_eq_cons_iff.mp pair_eq
    obtain ⟨d, none, rfl, second_eq, none_eq⟩ := List.map_eq_cons_iff.mp others_eq
    rw [faithful c first_eq, faithful d second_eq, List.map_eq_nil_iff.mp none_eq]
    rfl
  obtain ⟨opened, closed⟩ := guarded first last (by rw [same])
  have fixed : ∀ part : Text, (∀ c ∈ part, c ∈ wrappedDash) → part.map spell = part := by
    intro part inside
    exact (List.map_congr_left fun c isPart => kept c (inside c isPart)).trans (List.map_id' part)
  rw [← fixed wrapOpening (by decide), ← fixed wrapClosing (by decide)]
  exact ⟨opened.map spell, closed.map spell⟩

/-- Low lines may be written for characters that no wrapper holds. -/
theorem Guarded.map_low_line {text : Text} (guarded : Guarded text) {replaced : Char → Prop}
    [DecidablePred replaced] (kept : ∀ c ∈ wrappedDash, ¬ replaced c) :
    Guarded (text.map fun c => if replaced c then '_' else c) := by
  apply guarded.map
  · intro c inside
    exact if_neg (kept c inside)
  · intro c spelled
    split at spelled
    · exact absurd spelled (by decide)
    · exact spelled

/-- A text with a foreign character at either end. -/
structure Enclosed (text : Text) : Prop where
  head : ∃ c ∈ text.head?, IsForeign c
  last : ∃ c ∈ text.getLast?, IsForeign c

/-- An enclosed stretch may be replaced by another when it is guarded as long as the first
one is. -/
theorem Guarded.replace_enclosed {before old new after : Text}
    (guarded : Guarded (before ++ (old ++ after))) (enclosed : Enclosed old)
    (enclosed' : Enclosed new) (keeps : Guarded old → Guarded new) :
    Guarded (before ++ (new ++ after)) := by
  have carries : ∀ {stretch : Text}, (∃ c ∈ stretch.getLast?, IsForeign c) →
      ∃ c ∈ (before ++ stretch).getLast?, IsForeign c := by
    rintro stretch ⟨c, isLast, foreign⟩
    exact ⟨c, by simp [List.getLast?_append, Option.mem_def.mp isLast], foreign⟩
  rw [← List.append_assoc, guarded_append_of_last (carries enclosed.last),
    guarded_append_of_head enclosed.head] at guarded
  rw [← List.append_assoc, guarded_append_of_last (carries enclosed'.last),
    guarded_append_of_head enclosed'.head]
  exact ⟨⟨guarded.1.1, keeps guarded.1.2⟩, guarded.2⟩

/-- A stretch that no wrapper runs into or out of may be replaced by a guarded text
without hyphens at its ends. -/
theorem Guarded.replace_apart {before old new after : Text}
    (guarded : Guarded (before ++ (old ++ after)))
    (outside : ¬ CutsWrapper before (old ++ after)) (outside' : ¬ CutsWrapper old after)
    (guardedNew : Guarded new) (head : ∃ c ∈ new.head?, c ≠ '-')
    (last : new.getLast? ≠ some '-') : Guarded (before ++ (new ++ after)) := by
  obtain ⟨guardedBefore, ahead⟩ := guarded.cut outside
  obtain ⟨-, guardedAfter⟩ := ahead.cut outside'
  apply guardedBefore.append (guardedNew.append guardedAfter (.inl last))
  obtain ⟨c, isHead, visible⟩ := head
  obtain ⟨rest, rfl⟩ := List.head?_eq_some_iff.mp isHead
  exact .inr (by simp [visible])

end DekiMigration.Markup
