/-
# Timestamps with short parts

Since its parts may be short, a text can be read as a timestamp in several ways, which cut it up
differently. The reader takes the cut in which every part is as wide as it can be, those in
front before those behind.

It looks for the first cut of the front of a text and only then asks whether anything is left.
Nothing is lost by that: a part is at most one character wider in one cut than in another, so a
cut that falls behind in one place can at best catch up later, and the first cut reaches as far
as any.
-/

import DekiMigration.Proofs.Timestamp.Forms

namespace DekiMigration.Timestamp

open Text Calendar

/-- Stretches are of given forms, one by one. -/
def AreOf (forms : List Form) (cut : List Text) : Prop :=
  List.Forall₂ (fun form stretch => form stretch) forms cut

/-- A text is cut up into stretches of given forms. -/
structure IsCut (forms : List Form) (cut : List Text) (text : Text) : Prop where
  each : AreOf forms cut
  whole : cut.flatten = text

/-- Where a cut first differs in width from another cut of the text, its stretch is the wider
one. -/
structure IsWidestCut (forms : List Form) (cut : List Text) (text : Text) : Prop
    extends IsCut forms cut text where
  widest : ∀ other, IsCut forms other text → other.map List.length ≤ cut.map List.length

/-- Stretches of a form differ by one character in width at most. -/
def IsNarrow (form : Form) : Prop :=
  ∃ width, ∀ stretch, form stretch → stretch.length = width ∨ stretch.length = width + 1

section Readings

variable {part : Part} {parts : List Part} {form : Form} {forms : List Form}
  {text ahead rest rest' : Text} {values values' : List Nat}

/-- The ways to read parts at the front of a text are the ways to cut it up. -/
theorem mem_readings_iff (prefers : List.Forall₂ Prefers parts forms) :
    (values, rest) ∈ readings parts text ↔
      ∃ cut, AreOf forms cut ∧ cut.flatten ++ rest = text ∧ cut.map numberOf = values := by
  induction prefers generalizing text values with
  | nil => simp [readings, AreOf, eq_comm, and_comm]
  | cons first _ ih =>
      simp only [readings, List.mem_flatMap, List.mem_map, Prod.exists, Prod.mk.injEq]
      constructor
      · rintro ⟨value, ahead, isFirst, later, _, isLater, rfl, rfl⟩
        obtain ⟨stretch, fit, rfl, rfl⟩ := first.reads.mp isFirst
        obtain ⟨cut, each, rfl, rfl⟩ := ih.mp isLater
        exact ⟨stretch :: cut, .cons fit each, by simp, rfl⟩
      · rintro ⟨_, areOf, rfl, rfl⟩
        obtain ⟨stretch, cut, fit, each, rfl⟩ := List.forall₂_cons_left_iff.mp areOf
        exact ⟨_, cut.flatten ++ rest, first.reads.mpr ⟨stretch, fit, by simp, rfl⟩,
          _, _, ih.mpr ⟨cut, each, rfl, rfl⟩, rfl, rfl⟩

/-- The first reading begins with the longest stretch behind which there is a reading of the
other parts. -/
theorem exists_first (prefers : Prefers part form)
    (first : (readings (part :: parts) text).head? = some (values, rest)) :
    ∃ value later ahead, values = value :: later ∧ (value, ahead) ∈ part text ∧
      (readings parts ahead).head? = some (later, rest) ∧
      ∀ reading ∈ part text, readings parts reading.2 ≠ [] →
        ahead.length ≤ reading.2.length := by
  rw [readings, List.head?_flatMap, List.findSome?_eq_some_iff] at first
  obtain ⟨before, ⟨value, ahead⟩, behind, part_eq, found, barren⟩ := first
  rw [List.head?_map, Option.map_eq_some_iff] at found
  obtain ⟨⟨later, _⟩, found, same⟩ := found
  cases same
  have ordered := prefers.longestFirst text
  rw [part_eq, List.pairwise_append, List.pairwise_cons] at ordered
  refine ⟨value, later, ahead, rfl, part_eq ▸ by simp, found, fun reading isRead fertile => ?_⟩
  rw [part_eq, List.mem_append, List.mem_cons] at isRead
  rcases isRead with isBefore | rfl | isBehind
  · have none := barren reading isBefore
    rw [List.head?_map, Option.map_eq_none_iff, List.head?_eq_none_iff] at none
    exact absurd none fertile
  · exact Nat.le_refl _
  · exact ordered.2.1.1 reading isBehind

/-- From a place further ahead the first reading reaches at least as far as any does. -/
theorem first_furthest (prefers : List.Forall₂ Prefers parts forms)
    (narrow : ∀ form ∈ forms, IsNarrow form) (isAhead : ahead <:+ text)
    (first : (readings parts ahead).head? = some (values, rest))
    (isRead : (values', rest') ∈ readings parts text) : rest.length ≤ rest'.length := by
  induction prefers generalizing text ahead values values' with
  | nil =>
      cases List.mem_singleton.mp isRead
      cases Option.some.inj first
      exact isAhead.length_le
  | @cons part form parts forms prefersFirst prefersLater ih =>
      rw [List.forall_mem_cons] at narrow
      obtain ⟨⟨width, widths⟩, narrow⟩ := narrow
      obtain ⟨value, later, next, rfl, isFirst, isLater, longest⟩ :=
        exists_first prefersFirst first
      obtain ⟨_, areOf, rfl, -⟩ := (mem_readings_iff (.cons prefersFirst prefersLater)).mp isRead
      obtain ⟨stretch', cut, fit', each, rfl⟩ := List.forall₂_cons_left_iff.mp areOf
      obtain ⟨stretch, fit, rfl, -⟩ := prefersFirst.reads.mp isFirst
      have isRead' : (cut.map numberOf, rest') ∈ readings parts (cut.flatten ++ rest') :=
        (mem_readings_iff prefersLater).mpr ⟨cut, each, rfl, rfl⟩
      rw [List.flatten_cons, List.append_assoc] at isAhead
      by_cases further : next.length ≤ (cut.flatten ++ rest').length
      · exact ih narrow (List.suffix_of_suffix_length_le ((List.suffix_append _ _).trans isAhead)
          (List.suffix_append _ _) further) isLater isRead'
      · -- only by the one character more could the other cut have got in front, and from the
        -- same place on; but there the first cut would have taken the character as well
        have same : stretch ++ next = stretch' ++ (cut.flatten ++ rest') := by
          apply isAhead.eq_of_length_le
          simp only [List.length_append] at further ⊢
          rcases widths _ fit with width_eq | width_eq <;>
            rcases widths _ fit' with width_eq' | width_eq' <;> omega
        refine absurd (longest (numberOf stretch', cut.flatten ++ rest') ?_ ?_) further
        · exact prefersFirst.reads.mpr ⟨stretch', fit', same.symm, rfl⟩
        · exact List.ne_nil_of_mem isRead'

/-- The first reading takes the widest cut. -/
theorem exists_widest (prefers : List.Forall₂ Prefers parts forms)
    (first : (readings parts text).head? = some (values, rest)) :
    ∃ cut, AreOf forms cut ∧ cut.flatten ++ rest = text ∧ cut.map numberOf = values ∧
      ∀ other rest', AreOf forms other → other.flatten ++ rest' = text →
        other.map List.length ≤ cut.map List.length := by
  induction prefers generalizing text values with
  | nil =>
      cases Option.some.inj first
      refine ⟨[], .nil, rfl, rfl, fun other rest' areOf _ => ?_⟩
      cases areOf
      exact le_rfl
  | cons prefersFirst prefersLater ih =>
      obtain ⟨value, later, ahead, rfl, isFirst, isLater, longest⟩ :=
        exists_first prefersFirst first
      obtain ⟨stretch, fit, rfl, rfl⟩ := prefersFirst.reads.mp isFirst
      obtain ⟨cut, each, rfl, rfl, widest⟩ := ih isLater
      refine ⟨stretch :: cut, .cons fit each, by simp, rfl, fun other rest' areOf split_eq => ?_⟩
      obtain ⟨stretch', cut', fit', each', rfl⟩ := List.forall₂_cons_left_iff.mp areOf
      rw [List.flatten_cons, List.append_assoc] at split_eq
      have isRead : (cut'.map numberOf, rest') ∈ readings _ (cut'.flatten ++ rest') :=
        (mem_readings_iff prefersLater).mpr ⟨cut', each', rfl, rfl⟩
      have further : (cut.flatten ++ rest).length ≤ (cut'.flatten ++ rest').length :=
        longest (numberOf stretch', _) (prefersFirst.reads.mpr ⟨stretch', fit', split_eq, rfl⟩)
          (List.ne_nil_of_mem isRead)
      have lengths := congrArg List.length split_eq
      simp only [List.length_append] at lengths further
      rw [List.map_cons, List.map_cons]
      rcases Nat.lt_or_ge stretch'.length stretch.length with shorter | longer
      · exact le_of_lt (List.Lex.rel shorter)
      · have same : stretch'.length = stretch.length := by omega
        rw [same]
        exact List.cons_le_cons _ (widest cut' rest' each' (List.append_inj_right split_eq same))

/-- Parts read a text to its end as its widest cut, if it can be cut up at all. -/
theorem head?_readings_eq_some_iff (prefers : List.Forall₂ Prefers parts forms)
    (narrow : ∀ form ∈ forms, IsNarrow form) :
    (readings parts text).head? = some (values, []) ↔
      ∃ cut, IsWidestCut forms cut text ∧ cut.map numberOf = values := by
  constructor
  · intro first
    obtain ⟨cut, each, whole, values_eq, widest⟩ := exists_widest prefers first
    rw [List.append_nil] at whole
    exact ⟨cut, ⟨⟨each, whole⟩, fun other isCut => widest other [] isCut.each
      (by rw [List.append_nil, isCut.whole])⟩, values_eq⟩
  · rintro ⟨cut, isWidest, rfl⟩
    have isRead : (cut.map numberOf, []) ∈ readings parts text :=
      (mem_readings_iff prefers).mpr ⟨cut, isWidest.each, by
        rw [List.append_nil, isWidest.whole], rfl⟩
    cases first : (readings parts text).head? with
    | none => exact absurd (List.head?_eq_none_iff.mp first) (List.ne_nil_of_mem isRead)
    | some reading =>
        obtain ⟨values, rest⟩ := reading
        have ended := first_furthest prefers narrow List.suffix_rfl first isRead
        obtain rfl : rest = [] := List.eq_nil_of_length_eq_zero (Nat.le_zero.mp ended)
        obtain ⟨cut', each, whole, rfl, widest⟩ := exists_widest prefers first
        rw [List.append_nil] at whole
        -- both cuts are the widest one
        have same : cut' = cut := by
          rw [List.eq_iff_flatten_eq, whole, isWidest.whole]
          exact ⟨rfl, le_antisymm (isWidest.widest cut' ⟨each, whole⟩)
            (widest cut [] isWidest.each (by rw [List.append_nil, isWidest.whole]))⟩
        rw [same]

end Readings

theorem isNarrow_of_isBrief {form : Form} (brief : IsBrief form) : IsNarrow form :=
  ⟨1, brief⟩

theorem isNarrow_forms : ∀ form ∈ forms, IsNarrow form := by
  have year : IsNarrow (AreDecimals 4) := ⟨4, fun _ four => .inl four.1⟩
  simp [forms, year, isNarrow_of_isBrief]

/-- The numbers of a time, in the order in which a timestamp has them. -/
def partsOf (time : DateTime) : List Nat :=
  [time.year, time.month, time.day, time.hour, time.minute, time.second]

theorem ofParts?_eq_some_iff {year month day hour minute second : Nat} {time : DateTime} :
    DateTime.ofParts? year month day hour minute second = some time ↔
      [year, month, day, hour, minute, second] = partsOf time := by
  constructor
  · intro found
    rw [DateTime.ofParts?] at found
    split at found
    · split at found
      · cases found
        rfl
      · cases found
    · cases found
  · intro same
    cases same
    exact DateTime.ofParts?_eq time

theorem readParts?_eq_some_iff {text : Text} {time : DateTime} :
    readParts? text = some time ↔ (readings parts text).head? = some (partsOf time, []) := by
  rw [readParts?]
  constructor
  · intro found
    split at found
    · next first =>
        rw [first, ofParts?_eq_some_iff.mp found]
    · cases found
  · intro first
    rw [first]
    exact DateTime.ofParts?_eq time

/-- A text is read as the time that its widest cut names. -/
theorem read?_eq_some_iff {text : Text} {time : DateTime} :
    read? text = some time ↔
      ∃ cut, IsWidestCut forms cut (trim text) ∧ cut.map numberOf = partsOf time := by
  rw [read?, readParts?_eq_some_iff]
  exact head?_readings_eq_some_iff prefers_parts isNarrow_forms

/-- A stretch of one digit only, or with a space. -/
def IsShort (stretch : Text) : Prop :=
  stretch.length = 1 ∨ ' ' ∈ stretch

/-- A text that names a time, but with a short part. -/
def IsLoose (text : Text) : Prop :=
  ∃ cut time, IsWidestCut forms cut text ∧ cut.map numberOf = partsOf time ∧
    ∃ stretch ∈ cut, IsShort stretch

/-- Stretches of a form have no more characters than so many, and are short unless these are all
digits. -/
def IsFull (width : Nat) (form : Form) : Prop :=
  ∀ stretch, form stretch → stretch.length ≤ width ∧ (AreDecimals width stretch ↔ ¬ IsShort stretch)

theorem isFull_of_characters {form : Form} (brief : IsBrief form)
    (characters : ∀ stretch, form stretch → ∀ c ∈ stretch, isDecimal c = true ∨ c = ' ') :
    IsFull 2 form := by
  intro stretch fit
  have space : isDecimal ' ' = false := by decide
  rcases brief stretch fit with one | two
  · have single : ¬ AreDecimals 2 stretch := fun two => absurd (one.symm.trans two.1) (by decide)
    exact ⟨by omega, iff_of_false single fun full => full (.inl one)⟩
  · refine ⟨two.le, fun decimal => ?_, fun full => ⟨two, fun c inside => ?_⟩⟩
    · rintro (one | spaced)
      · omega
      · exact Bool.noConfusion (space.symm.trans (decimal.2 ' ' spaced))
    · exact (characters stretch fit c inside).resolve_right fun same =>
        full (.inr (same ▸ inside))

theorem isFull_isNumber {low high : Nat} : IsFull 2 (IsNumber low high) := by
  apply isFull_of_characters isBrief_isNumber
  rintro _ (⟨unit⟩ | ⟨tens, unit⟩)
  · simp [unit.isDecimal]
  · simp [unit.isDecimal, isDecimal_of_isDigit tens]

theorem isFull_isDay : IsFull 2 IsDay := by
  apply isFull_of_characters isBrief_isDay
  rintro _ ((⟨unit⟩ | ⟨tens, unit⟩) | ⟨c, rfl, unit⟩)
  · simp [unit.isDecimal]
  · simp [unit.isDecimal, isDecimal_of_isDigit tens]
  · simp [unit.isDecimal]

theorem isFull_year : IsFull 4 (AreDecimals 4) := by
  refine fun stretch year => ⟨year.1.le, iff_of_true year ?_⟩
  rintro (one | spaced)
  · exact absurd (one.symm.trans year.1) (by decide)
  · exact absurd (year.2 ' ' spaced) (by decide)

/-- A cut without short parts is one of as many digits as the parts may have. -/
theorem AreOf.areDecimals_iff {widths : List Nat} {forms : List Form}
    (full : List.Forall₂ IsFull widths forms) {cut : List Text} (areOf : AreOf forms cut) :
    cut.flatten.length ≤ widths.sum ∧
      (AreDecimals widths.sum cut.flatten ↔ ¬ ∃ stretch ∈ cut, IsShort stretch) := by
  induction full generalizing cut with
  | nil =>
      cases areOf
      simp [AreDecimals]
  | @cons width form widths forms first _ ih =>
      obtain ⟨stretch, later, fit, areLater, rfl⟩ := List.forall₂_cons_left_iff.mp areOf
      obtain ⟨atMost, isDecimal_iff⟩ := first stretch fit
      obtain ⟨atMost', later_iff⟩ := ih areLater
      rw [List.exists_mem_cons_iff, not_or, ← isDecimal_iff, ← later_iff]
      simp only [AreDecimals, List.flatten_cons, List.sum_cons, List.length_append,
        List.forall_mem_append]
      refine ⟨by omega, fun ⟨sum, front, back⟩ => ?_, fun ⟨⟨sum, front⟩, sum', back⟩ => ?_⟩
      · exact ⟨⟨by omega, front⟩, by omega, back⟩
      · exact ⟨by omega, front, back⟩

theorem IsCut.areDecimals_iff {cut : List Text} {text : Text} (isCut : IsCut forms cut text) :
    AreDecimals 14 text ↔ ¬ ∃ stretch ∈ cut, IsShort stretch := by
  have full : List.Forall₂ IsFull [4, 2, 2, 2, 2, 2] forms :=
    .cons isFull_year (.cons isFull_isNumber (.cons isFull_isDay
      (.cons isFull_isNumber (.cons isFull_isNumber (.cons isFull_isNumber .nil)))))
  rw [← isCut.whole]
  exact (isCut.each.areDecimals_iff full).2

/-- What is read as a time are fourteen digits, unless it is a text that names a time with a short
part. -/
theorem read?_areDecimals_iff (text : Text) :
    (∀ time, read? text = some time → AreDecimals 14 (trim text)) ↔ ¬ IsLoose (trim text) := by
  constructor
  · rintro strict ⟨cut, time, isWidest, names, short⟩
    have fourteen := strict time (read?_eq_some_iff.mpr ⟨cut, isWidest, names⟩)
    exact isWidest.areDecimals_iff.mp fourteen short
  · intro tight time found
    obtain ⟨cut, isWidest, names⟩ := read?_eq_some_iff.mp found
    exact isWidest.areDecimals_iff.mpr fun short =>
      tight ⟨cut, time, isWidest, names, short⟩

/-- A timestamp without its last digit names another second, and one with a space before the
day names a second as well. -/
theorem read?_truncated :
    (read? "2008010203045".toList = some ⟨2008, 1, 2, 3, 4, 5, by decide, by decide⟩ ∧
      ¬ AreDecimals 14 (trim "2008010203045".toList)) ∧
    read? "200801 2030405".toList = some ⟨2008, 1, 2, 3, 4, 5, by decide, by decide⟩ ∧
      ¬ AreDecimals 14 (trim "200801 2030405".toList) := by
  unfold AreDecimals
  decide +kernel

end DekiMigration.Timestamp
