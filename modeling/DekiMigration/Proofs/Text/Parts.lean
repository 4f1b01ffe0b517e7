/-
# Parts of texts

Passes take texts apart and put the parts together again. This module says what the
parts are: a text is cut at its first separator, trimming takes blanks from both ends
and leaves what is solid there, and every place of a text lies on one line.
-/

import Mathlib.Data.List.TakeDrop
import DekiMigration.Text.Blank

namespace DekiMigration.Text

/-- A text is cut at the first separator. -/
theorem cutAt?_eq_some {separator : Char} {text before after : Text} :
    cutAt? separator text = some (before, after) ↔
      text = before ++ separator :: after ∧ separator ∉ before := by
  rw [cutAt?, List.span_eq_takeWhile_dropWhile]
  constructor
  · intro found
    have put := List.takeWhile_append_dropWhile (p := (· != separator)) (l := text)
    cases ahead : text.dropWhile (· != separator) with
    | nil => simp [ahead] at found
    | cons c rest =>
        simp only [ahead, Option.some.injEq, Prod.mk.injEq] at found
        obtain ⟨rfl, rfl⟩ := found
        have stop := List.head_dropWhile_not (· != separator) (l := text) (by simp [ahead])
        have same : c = separator := by simpa [ahead] using stop
        rw [ahead, same] at put
        exact ⟨put.symm, not_mem_takeWhile_ne separator text⟩
  · rintro ⟨rfl, absent⟩
    have put := List.takeWhile_append_dropWhile (p := (· != separator))
      (l := before ++ separator :: after)
    rw [takeWhile_ne_append_cons absent, List.append_cancel_left_eq] at put
    rw [takeWhile_ne_append_cons absent, put]

theorem cutAt?_eq_none {separator : Char} {text : Text} (absent : separator ∉ text) :
    cutAt? separator text = none := by
  cases found : cutAt? separator text with
  | none => rfl
  | some parts =>
      obtain ⟨before, after⟩ := parts
      refine absurd ?_ absent
      rw [(cutAt?_eq_some.mp found).1]
      simp

/-- A lead that does not hold `c` ends before it. -/
theorem prefix_of_prefix_append_cons {lead before after : Text} {c : Char}
    (foreign : c ∉ lead) (isLead : lead <+: before ++ c :: after) : lead <+: before := by
  rcases List.prefix_or_prefix_of_prefix isLead (List.prefix_append before (c :: after)) with
    inside | ⟨rest, rfl⟩
  · exact inside
  · rw [List.prefix_append_right_inj] at isLead
    cases rest with
    | nil => simp
    | cons d rest =>
        have same := (List.cons_prefix_cons.mp isLead).1
        exact absurd (by simp [same]) foreign

/-- The code points of the blank characters. -/
def blanks : List Nat :=
  List.range' 0x09 5 ++ List.range' 0x1C 5 ++ [0x85, 0xA0, 0x1680] ++ List.range' 0x2000 11 ++
    [0x2028, 0x2029, 0x202F, 0x205F, 0x3000]

/-- A class that no blank character belongs to is apart from the blanks. -/
theorem isBlank_of_apart (belongs : Char → Bool)
    (apart : ∀ n ∈ blanks, belongs (Char.ofNat n) = false) {c : Char} (inside : belongs c = true) :
    isBlank c = false := by
  apply Bool.eq_false_iff.mpr
  intro blank
  have listed : c.toNat ∈ blanks := by
    simp only [isBlank, Bool.or_eq_true, Bool.and_eq_true, decide_eq_true_eq, beq_iff_eq] at blank
    simp only [blanks, List.mem_append, List.mem_range'_1, List.mem_cons, List.not_mem_nil,
      or_false]
    omega
  have outside := apart c.toNat listed
  rw [Char.ofNat_toNat, inside] at outside
  cases outside

/-- A text without blanks at its ends. -/
def IsSolid (text : Text) : Prop :=
  (∀ c ∈ text.head?, isBlank c = false) ∧ ∀ c ∈ text.getLast?, isBlank c = false

/-- Trimming takes the blanks around what is solid. -/
theorem trim_eq {front core back : Text} (blankFront : ∀ c ∈ front, isBlank c)
    (solid : IsSolid core) (blankBack : ∀ c ∈ back, isBlank c) :
    trim (front ++ (core ++ back)) = core := by
  have ends : ∀ {rest : Text}, (∀ c ∈ core.getLast?, isBlank c = false) →
      (∀ c ∈ rest, isBlank c) → trimEnd (core ++ rest) = core := by
    intro rest solidEnd blank
    rw [trimEnd, List.reverse_append,
      List.dropWhile_append_of_pos fun c inside => blank c (List.mem_reverse.mp inside)]
    cases reversed : core.reverse with
    | nil => simp [List.reverse_eq_nil_iff.mp reversed]
    | cons c others =>
        have last : core.getLast? = some c := by
          rw [List.getLast?_eq_head?_reverse, reversed, List.head?_cons]
        rw [List.dropWhile_cons_of_neg (by simp [solidEnd c last]), ← reversed,
          List.reverse_reverse]
  rw [trim, trimStart, List.dropWhile_append_of_pos blankFront]
  cases core with
  | nil =>
      rw [List.nil_append, ← List.append_nil back, List.dropWhile_append_of_pos blankBack]
      rfl
  | cons c core =>
      rw [List.cons_append, List.dropWhile_cons_of_neg (by simp [solid.1 c rfl]),
        ← List.cons_append]
      exact ends solid.2 blankBack

theorem IsSolid.append {front back : Text} (solid : IsSolid front) (nonempty : front ≠ [])
    (solid' : IsSolid back) (nonempty' : back ≠ []) : IsSolid (front ++ back) := by
  obtain ⟨c, front, rfl⟩ := List.exists_cons_of_ne_nil nonempty
  refine ⟨solid.1, ?_⟩
  have last := List.getLast?_eq_some_getLast nonempty'
  rw [List.getLast?_append, last, Option.some_or, ← last]
  exact solid'.2

/-- Spelling characters otherwise keeps a text solid when none becomes blank. -/
theorem IsSolid.map {text : Text} (solid : IsSolid text) {spell : Char → Char}
    (keeps : ∀ c, isBlank c = false → isBlank (spell c) = false) : IsSolid (text.map spell) := by
  obtain ⟨first, last⟩ := solid
  rw [IsSolid, List.head?_map, List.getLast?_map]
  simp only [Option.mem_def, Option.map_eq_some_iff]
  refine ⟨?_, ?_⟩
  · rintro - ⟨c, isHead, rfl⟩
    exact keeps c (first c isHead)
  · rintro - ⟨c, isLast, rfl⟩
    exact keeps c (last c isLast)

/-- A text without blanks is solid. -/
theorem isSolid_of_visible {text : Text} (visible : ∀ c ∈ text, isBlank c = false) :
    IsSolid text :=
  ⟨fun c isHead => visible c (List.mem_of_mem_head? isHead),
    fun c isLast => visible c (List.mem_of_mem_getLast? isLast)⟩

theorem IsSolid.trim_eq_self {core : Text} (solid : IsSolid core) : trim core = core := by
  have whole : trim ([] ++ (core ++ [])) = core := trim_eq (by simp) solid (by simp)
  rwa [List.nil_append, List.append_nil] at whole

/-- Trimming takes nothing but blanks. -/
theorem exists_trim (text : Text) :
    ∃ front back, text = front ++ (trim text ++ back) ∧ (∀ c ∈ front, isBlank c) ∧
      ∀ c ∈ back, isBlank c := by
  have start := List.takeWhile_append_dropWhile (p := isBlank) (l := text)
  have stop := congrArg List.reverse
    (List.takeWhile_append_dropWhile (p := isBlank) (l := (trimStart text).reverse))
  rw [List.reverse_append, List.reverse_reverse] at stop
  refine ⟨text.takeWhile isBlank, ((trimStart text).reverse.takeWhile isBlank).reverse,
    ?_, fun c inside => List.all_eq_true.mp List.all_takeWhile c inside, fun c inside => ?_⟩
  · rw [trim, trimEnd, stop, trimStart, start]
  · exact List.all_eq_true.mp List.all_takeWhile c (List.mem_reverse.mp inside)

/-- Behind a front without blanks, trimming only takes blanks at the end. -/
theorem trim_append {front : Text} (nonempty : front ≠ [])
    (visible : ∀ c ∈ front, isBlank c = false) (text : Text) :
    trim (front ++ text) = front ++ trimEnd text := by
  have started : trimStart (front ++ text) = front ++ text := by
    obtain ⟨c, others, rfl⟩ := List.exists_cons_of_ne_nil nonempty
    exact List.dropWhile_cons_of_neg (by simp [visible c List.mem_cons_self])
  have ended : front.reverse.dropWhile isBlank = front.reverse := by
    cases reversed : front.reverse with
    | nil => rfl
    | cons c others =>
        have inside : c ∈ front := List.mem_reverse.mp (reversed ▸ List.mem_cons_self)
        exact List.dropWhile_cons_of_neg (by simp [visible c inside])
  rw [trim, started, trimEnd, List.reverse_append, List.dropWhile_append, ended, trimEnd]
  split
  · next blank =>
      rw [List.isEmpty_iff.mp blank]
      simp
  · simp

theorem visible_of_mem_getLast?_trimEnd {text : Text} :
    ∀ c ∈ (trimEnd text).getLast?, isBlank c = false := by
  intro c isLast
  rw [trimEnd, List.getLast?_reverse] at isLast
  have stop := List.head?_dropWhile_not isBlank text.reverse
  rw [Option.mem_def.mp isLast] at stop
  exact stop

/-- What is left when the blanks are taken is solid. -/
theorem isSolid_trim (text : Text) : IsSolid (trim text) := by
  refine ⟨fun c isHead => ?_, visible_of_mem_getLast?_trimEnd⟩
  obtain ⟨rest, core_eq⟩ := List.head?_eq_some_iff.mp isHead
  have isLead : trim text <+: trimStart text := by
    have split := congrArg List.reverse
      (List.takeWhile_append_dropWhile (p := isBlank) (l := (trimStart text).reverse))
    rw [List.reverse_append, List.reverse_reverse] at split
    exact ⟨_, split⟩
  obtain ⟨others, start_eq⟩ := isLead
  have stop := List.head?_dropWhile_not isBlank text
  rw [← trimStart, ← start_eq, core_eq] at stop
  exact stop

theorem mem_of_mem_trim {text : Text} {c : Char} (inside : c ∈ trim text) : c ∈ text := by
  obtain ⟨front, back, text_eq, -, -⟩ := exists_trim text
  rw [text_eq]
  simp [inside]

theorem mem_trim {text : Text} {c : Char} (visible : isBlank c = false) :
    c ∈ trim text ↔ c ∈ text := by
  refine ⟨mem_of_mem_trim, fun inside => ?_⟩
  obtain ⟨front, back, text_eq, blankFront, blankBack⟩ := exists_trim text
  rw [text_eq, List.mem_append, List.mem_append] at inside
  rcases inside with isFront | isCore | isBack
  · simp [blankFront c isFront] at visible
  · exact isCore
  · simp [blankBack c isBack] at visible

/-- A stretch that does not hold `c` lies on one side of it. -/
theorem infix_of_infix_append_cons {stretch before after : Text} {c : Char}
    (foreign : c ∉ stretch) (inside : stretch <:+: before ++ c :: after) :
    stretch <:+: before ∨ stretch <:+: after := by
  obtain ⟨front, back, text_eq⟩ := inside
  rw [List.append_assoc] at text_eq
  rcases List.append_eq_append_iff.mp text_eq with
    ⟨rest, rfl, ahead⟩ | ⟨rest, rfl, ahead⟩
  · have isLead : stretch <+: rest ++ c :: after := ⟨back, ahead⟩
    obtain ⟨behind, rfl⟩ := prefix_of_prefix_append_cons foreign isLead
    exact .inl ⟨front, behind, List.append_assoc _ _ _⟩
  · cases rest with
    | nil =>
        have isLead : stretch <+: [] ++ c :: after := ⟨back, ahead.symm⟩
        rw [List.prefix_nil.mp (prefix_of_prefix_append_cons foreign isLead)]
        exact .inr (List.nil_infix)
    | cons d rest =>
        rw [List.cons_append, List.cons_eq_cons] at ahead
        exact .inr ⟨rest, back, by rw [ahead.2, List.append_assoc]⟩

end DekiMigration.Text
