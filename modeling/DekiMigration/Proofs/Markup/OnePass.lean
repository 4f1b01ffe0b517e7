/-
# Replacing a table in one pass

A table of replacements is applied entry by entry, each to what the entries before it have
left. When keys overlap only as one begins another, when no replacement has a part in a key,
and when a key stands behind those that it begins, that comes to a single scan of the text:
at each place the longest key that begins there is replaced, and what has been written is
never looked at. Both tables of fixed phrases are of that kind.

The argument is about stretches on which a key begins nowhere. A replacement leaves them as
they are, and makes no key begin there either.
-/

import DekiMigration.Proofs.Markup.Phrases
import DekiMigration.Proofs.Markup.Replacement

namespace DekiMigration.Markup

open Text

/-- A table and a single scan of a text with it. From left to right the longest key that
begins at a place is replaced and passed over as a whole, and where none begins the character
stays. -/
inductive Scans (table : List (Text × Text)) : (text written : Text) → Prop
  | nil : Scans table [] []
  | pass {c : Char} {rest written : Text} (absent : ∀ entry ∈ table, ¬ entry.1 <+: c :: rest)
      (later : Scans table rest written) : Scans table (c :: rest) (c :: written)
  | take {entry : Text × Text} {rest written : Text} (listed : entry ∈ table)
      (longest : ∀ other ∈ table, other.1 <+: entry.1 ++ rest →
        other.1.length ≤ entry.1.length)
      (later : Scans table rest written) : Scans table (entry.1 ++ rest) (entry.2 ++ written)

/-- A key whose first character does not come again can only begin where a stretch does. -/
theorem spares_of_head {key stretch rest : Text} (absent : ¬ key <+: stretch ++ rest)
    (once : ∀ c ∈ key.head?, c ∉ stretch.tail) : Spares key stretch rest := by
  intro front back split nonempty begins
  cases front with
  | nil => exact absent (by rwa [split, List.nil_append])
  | cons d front =>
      obtain ⟨e, back, rfl⟩ := List.exists_cons_of_ne_nil nonempty
      cases key with
      | nil => exact absent List.nil_prefix
      | cons c key =>
          refine once c rfl ?_
          rw [split, (List.cons_prefix_cons.mp begins).1]
          simp

/-- A replacement leaves a spared stretch as it is. -/
theorem Spares.replaceAll_append {old new stretch rest : Text} (spared : Spares old stretch rest)
    (nonempty : old ≠ []) :
    replaceAll old new (stretch ++ rest) = stretch ++ replaceAll old new rest := by
  induction stretch with
  | nil => rfl
  | cons c stretch ih =>
      obtain ⟨here, later⟩ := spares_cons.mp spared
      rw [List.cons_append, replaceAll_cons nonempty here, ih later, List.cons_append]

/-- A spared stretch has no part in an occurrence. -/
theorem Spares.infix_of_infix_append {key stretch rest : Text} (spared : Spares key stretch rest)
    (occurs : key <:+: stretch ++ rest) : key <:+: rest := by
  induction stretch with
  | nil => exact occurs
  | cons c stretch ih =>
      obtain ⟨here, later⟩ := spares_cons.mp spared
      exact ih later ((List.infix_cons_iff.mp occurs).resolve_left here)

section Replacement

variable {old new : Text} (nonempty : old ≠ [])

include nonempty

/-- What begins a text after a replacement began it before, unless it holds the first
character of what is put in. -/
theorem prefix_of_prefix_replaceAll {lead text : Text} (filled : new ≠ [])
    (foreign : ∀ c ∈ new.head?, c ∉ lead) (begins : lead <+: replaceAll old new text) :
    lead <+: text := by
  induction text using replaceAll_walk nonempty generalizing lead with
  | nil => rwa [replaceAll_nil nonempty] at begins
  | @absent c rest bare ih =>
      rw [replaceAll_cons nonempty bare] at begins
      cases lead with
      | nil => exact List.nil_prefix
      | cons d lead =>
          obtain ⟨rfl, later⟩ := List.cons_prefix_cons.mp begins
          refine (List.prefix_cons_inj _).mpr (ih (fun c isHead inside => ?_) later)
          exact foreign c isHead (List.mem_cons_of_mem _ inside)
  | found _ =>
      rw [replaceAll_append nonempty] at begins
      obtain ⟨d, new, rfl⟩ := List.exists_cons_of_ne_nil filled
      cases lead with
      | nil => exact List.nil_prefix
      | cons c lead =>
          have same : c = d := (List.cons_prefix_cons.mp begins).1
          exact absurd (same ▸ List.mem_cons_self) (foreign d rfl)

/-- A spared stretch stays spared when the text behind it is changed. -/
theorem Spares.replaceAll {key stretch rest : Text} (spared : Spares key stretch rest)
    (filled : new ≠ []) (foreign : ∀ c ∈ new.head?, c ∉ key.tail) :
    Spares key stretch (replaceAll old new rest) := by
  intro front back split ahead begins
  refine spared front back split ahead ?_
  rcases List.prefix_or_prefix_of_prefix begins (List.prefix_append back _) with
    inside | ⟨beyond, key_eq⟩
  · exact inside.trans (List.prefix_append back rest)
  · -- a key that begins on the stretch and reaches behind it ends in what was there before
    rw [← key_eq, List.prefix_append_right_inj] at begins ⊢
    apply prefix_of_prefix_replaceAll nonempty filled ?_ begins
    intro c isHead inside
    apply foreign c isHead
    obtain ⟨d, back, rfl⟩ := List.exists_cons_of_ne_nil ahead
    rw [← key_eq]
    exact List.mem_append_right back inside

end Replacement

/-- One entry does not interfere with another: the key of the first can only begin where the
second is found or put in, it does not begin with what is put in there, and what is put in
for the first cannot go on with the key of the second. -/
structure KeepsClear (entry other : Text × Text) : Prop where
  key : ∀ c ∈ entry.1.head?, c ∉ other.1.tail ∧ c ∉ other.2.tail
  apart : ¬ entry.1 <+: other.2 ∧ ¬ other.2 <+: entry.1
  replacement : ∀ c ∈ entry.2.head?, c ∉ other.1.tail

instance (entry other : Text × Text) : Decidable (KeepsClear entry other) :=
  decidable_of_iff ((∀ c ∈ entry.1.head?, c ∉ other.1.tail ∧ c ∉ other.2.tail) ∧
      (¬ entry.1 <+: other.2 ∧ ¬ other.2 <+: entry.1) ∧ ∀ c ∈ entry.2.head?, c ∉ other.1.tail)
    ⟨fun ⟨key, apart, replacement⟩ => ⟨key, apart, replacement⟩,
      fun ⟨key, apart, replacement⟩ => ⟨key, apart, replacement⟩⟩

/-- A table whose entries do not interfere, with keys in front of those that they begin
with. -/
structure IsOrderly (table : List (Text × Text)) : Prop where
  clear : ∀ entry ∈ table, ∀ other ∈ table, KeepsClear entry other
  ordered : table.Pairwise fun earlier later => ¬ earlier.1 <+: later.1

instance (table : List (Text × Text)) : Decidable (IsOrderly table) :=
  decidable_of_iff ((∀ entry ∈ table, ∀ other ∈ table, KeepsClear entry other) ∧
      table.Pairwise fun earlier later => ¬ earlier.1 <+: later.1)
    ⟨fun ⟨clear, ordered⟩ => ⟨clear, ordered⟩, fun ⟨clear, ordered⟩ => ⟨clear, ordered⟩⟩

namespace IsOrderly

variable {table : List (Text × Text)} (orderly : IsOrderly table)

include orderly

theorem key_ne_nil : ∀ entry ∈ table, entry.1 ≠ [] := by
  intro entry listed empty
  have apart := (orderly.clear entry listed entry listed).apart.1
  rw [empty] at apart
  exact apart List.nil_prefix

theorem replacement_ne_nil : ∀ entry ∈ table, entry.2 ≠ [] := by
  intro entry listed empty
  have apart := (orderly.clear entry listed entry listed).apart.2
  rw [empty] at apart
  exact apart List.nil_prefix

/-- A stretch on which a key begins nowhere is not given a beginning of it. -/
theorem spares_replaceAll {entry other : Text × Text} (listed : entry ∈ table)
    (listed' : other ∈ table) {stretch rest : Text} (spared : Spares entry.1 stretch rest) :
    Spares entry.1 stretch (replaceAll other.1 other.2 rest) :=
  spared.replaceAll (orderly.key_ne_nil other listed') (orderly.replacement_ne_nil other listed')
    (orderly.clear other listed' entry listed).replacement

/-- The part of a table in which no key begins on a stretch leaves it as it is. -/
theorem replaceInOrder_append {part : List (Text × Text)} (within : part ⊆ table)
    {stretch rest : Text} (spared : ∀ entry ∈ part, Spares entry.1 stretch rest) :
    replaceInOrder part (stretch ++ rest) = stretch ++ replaceInOrder part rest := by
  induction part generalizing rest with
  | nil => rfl
  | cons entry part ih =>
      obtain ⟨listed, later⟩ := List.cons_subset.mp within
      obtain ⟨here, spared⟩ := List.forall_mem_cons.mp spared
      show replaceInOrder part (replaceAll entry.1 entry.2 (stretch ++ rest)) =
        stretch ++ replaceInOrder part (replaceAll entry.1 entry.2 rest)
      rw [here.replaceAll_append (orderly.key_ne_nil entry listed)]
      exact ih later fun other isLater =>
        orderly.spares_replaceAll (later isLater) listed (spared other isLater)

theorem spares_replaceInOrder {part : List (Text × Text)} (within : part ⊆ table)
    {entry : Text × Text} (listed : entry ∈ table) {stretch rest : Text}
    (spared : Spares entry.1 stretch rest) :
    Spares entry.1 stretch (replaceInOrder part rest) := by
  induction part generalizing rest with
  | nil => exact spared
  | cons other part ih =>
      obtain ⟨listed', later⟩ := List.cons_subset.mp within
      exact ih later (orderly.spares_replaceAll listed listed' spared)

/-- A character that no key begins with stays. -/
theorem replaceInOrder_cons {c : Char} {rest : Text}
    (absent : ∀ entry ∈ table, ¬ entry.1 <+: c :: rest) :
    replaceInOrder table (c :: rest) = c :: replaceInOrder table rest := by
  have spared : ∀ entry ∈ table, Spares entry.1 [c] rest := fun entry listed =>
    spares_of_head (absent entry listed) (by simp)
  exact orderly.replaceInOrder_append (List.Subset.refl table) spared

/-- No key begins on what another entry puts in. -/
theorem spares_replacement {entry other : Text × Text} (listed : entry ∈ table)
    (listed' : other ∈ table) (rest : Text) : Spares entry.1 other.2 rest := by
  obtain ⟨key, ⟨ahead, behind⟩, -⟩ := orderly.clear entry listed other listed'
  refine spares_of_head (fun begins => ?_) fun c isHead => (key c isHead).2
  rcases List.prefix_or_prefix_of_prefix begins (List.prefix_append other.2 rest) with
    inside | outside
  · exact ahead inside
  · exact behind outside

/-- The longest key that begins a text is replaced there. The entries in front of it do not
begin the text, and those behind it find what has been put in. -/
theorem replaceInOrder_of_longest {entry : Text × Text} {rest : Text} (listed : entry ∈ table)
    (longest : ∀ other ∈ table, other.1 <+: entry.1 ++ rest →
      other.1.length ≤ entry.1.length) :
    replaceInOrder table (entry.1 ++ rest) = entry.2 ++ replaceInOrder table rest := by
  obtain ⟨front, back, split⟩ := List.append_of_mem listed
  have isFront : front ⊆ table := by
    rw [split]
    exact List.subset_append_left front _
  have isBack : back ⊆ table := by
    rw [split]
    exact fun other isLater => List.mem_append_right front (List.mem_cons_of_mem entry isLater)
  have spared : ∀ earlier ∈ front, Spares earlier.1 entry.1 rest := by
    intro earlier isEarlier
    refine spares_of_head (fun begins => ?_) fun c isHead =>
      ((orderly.clear earlier (isFront isEarlier) entry listed).key c isHead).1
    have shorter := longest earlier (isFront isEarlier) begins
    have ordered := orderly.ordered
    rw [split, List.pairwise_append] at ordered
    exact ordered.2.2 earlier isEarlier entry List.mem_cons_self
      (List.prefix_of_prefix_length_le begins (List.prefix_append _ rest) shorter)
  have parts : ∀ text, replaceInOrder table text =
      replaceInOrder back (replaceAll entry.1 entry.2 (replaceInOrder front text)) := by
    intro text
    rw [split, replaceInOrder, List.foldl_append]
    rfl
  rw [parts, parts, orderly.replaceInOrder_append isFront spared,
    replaceAll_append (orderly.key_ne_nil entry listed)]
  exact orderly.replaceInOrder_append isBack fun later isLater =>
    orderly.spares_replacement (isBack isLater) listed _

/-- Of the keys that begin a text the first in the table is the longest: those behind it are
no longer, since it does not begin them. -/
theorem exists_longest {text : Text} (begins : ∃ entry ∈ table, entry.1 <+: text) :
    ∃ entry ∈ table, ∃ rest, text = entry.1 ++ rest ∧
      ∀ other ∈ table, other.1 <+: text → other.1.length ≤ entry.1.length := by
  cases found : table.find? (·.1.isPrefixOf text) with
  | none =>
      obtain ⟨entry, listed, isLead⟩ := begins
      refine absurd (List.isPrefixOf_iff_prefix.mpr isLead) ?_
      simpa using List.find?_eq_none.mp found entry listed
  | some entry =>
      obtain ⟨isLead, front, back, split, missed⟩ := List.find?_eq_some_iff_append.mp found
      rw [List.isPrefixOf_iff_prefix] at isLead
      obtain ⟨rest, rfl⟩ := isLead
      refine ⟨entry, List.mem_of_find?_eq_some found, rest, rfl, fun other listed isLead' => ?_⟩
      rw [split, List.mem_append, List.mem_cons] at listed
      rcases listed with isEarlier | rfl | isLater
      · have missed := missed other isEarlier
        rw [List.isPrefixOf_iff_prefix.mpr isLead'] at missed
        cases missed
      · exact Nat.le_refl _
      · have ordered := orderly.ordered
        rw [split, List.pairwise_append, List.pairwise_cons] at ordered
        rcases List.prefix_or_prefix_of_prefix isLead' (List.prefix_append entry.1 rest) with
          inside | outside
        · exact inside.length_le
        · exact absurd outside (ordered.2.1.1 other isLater)

/-- Applied in order, a table does what the scan does. -/
theorem scans_replaceInOrder (text : Text) : Scans table text (replaceInOrder table text) := by
  induction length : text.length using Nat.strongRecOn generalizing text with
  | ind _ ih =>
      subst length
      by_cases begins : ∃ entry ∈ table, entry.1 <+: text
      · obtain ⟨entry, listed, rest, rfl, longest⟩ := orderly.exists_longest begins
        rw [orderly.replaceInOrder_of_longest listed longest]
        refine .take listed longest (ih _ ?_ rest rfl)
        have positive := List.length_pos_iff.mpr (orderly.key_ne_nil entry listed)
        rw [List.length_append]
        omega
      · have absent : ∀ entry ∈ table, ¬ entry.1 <+: text := fun entry listed isLead =>
          begins ⟨entry, listed, isLead⟩
        cases text with
        | nil =>
            rw [replaceInOrder_eq_self orderly.key_ne_nil fun entry listed occurs =>
              orderly.key_ne_nil entry listed (List.infix_nil.mp occurs)]
            exact .nil
        | cons c rest =>
            rw [orderly.replaceInOrder_cons absent]
            exact .pass absent (ih _ (Nat.lt_succ_self _) rest rfl)

/-- The scan writes one text, and that is what the table makes in order. -/
theorem scans_iff {text written : Text} :
    Scans table text written ↔ written = replaceInOrder table text := by
  constructor
  · intro scans
    induction scans with
    | nil =>
        exact (replaceInOrder_eq_self orderly.key_ne_nil fun entry listed occurs =>
          orderly.key_ne_nil entry listed (List.infix_nil.mp occurs)).symm
    | pass absent _ ih => rw [orderly.replaceInOrder_cons absent, ih]
    | take listed longest _ ih => rw [orderly.replaceInOrder_of_longest listed longest, ih]
  · rintro rfl
    exact orderly.scans_replaceInOrder text

/-- No key is left. -/
theorem not_infix_replaceInOrder {entry : Text × Text} (listed : entry ∈ table) (text : Text) :
    ¬ entry.1 <:+: replaceInOrder table text := by
  intro occurs
  have scans := orderly.scans_replaceInOrder text
  generalize replaceInOrder table text = written at scans occurs
  induction scans with
  | nil => exact orderly.key_ne_nil entry listed (List.infix_nil.mp occurs)
  | @pass c rest written absent later ih =>
      have spared : Spares entry.1 [c] rest := spares_of_head (absent entry listed) (by simp)
      rw [orderly.scans_iff] at later
      apply ih
      rw [later] at occurs ⊢
      have spared := orderly.spares_replaceInOrder (List.Subset.refl table) listed spared
      exact spared.infix_of_infix_append occurs
  | @take other rest written listed' longest later ih =>
      exact ih ((orderly.spares_replacement listed listed' written).infix_of_infix_append occurs)

end IsOrderly

/-- The order of a table has no part in the scan. -/
theorem Scans.of_subset {table other : List (Text × Text)} (more : table ⊆ other)
    (fewer : other ⊆ table) {text written : Text} (scans : Scans table text written) :
    Scans other text written := by
  induction scans with
  | nil => exact .nil
  | pass absent _ ih => exact .pass (fun entry listed => absent entry (fewer listed)) ih
  | take listed longest _ ih =>
      exact .take (more listed) (fun entry listed' => longest entry (fewer listed')) ih

/-- With a text a table does in order what a single scan does. So none of its keys is left,
and applied once more it changes nothing. -/
structure IsOnePass (table : List (Text × Text)) (text : Text) : Prop where
  scan : ∀ written, Scans table text written ↔ written = replaceInOrder table text
  exhaustive : ∀ entry ∈ table, ¬ entry.1 <:+: replaceInOrder table text
  stable : replaceInOrder table (replaceInOrder table text) = replaceInOrder table text

theorem IsOrderly.isOnePass {table : List (Text × Text)} (orderly : IsOrderly table)
    (text : Text) : IsOnePass table text where
  scan _ := orderly.scans_iff
  exhaustive _ listed := orderly.not_infix_replaceInOrder listed text
  stable := replaceInOrder_eq_self orderly.key_ne_nil fun _ listed =>
    orderly.not_infix_replaceInOrder listed text

theorem isOrderly_linkPhrases : IsOrderly linkPhrases := by
  simp only [linkPhrases, List.map_cons, List.map_nil]
  repeat rw [String.toList_ofList]
  decide +kernel

/-- No mark of a code sample begins another, so they may stand in any order. -/
theorem isOrderly_of_perm_codeMarks {table : List (Text × Text)}
    (reordered : table.Perm codeMarks) : IsOrderly table := by
  have apart : codeMarks.Pairwise fun mark other =>
      ¬ mark.1 <+: other.1 ∧ ¬ other.1 <+: mark.1 := by decide
  have apart' : table.Pairwise fun mark other => ¬ mark.1 <+: other.1 ∧ ¬ other.1 <+: mark.1 :=
    (reordered.pairwise_iff And.symm).mpr apart
  have clear : ∀ mark ∈ codeMarks, ∀ other ∈ codeMarks, KeepsClear mark other := by decide
  exact ⟨fun mark listed other listed' =>
    clear mark (reordered.subset listed) other (reordered.subset listed'), apart'.imp And.left⟩

/-- Either table is applied as by a single scan that replaces the longest key at each place,
and the marks of code samples in any order as in that of the table. -/
theorem replaceInOrder_isOnePass (text : Text) :
    IsOnePass linkPhrases text ∧ IsOnePass codeMarks text ∧
      ∀ table, table.Perm codeMarks →
        replaceInOrder table text = replaceInOrder codeMarks text := by
  have marks := isOrderly_of_perm_codeMarks (List.Perm.refl codeMarks)
  refine ⟨isOrderly_linkPhrases.isOnePass text, marks.isOnePass text, ?_⟩
  intro table reordered
  have scans := (isOrderly_of_perm_codeMarks reordered).scans_replaceInOrder text
  exact marks.scans_iff.mp (scans.of_subset reordered.subset reordered.symm.subset)

/-- With the closing marks in front of the opening ones, a sample is fenced all the same. -/
theorem replaceInOrder_reverse_codeMarks :
    codeMarks.reverse.Perm codeMarks ∧
      replaceInOrder codeMarks.reverse "<xml>a</xml>".toList = "\n@@ xml\na\n@@\n".toList := by
  have reordered : codeMarks.reverse.Perm codeMarks := List.reverse_perm codeMarks
  obtain ⟨-, -, same⟩ := replaceInOrder_isOnePass "<xml>a</xml>".toList
  exact ⟨reordered, (same _ reordered).trans (by decide)⟩

end DekiMigration.Markup
