/-
# A text that is a link

On a text that is nothing but one link with a target and a text to display, every pass
can be followed. Apart from the wrapping of dashes only two passes change it: a phrase may
change the lead of the link, which is its second bracket and the name of a namespace, and
the link itself takes the Deki form.
-/

import DekiMigration.Proofs.Markup.Contents
import DekiMigration.Proofs.Markup.LinkForms

namespace DekiMigration.Markup

open Text

/-- No line feed and no sign of the markup. -/
def IsUnmarked (text : Text) : Prop :=
  ∀ c ∈ text, c ∉ ['\n', '[', ']', '{', '}', '|', '<', '>', '#']

instance (text : Text) : Decidable (IsUnmarked text) :=
  inferInstanceAs (Decidable (∀ c ∈ text, c ∉ ['\n', '[', ']', '{', '}', '|', '<', '>', '#']))

theorem IsUnmarked.not_mem {text : Text} {c : Char} (unmarked : IsUnmarked text)
    (sign : c ∈ ['\n', '[', ']', '{', '}', '|', '<', '>', '#']) : c ∉ text :=
  fun inside => unmarked c inside sign

theorem isUnmarked_append {first second : Text} :
    IsUnmarked (first ++ second) ↔ IsUnmarked first ∧ IsUnmarked second :=
  List.forall_mem_append

/-- A link of the wiki. -/
def wikiLink (target display : Text) : Text :=
  '[' :: '[' :: (target ++ '|' :: (display ++ [']', ']']))

/-- A link holds no other signs than its own. -/
theorem IsUnmarked.not_mem_link {target display : Text} {c : Char} (unmarked : IsUnmarked target)
    (unmarked' : IsUnmarked display) (sign : c ∈ ['\n', '{', '<']) :
    c ∉ wikiLink target display ∧ c ∉ dekiLink target display := by
  have listed : c ∈ ['\n', '[', ']', '{', '}', '|', '<', '>', '#'] ∧ c ∉ ['[', '|', ']'] := by
    revert c
    decide
  have inTarget := unmarked.not_mem listed.1
  have inDisplay := unmarked'.not_mem listed.1
  have other := listed.2
  simp only [List.mem_cons, List.not_mem_nil, or_false, not_or] at other
  simp [wikiLink, dekiLink, inTarget, inDisplay, other]

/-- Of two brackets in front of a text without brackets a third can be only one of the two. -/
theorem eq_of_brackets_eq {inner before rest : Text} (absent : '[' ∉ inner)
    (split : '[' :: '[' :: inner = before ++ '[' :: rest) :
    (before = [] ∧ rest = '[' :: inner) ∨ (before = ['['] ∧ rest = inner) := by
  match before, split with
  | [], split =>
      simp only [List.nil_append, List.cons.injEq, true_and] at split
      exact .inl ⟨rfl, split.symm⟩
  | [c], split =>
      simp only [List.cons_append, List.nil_append, List.cons.injEq, true_and] at split
      exact .inr ⟨by rw [← split.1], split.2.symm⟩
  | c :: d :: before, split =>
      simp only [List.cons_append, List.cons.injEq] at split
      refine absurd ?_ absent
      rw [split.2.2]
      exact List.mem_append_right before List.mem_cons_self

theorem IsUnmarked.not_mem_inner {target display : Text} {c : Char}
    (unmarked : IsUnmarked target) (unmarked' : IsUnmarked display)
    (sign : c ∈ ['\n', '[', '{', '<', '>', '#']) :
    c ∉ target ++ '|' :: (display ++ [']', ']']) := by
  have listed : c ∈ ['\n', '[', ']', '{', '}', '|', '<', '>', '#'] ∧ c ≠ '|' ∧ c ≠ ']' := by
    revert c
    decide
  simp [unmarked.not_mem listed.1, unmarked'.not_mem listed.1, listed.2]

/-- Only small letters are small forms of others than themselves. -/
theorem eq_of_toLower {c d : Char} (lowered : c.toLower = d)
    (unlettered : ¬ (97 ≤ d.toNat ∧ d.toNat ≤ 122)) : c = d := by
  by_cases capital : c.val ≥ 'A'.val ∧ c.val ≤ 'Z'.val
  · have small : c.val + ('a'.val - 'A'.val) = d.val :=
      congrArg Char.val ((dif_pos capital).symm.trans lowered)
    have value := congrArg UInt32.toNat small
    have low := UInt32.le_iff_toNat_le.mp capital.1
    have high := UInt32.le_iff_toNat_le.mp capital.2
    rw [UInt32.toNat_add] at value
    change 65 ≤ c.val.toNat at low
    change c.val.toNat ≤ 90 at high
    change (c.val.toNat + 32) % 4294967296 = d.toNat at value
    omega
  · exact (dif_neg capital).symm.trans lowered

theorem eq_bracket_of_toLower {c : Char} (lowered : c.toLower = '[') : c = '[' :=
  eq_of_toLower lowered (by decide)

/-- A category link opens with the word in some case. -/
theorem category_shape {lineStart : Bool} {lexeme after : Text}
    (matched : categoryLink.Matches lineStart lexeme after) :
    ∃ front rest, lexeme ++ after = front ++ rest ∧
      (sameLetters front "[[category:".toList = true ∨
        sameLetters front "[category:".toList = true) := by
  have opens : ∀ {opening close text : Text} {length : Nat},
      labelledLength? opening close text = some length →
      sameLetters (text.take opening.length) opening = true := by
    intro opening close text length found
    rw [labelledLength?] at found
    split at found
    · next same => exact same
    · cases found
  have found := matched.lengthAt?_eq
  simp only [categoryLink, Option.orElse_eq_orElse, Option.orElse_eq_or,
    Option.or_eq_some_iff] at found
  rcases found with double | ⟨-, single⟩
  · exact ⟨_, _, (List.take_append_drop _ _).symm, .inl (opens double)⟩
  · exact ⟨_, _, (List.take_append_drop _ _).symm, .inr (opens single)⟩

theorem category_head {lineStart : Bool} {lexeme after : Text}
    (matched : categoryLink.Matches lineStart lexeme after) : lexeme.head? = some '[' := by
  obtain ⟨front, rest, split, opens⟩ := category_shape matched
  obtain ⟨letters, lowered⟩ : ∃ letters, front.map Char.toLower = '[' :: letters := by
    rcases opens with double | single
    · exact ⟨"[category:".toList, (eq_of_beq double).trans (by decide)⟩
    · exact ⟨"category:".toList, (eq_of_beq single).trans (by decide)⟩
  obtain ⟨c, front, rfl, first, -⟩ := List.map_eq_cons_iff.mp lowered
  obtain ⟨d, lexeme, rfl⟩ := List.exists_cons_of_ne_nil matched.nonempty
  rw [List.head?_cons, (List.cons.inj split).1, eq_bracket_of_toLower first]

/-- A link whose target begins with another letter names no category. -/
theorem removeCategories_wikiLink {target display : Text} {c : Char}
    (unmarked : IsUnmarked target) (unmarked' : IsUnmarked display) (head : target.head? = some c)
    (other : c.toLower ≠ 'c') :
    removeCategories (wikiLink target display) = wikiLink target display := by
  apply Pattern.substitute_eq_self
  apply Bool.eq_false_iff.mpr
  intro occurs
  obtain ⟨before, lineStart, lexeme, after, split, matched⟩ :=
    Pattern.exists_matches_of_occursIn occurs
  obtain ⟨front, rest, ahead, opens⟩ := category_shape matched
  obtain ⟨others, rfl⟩ := List.head?_eq_some_iff.mp head
  have unbracketed : c ≠ '[' := fun same =>
    unmarked.not_mem (c := '[') (by simp) (same ▸ List.mem_cons_self)
  rw [ahead] at split
  have absent := unmarked.not_mem_inner unmarked' (c := '[') (by simp)
  rcases opens with double | single
  · have letters : front.map Char.toLower = '[' :: '[' :: 'c' :: "ategory:".toList :=
      (eq_of_beq double).trans (by decide)
    obtain ⟨d, front, rfl, first, letters⟩ := List.map_eq_cons_iff.mp letters
    obtain ⟨e, front, rfl, second, letters⟩ := List.map_eq_cons_iff.mp letters
    obtain ⟨f, front, rfl, third, -⟩ := List.map_eq_cons_iff.mp letters
    obtain rfl := eq_bracket_of_toLower first
    rcases eq_of_brackets_eq absent split with ⟨-, rest_eq⟩ | ⟨-, rest_eq⟩
    · simp only [List.append_eq, List.cons_append, List.cons.injEq] at rest_eq
      exact other (rest_eq.2.1 ▸ third)
    · simp only [List.append_eq, List.cons_append, List.cons.injEq] at rest_eq
      exact unbracketed (rest_eq.1 ▸ eq_bracket_of_toLower second)
  · have letters : front.map Char.toLower = '[' :: 'c' :: "ategory:".toList :=
      (eq_of_beq single).trans (by decide)
    obtain ⟨d, front, rfl, first, letters⟩ := List.map_eq_cons_iff.mp letters
    obtain ⟨e, front, rfl, second, -⟩ := List.map_eq_cons_iff.mp letters
    obtain rfl := eq_bracket_of_toLower first
    rcases eq_of_brackets_eq absent split with ⟨-, rest_eq⟩ | ⟨-, rest_eq⟩
    · simp only [List.append_eq, List.cons_append, List.cons.injEq] at rest_eq
      rw [rest_eq.1] at second
      exact absurd second (by decide)
    · simp only [List.append_eq, List.cons_append, List.cons.injEq] at rest_eq
      exact other (rest_eq.1 ▸ second)

/-- A link without pairs of hyphens has no dash to wrap. -/
theorem wrapDashes_wikiLink {target display : Text} (dashless : ¬ dash <:+: target)
    (dashless' : ¬ dash <:+: display) :
    wrapDashes (wikiLink target display) = wikiLink target display := by
  apply replaceAll_eq_self (by decide)
  intro inside
  have parts : wikiLink target display =
      ['['] ++ '[' :: (target ++ '|' :: (display ++ ']' :: [']'])) := rfl
  rw [parts] at inside
  rcases infix_of_infix_append_cons (by decide) inside with front | inside
  · exact absurd front.length_le (by decide)
  · rcases infix_of_infix_append_cons (by decide) inside with inTarget | inside
    · exact dashless inTarget
    · rcases infix_of_infix_append_cons (by decide) inside with inDisplay | back
      · exact dashless' inDisplay
      · exact absurd back.length_le (by decide)

theorem heading_not_occursIn_of_line {c : Char} {rest : Text} (unsigned : c ≠ '=')
    (inline : '\n' ∉ c :: rest) : heading.occursIn (c :: rest) = false := by
  apply Bool.eq_false_iff.mpr
  intro occurs
  rw [heading_occursIn, hasHeadingLine_of_inline inline] at occurs
  exact unsigned (Option.some.inj occurs.1)

theorem placeContents_wikiLink {target display : Text} (unmarked : IsUnmarked target)
    (unmarked' : IsUnmarked display)
    (unsuppressed : ¬ HoldsLetters "__NOTOC__".toList (wikiLink target display))
    (isTemplate : Bool) :
    placeContents (wikiLink target display) isTemplate = wikiLink target display := by
  cases isTemplate with
  | true => rfl
  | false =>
      have inline := (unmarked.not_mem_link unmarked' (c := '\n') (by simp)).1
      have noHeading : heading.occursIn (wikiLink target display) = false :=
        heading_not_occursIn_of_line (by decide) inline
      rw [placeContents_of_unsuppressed unsuppressed, noHeading, if_neg Bool.false_ne_true]

/-- What a table makes of the lead of a link, provided no entry agrees with the lead in
part only. -/
def rewriteLead : (table : List (Text × Text)) → (lead : Text) → Option Text
  | [], lead => some lead
  | (old, new) :: table, lead =>
    if old = lead then rewriteLead table new
    else if old <+: lead ∨ lead <+: old then none
    else rewriteLead table lead

/-- A bracket and a name. -/
structure IsLead (lead : Text) : Prop where
  head : lead.head? = some '['
  single : ∀ c ∈ lead.tail, c ≠ '[' ∧ c ≠ '#'

section

variable {old new lead rest : Text} (isPlain : IsPlainPhrase old new) (isLead : IsLead lead)
  (clear : '[' ∉ rest ∧ '#' ∉ rest)

include isPlain isLead clear

/-- A phrase that the lead does not agree with does not occur in the link. -/
theorem replaceAll_of_apart (apart : ¬ old <+: lead) (apart' : ¬ lead <+: old) :
    replaceAll old new ('[' :: (lead ++ rest)) = '[' :: (lead ++ rest) := by
  apply replaceAll_eq_self isPlain.nonempty
  rintro ⟨before, after, split⟩
  obtain ⟨name, rfl⟩ := List.head?_eq_some_iff.mp isLead.head
  have absent : ∀ {c : Char}, c = '[' ∨ c = '#' → c ∉ name ++ rest := by
    rintro c sign inside
    rcases List.mem_append.mp inside with inName | inRest
    · have single := isLead.single c inName
      tauto
    · rcases sign with rfl | rfl
      · exact clear.1 inRest
      · exact clear.2 inRest
  rcases isPlain.opens with ⟨head, -⟩ | ⟨head, -⟩
  · obtain ⟨others, rfl⟩ := List.head?_eq_some_iff.mp head
    have brackets : '[' :: '[' :: (name ++ rest) = before ++ '[' :: (others ++ after) := by
      simpa using split.symm
    rcases eq_of_brackets_eq (absent (.inl rfl)) brackets with ⟨-, here⟩ | ⟨-, here⟩
    · cases others with
      | nil => exact isPlain.more rfl
      | cons d others =>
          have bracket : d = '[' := (List.cons.inj here).1
          exact (isPlain.single d (by simp)).1 bracket
    · have begins : '[' :: others <+: '[' :: name ++ rest :=
        ⟨after, by rw [List.cons_append, here, List.cons_append]⟩
      rcases List.prefix_or_prefix_of_prefix begins (List.prefix_append _ rest) with
        inside | outside
      · exact apart inside
      · exact apart' outside
  · have inside : '#' ∈ '[' :: ('[' :: name ++ rest) := by
      rw [← split]
      simp [List.mem_of_mem_head? head]
    exact absent (.inr rfl) (by simpa using inside)

omit isLead in
/-- A phrase that is the lead is replaced there and nowhere else. -/
theorem replaceAll_of_lead (bracket : old.head? = some '[') :
    replaceAll old new ('[' :: (old ++ rest)) = '[' :: (new ++ rest) := by
  obtain ⟨others, rfl⟩ := List.head?_eq_some_iff.mp bracket
  have behind : ¬ '[' :: others <+: '[' :: ('[' :: others ++ rest) := by
    intro begins
    cases others with
    | nil => exact isPlain.more rfl
    | cons d others =>
        have agrees := (List.cons_prefix_cons.mp begins).2
        exact (isPlain.single d (by simp)).1 (List.cons_prefix_cons.mp agrees).1
  have absent : ¬ '[' :: others <:+: rest := fun inside =>
    clear.1 (inside.subset List.mem_cons_self)
  rw [replaceAll_cons isPlain.nonempty behind, replaceAll_append isPlain.nonempty,
    replaceAll_eq_self isPlain.nonempty absent]

end

/-- The replacement of a phrase that is a lead is a lead. -/
theorem IsPlainPhrase.isLead_new {old new : Text} (isPlain : IsPlainPhrase old new)
    (bracket : old.head? = some '[') : IsLead new := by
  constructor
  · rcases isPlain.opens with ⟨-, head⟩ | ⟨head, -⟩
    · exact head
    · rw [bracket] at head
      cases head
  · intro c inside
    exact isPlain.single c (List.mem_append_right _ inside)

/-- A table of phrases changes nothing in a link but its lead. -/
theorem replaceInOrder_lead {table : List (Text × Text)} {lead spelled rest : Text}
    (plain : ∀ entry ∈ table, IsPlainPhrase entry.1 entry.2) (isLead : IsLead lead)
    (clear : '[' ∉ rest ∧ '#' ∉ rest) (rewritten : rewriteLead table lead = some spelled) :
    replaceInOrder table ('[' :: (lead ++ rest)) = '[' :: (spelled ++ rest) := by
  induction table generalizing lead with
  | nil =>
      cases rewritten
      rfl
  | cons entry table ih =>
      obtain ⟨old, new⟩ := entry
      have here := plain (old, new) List.mem_cons_self
      have later : ∀ entry ∈ table, IsPlainPhrase entry.1 entry.2 := fun entry listed =>
        plain entry (List.mem_cons_of_mem _ listed)
      show replaceInOrder table (replaceAll old new ('[' :: (lead ++ rest))) = _
      rw [rewriteLead] at rewritten
      by_cases same : old = lead
      · rw [if_pos same] at rewritten
        subst same
        rw [replaceAll_of_lead here clear isLead.head]
        exact ih later (here.isLead_new isLead.head) rewritten
      · rw [if_neg same] at rewritten
        by_cases agrees : old <+: lead ∨ lead <+: old
        · rw [if_pos agrees] at rewritten
          cases rewritten
        · rw [if_neg agrees] at rewritten
          rw [not_or] at agrees
          rw [replaceAll_of_apart here isLead clear agrees.1 agrees.2]
          exact ih later isLead rewritten

/-- The fixed phrases change nothing in a link but its lead. -/
theorem replacePhrases_wikiLink {lead spelled title display : Text}
    (single : ∀ c ∈ lead, c ≠ '[' ∧ c ≠ '#') (unmarked : IsUnmarked title)
    (unmarked' : IsUnmarked display)
    (rewritten : rewriteLead linkPhrases ('[' :: lead) = some ('[' :: spelled)) :
    replacePhrases (wikiLink (lead ++ title) display) = wikiLink (spelled ++ title) display := by
  have clear : ∀ {c : Char}, c ∈ ['[', '#'] → c ∉ title ++ '|' :: (display ++ [']', ']']) := by
    intro c sign
    apply unmarked.not_mem_inner unmarked'
    revert c
    decide
  have regroup : ∀ name : Text, wikiLink (name ++ title) display =
      '[' :: ('[' :: name ++ (title ++ '|' :: (display ++ [']', ']']))) := by
    intro name
    simp [wikiLink]
  rw [regroup, regroup]
  have isLead : IsLead ('[' :: lead) := ⟨rfl, single⟩
  apply replaceInOrder_lead ?_ isLead ⟨clear (by simp), clear (by simp)⟩ rewritten
  intro entry listed
  exact isPlainPhrase_of_mem listed

/-- A link between solid ends takes the Deki form. -/
theorem adaptLinks_wikiLink {target display : Text} (unmarked : IsUnmarked target)
    (unmarked' : IsUnmarked display) (solid : IsSolid (target ++ '|' :: display)) :
    adaptLinks (wikiLink target display) = dekiLink (cleanTarget target) display := by
  have absent : ∀ {c : Char}, c ∈ ['\n', '[', ']'] → c ∉ target ++ '|' :: display := by
    intro c sign
    have listed : c ∈ ['\n', '[', ']', '{', '}', '|', '<', '>', '#'] ∧ c ≠ '|' := by
      revert c
      decide
    simp [unmarked.not_mem listed.1, unmarked'.not_mem listed.1, listed.2]
  have enclosed : IsEnclosed (target ++ '|' :: display) :=
    ⟨by simp, fun c sign => absent (List.mem_cons_of_mem _ sign), absent (by simp)⟩
  have barred : trim (target ++ '|' :: display) = target ++ '|' :: display := solid.trim_eq_self
  have link_eq : wikiLink target display =
      '[' :: '[' :: (target ++ '|' :: display ++ [']', ']']) := by
    simp [wikiLink]
  have adapted := enclosed.adaptLinks_append .double
    (.barred barred (unmarked.not_mem (by simp))) []
  rw [link_eq, ← List.append_nil ('[' :: _), adapted, adaptLinks, Pattern.substitute_eq,
    Pattern.substituteFrom_nil, List.append_nil]

theorem IsUnmarked.cleanTarget {target : Text} (unmarked : IsUnmarked target) :
    IsUnmarked (cleanTarget target) := by
  intro c inside
  rcases mem_of_mem_cleanTarget inside with rfl | isThere
  · decide
  · exact unmarked c isThere

/-- The passes behind the links find nothing in a link of Deki. -/
theorem finish_dekiLink {target display : Text} (unmarked : IsUnmarked target)
    (unmarked' : IsUnmarked display) (catalog : Template.Catalog) :
    resolveCalls catalog (fenceCode (deepenHeadings (adaptTables (dekiLink target display)))) =
      dekiLink target display := by
  have braceless := (unmarked.not_mem_link unmarked' (c := '{') (by simp)).2
  have unopened := (unmarked.not_mem_link unmarked' (c := '<') (by simp)).2
  have inline := (unmarked.not_mem_link unmarked' (c := '\n') (by simp)).2
  have noTable : adaptTables (dekiLink target display) = dekiLink target display :=
    Pattern.substitute_eq_self (Pattern.not_occursIn_of_head table_head braceless)
  have noHeading : deepenHeadings (dekiLink target display) = dekiLink target display :=
    Pattern.substitute_eq_self (heading_not_occursIn_of_line (by decide) inline)
  have noMark : fenceCode (dekiLink target display) = dekiLink target display := by
    apply replaceInOrder_eq_self fun _ listed => (isCodeMark_of_mem listed).nonempty
    intro entry listed inside
    exact unopened (inside.subset (List.mem_of_mem_head? (isCodeMark_of_mem listed).opens))
  have noCall : resolveCalls catalog (dekiLink target display) = dekiLink target display :=
    Pattern.substitute_eq_self (Pattern.not_occursIn_of_head call_head braceless)
  rw [noTable, noHeading, noMark, noCall]

end DekiMigration.Markup
