/-
# The forms of a link

A link whose brackets enclose some text of one line without brackets is found as it stands,
wherever the search comes to it: no bracket behind it makes it longer, and nothing before it
matters if no bracket opens there. Deki's form of it is told by the body, from its first bar
or else its first space, and is given here as a relation that says nothing of how the body
is searched.
-/

import DekiMigration.Proofs.Markup.Shape

namespace DekiMigration.Markup

open Text

/-- A link of Deki. -/
def dekiLink (target display : Text) : Text :=
  '[' :: (target ++ '|' :: (display ++ [']']))

/-- Somewhere a word character, more of the same line and the mark of a scheme. -/
def HoldsAddress (text : Text) : Prop :=
  ∃ front c inner back, text = front ++ c :: (inner ++ ("://".toList ++ back)) ∧
    isWord c = true ∧ inner ≠ [] ∧ '\n' ∉ inner

theorem schemeMarkOnLine_iff {text : Text} :
    schemeMarkOnLine text = true ↔
      ∃ inner back, text = inner ++ ("://".toList ++ back) ∧ '\n' ∉ inner := by
  induction text with
  | nil => simp [schemeMarkOnLine]
  | cons c rest ih =>
      rw [schemeMarkOnLine, Bool.or_eq_true, Bool.and_eq_true, List.isPrefixOf_iff_prefix, ih,
        bne_iff_ne]
      constructor
      · rintro (⟨back, text_eq⟩ | ⟨visible, inner, back, rfl, inline⟩)
        · exact ⟨[], back, text_eq.symm, List.not_mem_nil⟩
        · exact ⟨c :: inner, back, rfl, by simp [visible.symm, inline]⟩
      · rintro ⟨inner, back, text_eq, inline⟩
        cases inner with
        | nil => exact .inl ⟨back, text_eq.symm⟩
        | cons d inner =>
            rw [List.mem_cons, not_or] at inline
            obtain ⟨rfl, rest_eq⟩ := List.cons_eq_cons.mp text_eq
            exact .inr ⟨Ne.symm inline.1, inner, back, rest_eq, inline.2⟩

theorem holdsAddress_iff {text : Text} : holdsAddress text = true ↔ HoldsAddress text := by
  have long : ∀ text, HoldsAddress text → 1 < text.length := by
    rintro text ⟨front, c, inner, back, rfl, -, more, -⟩
    have := List.length_pos_iff.mpr more
    simp
    omega
  fun_induction holdsAddress text with
  | case1 => exact ⟨nofun, fun holds => absurd (long _ holds) (by simp)⟩
  | case2 c => exact ⟨nofun, fun holds => absurd (long _ holds) (by simp)⟩
  | case3 c d rest ih =>
      simp only [Bool.or_eq_true, Bool.and_eq_true, schemeMarkOnLine_iff, bne_iff_ne, ih]
      constructor
      · rintro (⟨⟨isWord, visible⟩, inner, back, rfl, inline⟩ |
          ⟨front, e, inner, back, text_eq, scheme⟩)
        · exact ⟨[], c, d :: inner, back, rfl, isWord, by simp, by simp [visible.symm, inline]⟩
        · exact ⟨c :: front, e, inner, back, by rw [text_eq, List.cons_append], scheme⟩
      · rintro ⟨front, e, inner, back, text_eq, isWord, more, inline⟩
        cases front with
        | nil =>
            obtain ⟨f, inner, rfl⟩ := List.exists_cons_of_ne_nil more
            rw [List.mem_cons, not_or] at inline
            obtain ⟨rfl, ahead⟩ := List.cons_eq_cons.mp text_eq
            obtain ⟨rfl, behind⟩ := List.cons_eq_cons.mp ahead
            exact .inl ⟨⟨isWord, Ne.symm inline.1⟩, inner, back, behind, inline.2⟩
        | cons f front =>
            obtain ⟨rfl, ahead⟩ := List.cons_eq_cons.mp text_eq
            exact .inr ⟨front, e, inner, back, ahead, isWord, more, inline⟩

/-- A cleaned target has none of the characters that Deki's targets go without. -/
theorem not_mem_cleanTarget {c : Char} (sign : c ∈ [':', '&', ' ']) (target : Text) :
    c ∉ cleanTarget target := by
  intro inside
  obtain ⟨d, -, changed⟩ := List.mem_map.mp inside
  split at changed
  · subst changed
    exact absurd sign (by decide)
  · next other =>
      subst changed
      simp only [Bool.or_eq_true, decide_eq_true_eq] at other
      simp only [List.mem_cons, List.not_mem_nil, or_false] at sign
      exact other (or_assoc.mpr sign)

/-- How Deki writes a link with a certain body. -/
inductive IsDekiForm (link body : Text) : Text → Prop
  | plain (unmarked : ∀ c ∈ ['|', ' ', ':', '&'], c ∉ body) : IsDekiForm link body link
  | bare (undivided : ∀ c ∈ ['|', ' '], c ∉ body) (marked : ∃ c ∈ [':', '&'], c ∈ body) :
      IsDekiForm link body ('[' :: (cleanTarget body ++ [']']))
  | barred {target display : Text} (split : body = target ++ '|' :: display)
      (first : '|' ∉ target) : IsDekiForm link body (dekiLink (cleanTarget target) display)
  | spaced {target display : Text} (unbarred : '|' ∉ body)
      (split : body = target ++ ' ' :: display) (first : ' ' ∉ target)
      (named : ¬ HoldsAddress target) :
      IsDekiForm link body (dekiLink (cleanTarget target) display)
  | addressed {target display : Text} (unbarred : '|' ∉ body)
      (split : body = target ++ ' ' :: display) (first : ' ' ∉ target)
      (address : HoldsAddress target) : IsDekiForm link body (dekiLink target display)

theorem exists_isDekiForm (link body : Text) : ∃ written, IsDekiForm link body written := by
  by_cases barred : '|' ∈ body
  · obtain ⟨target, display, split, first⟩ := List.eq_append_cons_of_mem barred
    exact ⟨_, .barred split first⟩
  · by_cases spaced : ' ' ∈ body
    · obtain ⟨target, display, split, first⟩ := List.eq_append_cons_of_mem spaced
      by_cases address : HoldsAddress target
      · exact ⟨_, .addressed barred split first address⟩
      · exact ⟨_, .spaced barred split first address⟩
    · by_cases marked : ∃ c ∈ [':', '&'], c ∈ body
      · exact ⟨_, .bare (by simp [barred, spaced]) marked⟩
      · exact ⟨_, .plain (by simpa [barred, spaced] using marked)⟩

/-- The form that a body asks for is the one that is written. -/
theorem isDekiForm_iff {lexeme written : Text} (filled : lexeme ∉ emptyLinks) :
    IsDekiForm lexeme (linkBody lexeme) written ↔
      written = (adaptLink lexeme).getD lexeme := by
  have forward : ∀ {written}, IsDekiForm lexeme (linkBody lexeme) written →
      written = (adaptLink lexeme).getD lexeme := by
    intro written form
    rw [adaptLink, if_neg (by simpa using filled)]
    dsimp only
    cases form with
    | plain unmarked =>
        rw [cutAt?_eq_none (unmarked '|' (by simp)), cutAt?_eq_none (unmarked ' ' (by simp))]
        simp [unmarked ':' (by simp), unmarked '&' (by simp)]
    | bare undivided marked =>
        rw [cutAt?_eq_none (undivided '|' (by simp)), cutAt?_eq_none (undivided ' ' (by simp))]
        simp only [List.mem_cons, List.not_mem_nil, or_false, exists_eq_or_imp,
          exists_eq_left] at marked
        simp [marked]
    | barred split first =>
        rw [cutAt?_eq_some.mpr ⟨split, first⟩]
        rfl
    | spaced unbarred split first named =>
        rw [cutAt?_eq_none unbarred, cutAt?_eq_some.mpr ⟨split, first⟩]
        simp [mt holdsAddress_iff.mp named, dekiLink]
    | addressed unbarred split first address =>
        rw [cutAt?_eq_none unbarred, cutAt?_eq_some.mpr ⟨split, first⟩]
        simp [holdsAddress_iff.mpr address, dekiLink]
  refine ⟨forward, ?_⟩
  rintro rfl
  obtain ⟨written, form⟩ := exists_isDekiForm lexeme (linkBody lexeme)
  exact forward form ▸ form

/-- The text between the brackets of a link that is found as it stands. -/
structure IsEnclosed (body : Text) : Prop where
  nonempty : body ≠ []
  unbracketed : ∀ c ∈ ['[', ']'], c ∉ body
  inline : '\n' ∉ body

/-- A text in double brackets, or in single ones. -/
inductive IsLinkOf (body : Text) : Text → Prop
  | double : IsLinkOf body ('[' :: '[' :: (body ++ [']', ']']))
  | single : IsLinkOf body ('[' :: (body ++ [']']))

theorem link_ignoresLines : link.IgnoresLines :=
  fun _ _ _ => rfl

section Extent

variable {lineStart : Bool} {c : Char} {inner after : Text}

/-- In double brackets a link reaches to the first two that close on its line. -/
theorem link_matches_double (inline : '\n' ∉ c :: inner)
    (first : EndsFirst [']', ']'] inner after) :
    link.Matches lineStart ('[' :: '[' :: (c :: inner ++ [']', ']'])) after := by
  have visible : ∀ d ∈ c :: inner, (d != '\n') = true := fun d inside =>
    bne_iff_ne.mpr fun feed => inline (feed ▸ inside)
  have found : enclosedLength? ['[', '['] [']', ']'] (· != '\n')
      ('[' :: '[' :: (c :: inner ++ [']', ']']) ++ after) =
        some ('[' :: '[' :: (c :: inner ++ [']', ']'])).length := by
    refine enclosedLength?_eq_some.mpr ⟨c, inner, after, by simp, ?_, visible, first⟩
    simp only [List.length_cons, List.length_append, List.length_nil]
    omega
  refine ⟨by simp, ?_⟩
  simp only [link]
  rw [found]
  rfl

/-- In single brackets, where double ones do not match, it reaches to the first that closes. -/
theorem link_matches_single
    (undoubled : enclosedLength? ['[', '['] [']', ']'] (· != '\n')
      ('[' :: (c :: inner ++ [']']) ++ after) = none)
    (inline : '\n' ∉ c :: inner) (closes : ']' ∉ inner) :
    link.Matches lineStart ('[' :: (c :: inner ++ [']'])) after := by
  have visible : ∀ d ∈ c :: inner, (d != '\n') = true := fun d inside =>
    bne_iff_ne.mpr fun feed => inline (feed ▸ inside)
  have found : enclosedLength? ['['] [']'] (· != '\n') ('[' :: (c :: inner ++ [']']) ++ after) =
      some ('[' :: (c :: inner ++ [']'])).length := by
    refine enclosedLength?_eq_some.mpr
      ⟨c, inner, after, by simp, ?_, visible, endsFirst_of_not_mem closes⟩
    simp only [List.length_cons, List.length_append, List.length_nil]
    omega
  refine ⟨by simp, ?_⟩
  simp only [link]
  rw [undoubled, found]
  rfl

/-- No link in double brackets begins with one bracket only. -/
theorem enclosedLength?_double_of_ne {text : Text} (other : c ≠ '[') :
    enclosedLength? ['[', '['] [']', ']'] (· != '\n') ('[' :: c :: text) = none := by
  rw [Option.eq_none_iff_forall_ne_some]
  intro length found
  obtain ⟨d, others, rest, text_eq, -⟩ := enclosedLength?_eq_some.mp found
  simp only [List.cons_append, List.cons.injEq, true_and] at text_eq
  exact other text_eq.1

/-- What is found as a link is changed as a whole, and the search goes on behind it. -/
theorem adaptLinks_append_of_matches {lexeme : Text} (matched : link.Matches true lexeme after) :
    adaptLinks (lexeme ++ after) = (adaptLink lexeme).getD lexeme ++ adaptLinks after :=
  link_ignoresLines.substitute_append matched

theorem linkBody_single {body : Text} (unopened : body.head? ≠ some '[') :
    linkBody ('[' :: (body ++ [']'])) = trim body := by
  have single : "[[".toList.isPrefixOf ('[' :: (body ++ [']'])) = false := by
    rw [Bool.eq_false_iff, ne_eq, List.isPrefixOf_iff_prefix]
    intro begins
    have ahead : ['['] <+: body ++ [']'] := (List.cons_prefix_cons.mp begins).2
    cases body with
    | nil => exact absurd (List.cons_prefix_cons.mp ahead).1 (by decide)
    | cons d body => exact unopened (congrArg some (List.cons_prefix_cons.mp ahead).1.symm)
  rw [linkBody, single, Bool.false_and, if_neg Bool.false_ne_true]
  simp

end Extent

section Surroundings

variable {lineStart : Bool} {body lexeme : Text} (enclosed : IsEnclosed body)

include enclosed

theorem IsEnclosed.link_matches (isLink : IsLinkOf body lexeme) (after : Text) :
    link.Matches lineStart lexeme after := by
  obtain ⟨nonempty, unbracketed, inline⟩ := enclosed
  obtain ⟨c, inner, rfl⟩ := List.exists_cons_of_ne_nil nonempty
  have closes : ']' ∉ inner := fun inside =>
    unbracketed ']' (by simp) (List.mem_cons_of_mem c inside)
  cases isLink with
  | double => exact link_matches_double inline (endsFirst_of_not_mem closes)
  | single =>
      have other : c ≠ '[' := fun same =>
        unbracketed '[' (by simp) (same ▸ List.mem_cons_self)
      exact link_matches_single (enclosedLength?_double_of_ne other) inline closes

theorem IsEnclosed.linkBody_eq (isLink : IsLinkOf body lexeme) : linkBody lexeme = trim body := by
  cases isLink with
  | double => exact linkBody_double body
  | single =>
      refine linkBody_single fun head => ?_
      exact enclosed.unbracketed '[' (by simp) (List.mem_of_mem_head? head)

/-- The links that are left alone are made of brackets only. -/
theorem IsEnclosed.not_mem_emptyLinks (isLink : IsLinkOf body lexeme) : lexeme ∉ emptyLinks := by
  have brackets : ∀ empty ∈ emptyLinks, ∀ c ∈ empty, c ∈ ['[', ']'] := by decide
  intro isEmpty
  obtain ⟨c, inside⟩ := List.exists_mem_of_ne_nil body enclosed.nonempty
  have inLink : c ∈ lexeme := by cases isLink <;> simp [inside]
  exact enclosed.unbracketed c (brackets lexeme isEmpty c inLink) inside

/-- A link is written in its form. -/
theorem IsEnclosed.adaptLinks_append (isLink : IsLinkOf body lexeme) {written : Text}
    (form : IsDekiForm lexeme (trim body) written) (after : Text) :
    adaptLinks (lexeme ++ after) = written ++ adaptLinks after := by
  rw [← enclosed.linkBody_eq isLink,
    isDekiForm_iff (enclosed.not_mem_emptyLinks isLink)] at form
  rw [adaptLinks_append_of_matches (enclosed.link_matches isLink after), form]

end Surroundings

/-- A text in which no bracket opens stays in front of all that follows. -/
theorem adaptLinks_append_of_not_mem {before : Text} (unopened : '[' ∉ before) (text : Text) :
    adaptLinks (before ++ text) = before ++ adaptLinks text :=
  link_ignoresLines.substitute_append_of_passesOver (link_passesOver unopened) text

/-- Behind a text in which no bracket opens, a link takes the one form that its body asks
for, whatever follows it. Only an address in front of a space is a target that is kept, and
every other one goes without the characters that Deki does not take. -/
theorem adaptLinks_link {before body lexeme : Text} (unopened : '[' ∉ before)
    (enclosed : IsEnclosed body) (isLink : IsLinkOf body lexeme) (after : Text) :
    ∃ written, (∀ other, IsDekiForm lexeme (trim body) other ↔ other = written) ∧
      adaptLinks (before ++ (lexeme ++ after)) = before ++ (written ++ adaptLinks after) ∧
      ∀ target, ∀ c ∈ [':', '&', ' '], c ∉ cleanTarget target := by
  obtain ⟨written, form⟩ := exists_isDekiForm lexeme (trim body)
  have forms : ∀ other, IsDekiForm lexeme (trim body) other ↔
      other = (adaptLink lexeme).getD lexeme := by
    intro other
    rw [← enclosed.linkBody_eq isLink, isDekiForm_iff (enclosed.not_mem_emptyLinks isLink)]
  obtain rfl := (forms written).mp form
  refine ⟨_, forms, ?_, fun target c sign => not_mem_cleanTarget sign target⟩
  rw [adaptLinks_append_of_not_mem unopened, enclosed.adaptLinks_append isLink form]

/-- A link between brackets that belong to no link. -/
theorem adaptLinks_link_amongBrackets :
    adaptLinks ("see ] ".toList ++ ("[[A:b & c d]]".toList ++ "]] [[".toList)) =
      "see ] ".toList ++ ("[A_b|& c d]".toList ++ adaptLinks "]] [[".toList) := by
  have enclosed : IsEnclosed "A:b & c d".toList := ⟨by decide, by decide, by decide⟩
  have unopened : '[' ∉ "see ] ".toList := by decide
  obtain ⟨written, forms, adapted, -⟩ :=
    adaptLinks_link unopened enclosed .double "]] [[".toList
  have trimmed : trim "A:b & c d".toList = "A:b".toList ++ ' ' :: "& c d".toList := by decide
  have named : ¬ HoldsAddress "A:b".toList := by
    rw [← holdsAddress_iff]
    decide
  have form := (forms _).mp (.spaced (by decide) trimmed (by decide) named)
  rw [← form] at adapted
  exact adapted

/-- An address with nothing behind it is cleaned as any other target, although neither a bar
nor a space is in it. -/
theorem adaptLinks_bareAddress :
    HoldsAddress "http://example.com".toList ∧
      (∀ c ∈ ['|', ' '], c ∉ "http://example.com".toList) ∧
      adaptLinks "[http://example.com]".toList = "[http_//example.com]".toList ∧
      adaptLinks "[http://example.com]".toList ≠ "[http://example.com]".toList := by
  have cleaned : adaptLinks "[http://example.com]".toList = "[http_//example.com]".toList := by
    decide +kernel
  refine ⟨holdsAddress_iff.mp (by decide +kernel), by decide, cleaned, ?_⟩
  rw [cleaned]
  decide

end DekiMigration.Markup
