/-
# Empty links

Brackets around nothing are no link, and a page keeps them. But the search asks for one
character between the brackets at least, and takes the closing bracket of an empty link for
it: when the same brackets close once more on the line, it finds a wider link there, from the
empty one up to them. So an empty link stays what it is if its brackets do not close again, and
otherwise exactly if the wider link is written as the empty link and the text behind it would
be written apart from each other.
-/

import DekiMigration.Proofs.Markup.LinkForms

namespace DekiMigration.Markup

open Text

/-- The brackets around a link. -/
inductive IsBrackets : (opening close : Text) → Prop
  | double : IsBrackets ['[', '['] [']', ']']
  | single : IsBrackets ['['] [']']

/-- Behind an empty link the brackets that close it stand once more on the line, first after
`stretch`. The closing brackets of the link itself count: of three in a row, the last two
close nothing again. -/
structure ClosesAgain (close after stretch rest : Text) : Prop where
  split : after = stretch ++ (close ++ rest)
  inline : '\n' ∉ stretch
  first : EndsFirst close (close.tail ++ stretch) rest

/-- The link that an empty one becomes when its brackets close again. -/
def widened (opening close stretch : Text) : Text :=
  opening ++ (close ++ stretch ++ close)

variable {opening close after stretch rest : Text}

section Widened

variable (brackets : IsBrackets opening close)

include brackets

theorem linkBody_widened (stretch : Text) :
    linkBody (widened opening close stretch) = trim (close ++ stretch) := by
  cases brackets with
  | double => exact linkBody_double (']' :: ']' :: stretch)
  | single => exact linkBody_single (by simp : (']' :: stretch).head? ≠ some '[')

theorem widened_not_mem_emptyLinks (stretch : Text) :
    widened opening close stretch ∉ emptyLinks := by
  have short : ∀ empty ∈ emptyLinks, empty.length < 6 ∧
      (empty.take 2 = ['[', ']'] → empty.length < 3) := by decide
  intro isEmpty
  have width := short _ isEmpty
  cases brackets with
  | double =>
      have below := width.1
      simp only [widened, List.length_append, List.length_cons, List.length_nil] at below
      omega
  | single =>
      have below := width.2 (by simp [widened])
      simp only [widened, List.length_append, List.length_cons, List.length_nil] at below
      omega

theorem ClosesAgain.link_matches (closes : ClosesAgain close after stretch rest)
    (lineStart : Bool) : link.Matches lineStart (widened opening close stretch) rest := by
  obtain ⟨-, inline, first⟩ := closes
  cases brackets with
  | double => exact link_matches_double (by simpa using inline) first
  | single =>
      exact link_matches_single (enclosedLength?_double_of_ne (by decide)) (by simpa using inline)
        (endsFirst_singleton.mp first)

/-- The wider link is written in the form that its body asks for. -/
theorem ClosesAgain.adaptLinks_append (closes : ClosesAgain close after stretch rest)
    {written : Text}
    (form : IsDekiForm (widened opening close stretch) (trim (close ++ stretch)) written) :
    adaptLinks (opening ++ (close ++ after)) = written ++ adaptLinks rest := by
  rw [← linkBody_widened brackets,
    isDekiForm_iff (widened_not_mem_emptyLinks brackets stretch)] at form
  have regroup : opening ++ (close ++ after) = widened opening close stretch ++ rest := by
    simp [widened, closes.split]
  rw [regroup, adaptLinks_append_of_matches (closes.link_matches brackets true), form]

end Widened

theorem adaptLinks_close (text : Text) : adaptLinks (']' :: text) = ']' :: adaptLinks text :=
  adaptLinks_append_of_not_mem (by decide : '[' ∉ [']']) text

/-- No double brackets enclose anything from an empty link on when they do not close again
behind it. -/
theorem enclosedLength?_of_not_closesAgain (third : after.head? ≠ some ']')
    (never : ∀ stretch rest, ¬ ClosesAgain [']', ']'] after stretch rest) :
    enclosedLength? ['[', '['] [']', ']'] (· != '\n') ('[' :: '[' :: ']' :: ']' :: after) =
      none := by
  rw [Option.eq_none_iff_forall_ne_some]
  intro length found
  obtain ⟨c, inner, rest, text_eq, -, visible, first⟩ := enclosedLength?_eq_some.mp found
  obtain ⟨rfl, ahead⟩ : c = ']' ∧ ']' :: after = inner ++ ([']', ']'] ++ rest) := by
    simpa [eq_comm] using text_eq
  cases inner with
  | nil =>
      rw [(List.cons.inj ahead).2] at third
      exact third rfl
  | cons d stretch =>
      obtain ⟨rfl, split⟩ := List.cons_eq_cons.mp ahead
      refine never stretch rest ⟨split, fun feed => ?_, first⟩
      simpa using visible '\n' (by simp [feed])

/-- No link begins with an empty pair of single brackets when they do not close again. -/
theorem link_missed_of_not_closesAgain
    (never : ∀ stretch rest, ¬ ClosesAgain [']'] after stretch rest) (lineStart : Bool) :
    link.Missed lineStart ('[' :: ']' :: after) := by
  intro length found
  simp only [link, enclosedLength?_double_of_ne (by decide : ']' ≠ '[')] at found
  have single : enclosedLength? ['['] [']'] (· != '\n') ('[' :: ']' :: after) =
    some (length + 1) := found
  obtain ⟨c, stretch, rest, text_eq, -, visible, first⟩ := enclosedLength?_eq_some.mp single
  obtain ⟨rfl, split⟩ : c = ']' ∧ after = stretch ++ ([']'] ++ rest) := by
    simpa [eq_comm] using text_eq
  refine never stretch rest ⟨split, fun feed => ?_, first⟩
  simpa using visible '\n' (by simp [feed])

/-- In front of brackets that do not close again, an empty link stays. -/
theorem adaptLinks_of_not_closesAgain (brackets : IsBrackets opening close)
    (never : ∀ stretch rest, ¬ ClosesAgain close after stretch rest) :
    adaptLinks (opening ++ (close ++ after)) = opening ++ (close ++ adaptLinks after) := by
  -- The search takes the front of a double pair for a link, with or without a third bracket
  -- that closes, and finds no change to make to it.
  have kept : ∀ {lexeme rest : Text}, link.Matches true lexeme rest → adaptLink lexeme = none →
      adaptLinks (lexeme ++ rest) = lexeme ++ adaptLinks rest := by
    intro lexeme rest matched unchanged
    rw [adaptLinks_append_of_matches matched, unchanged, Option.getD_none]
  cases brackets with
  | double =>
      by_cases third : after.head? = some ']'
      · obtain ⟨rest, rfl⟩ := List.head?_eq_some_iff.mp third
        have matched : link.Matches true ['[', '[', ']', ']', ']'] rest :=
          link_matches_double (by decide : '\n' ∉ [']']) (endsFirst_nil _ rest)
        rw [adaptLinks_close]
        exact kept matched (by decide)
      · have undoubled := enclosedLength?_of_not_closesAgain third never
        have matched : link.Matches true ['[', '[', ']'] (']' :: after) :=
          link_matches_single undoubled (by decide : '\n' ∉ ['[']) List.not_mem_nil
        have adapted := kept matched (by decide)
        rw [adaptLinks_close] at adapted
        exact adapted
  | single =>
      have passed : adaptLinks ('[' :: ']' :: after) = '[' :: adaptLinks (']' :: after) :=
        link_ignoresLines.substitute_cons (link_missed_of_not_closesAgain never true)
      rw [adaptLinks_close] at passed
      exact passed

section Forms

variable (brackets : IsBrackets opening close)

include brackets

/-- The brackets of an empty link are the front of the wider link's body. -/
theorem trim_close_append (text : Text) : trim (close ++ text) = close ++ trimEnd text := by
  cases brackets <;> exact trim_append (by decide) (by decide) text

/-- A target in front of a separator holds the brackets at the front of the body. -/
theorem exists_target_eq {target display : Text} {separator : Char}
    (split : trim (close ++ stretch) = target ++ separator :: display)
    (isSeparator : separator ≠ ']') : ∃ rest, target = close ++ rest := by
  have foreign : separator ∉ close := by
    cases brackets <;> simp [isSeparator]
  have begins : close <+: target ++ separator :: display :=
    ⟨trimEnd stretch, (trim_close_append brackets stretch).symm.trans split⟩
  obtain ⟨rest, target_eq⟩ := prefix_of_prefix_append_cons foreign begins
  exact ⟨rest, target_eq.symm⟩

/-- However the wider link is written, it is as long as the empty one at least. -/
theorem length_le_of_isDekiForm {written : Text}
    (form : IsDekiForm (widened opening close stretch) (trim (close ++ stretch)) written) :
    (opening ++ close).length ≤ written.length := by
  have short : opening.length = close.length ∧ close.length ≤ 2 := by
    cases brackets <;> simp
  have kept : ∀ text, close.length ≤ (cleanTarget (close ++ text)).length := by
    intro text
    simp [cleanTarget, trim_close_append brackets text]
  rw [List.length_append]
  cases form with
  | plain =>
      simp only [widened, List.length_append]
      omega
  | bare =>
      have long := kept (trimEnd stretch)
      rw [← trim_close_append brackets] at long
      simp only [List.length_cons, List.length_append, List.length_nil]
      omega
  | barred split =>
      obtain ⟨rest, rfl⟩ := exists_target_eq brackets split (by decide)
      have long := kept rest
      simp only [dekiLink, List.length_cons, List.length_append, List.length_nil]
      omega
  | spaced _ split =>
      obtain ⟨rest, rfl⟩ := exists_target_eq brackets split (by decide)
      have long := kept rest
      simp only [dekiLink, List.length_cons, List.length_append, List.length_nil]
      omega
  | addressed _ split =>
      obtain ⟨rest, rfl⟩ := exists_target_eq brackets split (by decide)
      simp only [dekiLink, List.length_cons, List.length_append, List.length_nil]
      omega

end Forms

/-- When an empty link is what it seems to be: its brackets do not close again, or the link
that they enclose when they do is written as the empty link and what is made of the text up to
them on its own. A text in which no bracket opens stays on its own, and so the wider link has
to be in Deki's form already. -/
inductive IsInert (opening close after : Text) : Prop
  | apart (never : ∀ stretch rest, ¬ ClosesAgain close after stretch rest) :
      IsInert opening close after
  | kept {stretch rest : Text} (closes : ClosesAgain close after stretch rest)
      (unopened : '[' ∉ stretch)
      (form : IsDekiForm (widened opening close stretch) (trim (close ++ stretch))
        (widened opening close stretch)) : IsInert opening close after
  | agreed {stretch rest ahead : Text} (closes : ClosesAgain close after stretch rest)
      (opened : '[' ∈ stretch)
      (form : IsDekiForm (widened opening close stretch) (trim (close ++ stretch))
        (opening ++ (close ++ ahead)))
      (same : adaptLinks after = ahead ++ adaptLinks rest) : IsInert opening close after

/-- Text in which no bracket opens stays, with the brackets that close behind it. -/
theorem ClosesAgain.adaptLinks_eq (brackets : IsBrackets opening close)
    (closes : ClosesAgain close after stretch rest) (unopened : '[' ∉ stretch) :
    opening ++ (close ++ adaptLinks after) = widened opening close stretch ++ adaptLinks rest := by
  have foreign : '[' ∉ stretch ++ close := by
    cases brackets <;> simpa using unopened
  rw [closes.split, ← List.append_assoc stretch, adaptLinks_append_of_not_mem foreign]
  simp [widened]

/-- An empty link stays, and the text behind it is changed as if it stood alone, exactly when
the empty link is inert. -/
theorem adaptLinks_emptyLink_iff {before : Text} (unopened : '[' ∉ before)
    (brackets : IsBrackets opening close) (after : Text) :
    adaptLinks (before ++ (opening ++ (close ++ after))) =
        before ++ (opening ++ (close ++ adaptLinks after)) ↔
      IsInert opening close after := by
  rw [adaptLinks_append_of_not_mem unopened, List.append_cancel_left_eq]
  constructor
  · intro stays
    by_cases again : ∃ stretch rest, ClosesAgain close after stretch rest
    · obtain ⟨stretch, rest, closes⟩ := again
      obtain ⟨written, form⟩ :=
        exists_isDekiForm (widened opening close stretch) (trim (close ++ stretch))
      have same := (closes.adaptLinks_append brackets form).symm.trans stays
      by_cases opened : '[' ∈ stretch
      · have begins : opening ++ close <+: written ++ adaptLinks rest :=
          ⟨adaptLinks after, by rw [same, List.append_assoc]⟩
        obtain ⟨ahead, rfl⟩ := List.prefix_of_prefix_length_le begins
          (List.prefix_append written _) (length_le_of_isDekiForm brackets form)
        rw [List.append_assoc] at form
        refine .agreed closes opened form ?_
        simpa [eq_comm] using same
      · rw [closes.adaptLinks_eq brackets opened, List.append_cancel_right_eq] at same
        exact .kept closes opened (same ▸ form)
    · rw [not_exists] at again
      exact .apart fun stretch => not_exists.mp (again stretch)
  · intro inert
    cases inert with
    | apart never => exact adaptLinks_of_not_closesAgain brackets never
    | kept closes closed form =>
        rw [closes.adaptLinks_append brackets form, closes.adaptLinks_eq brackets closed]
    | agreed closes opened form same =>
        rw [closes.adaptLinks_append brackets form, same]
        simp

/-- An empty link in front of a link whose bracket closes for both. -/
theorem adaptLinks_emptyLink_beforeLink :
    '[' ∉ "see ".toList ∧ IsBrackets ['['] [']'] ∧ IsInert ['['] [']'] "[a:b] [".toList ∧
      adaptLinks ("see ".toList ++ (['['] ++ ([']'] ++ "[a:b] [".toList))) =
        "see ".toList ++ (['['] ++ ([']'] ++ adaptLinks "[a:b] [".toList)) := by
  have unopened : '[' ∉ "see ".toList := by decide
  have closes : ClosesAgain [']'] "[a:b] [".toList "[a:b".toList " [".toList :=
    ⟨rfl, by decide, endsFirst_singleton.mpr (by decide)⟩
  have form : IsDekiForm (widened ['['] [']'] "[a:b".toList) (trim ([']'] ++ "[a:b".toList))
      (['['] ++ ([']'] ++ "[a_b]".toList)) := .bare (by decide) (by decide)
  have inert : IsInert ['['] [']'] "[a:b] [".toList :=
    .agreed closes (by decide) form (by decide +kernel)
  exact ⟨unopened, .single, inert, (adaptLinks_emptyLink_iff unopened .single _).mpr inert⟩

/-- An empty link is lost where its brackets close again behind a target. -/
theorem adaptLinks_emptyLink_closedAgain :
    adaptLinks "[[]]a:b]]".toList = "[]]a_b]".toList ∧
      adaptLinks "[[]]a:b]]".toList ≠ "[[]]".toList ++ adaptLinks "a:b]]".toList ∧
      adaptLinks "[]a:b]".toList = "[]a_b]".toList ∧
      adaptLinks "[]a:b]".toList ≠ "[]".toList ++ adaptLinks "a:b]".toList := by
  decide +kernel

end DekiMigration.Markup
