/-
# Where category links end

A category link with a name reaches to the first brackets that close it, and is taken out of the
text without a trace. The search asks for one character of a name at least. In a link without
name it takes the front of the closing brackets for it and goes on to the next brackets that
close, if any stand behind on whatever line: all the text up to there is taken out with the link.
If none stand there, the inner pair of brackets is taken for a link of its own, and the outer
opening bracket is left.
-/

import DekiMigration.Proofs.Markup.SingleLink

namespace DekiMigration.Markup

open Text

/-- A category link in double brackets, the word spelled as it is given. -/
def categoryTag (word name : Text) : Text :=
  '[' :: '[' :: (word ++ ':' :: (name ++ [']', ']']))

variable {word name opened inner before after stretch rest : Text} {c : Char}

theorem length_eq_of_sameLetters {first second : Text}
    (same : sameLetters first second = true) : first.length = second.length := by
  simpa [lower] using congrArg List.length (eq_of_beq same)

/-- A labelled stretch has a character behind its label at least, and reaches to the first text
that closes it behind that. -/
theorem labelledLength?_eq_some {opening close text : Text} {length : Nat} :
    labelledLength? opening close text = some length ↔
      ∃ opened c inner rest, text = opened ++ (c :: inner ++ (close ++ rest)) ∧
        sameLetters opened opening = true ∧
        length = opening.length + (1 + inner.length + close.length) ∧
        EndsFirst close inner rest := by
  rw [labelledLength?]
  constructor
  · intro found
    split at found
    · next labelled =>
        obtain ⟨width, enclosed, rfl⟩ := Option.map_eq_some_iff.mp found
        obtain ⟨c, inner, rest, split, rfl, -, first⟩ := enclosedLength?_eq_some.mp enclosed
        refine ⟨text.take opening.length, c, inner, rest, ?_, labelled, by simp, first⟩
        rw [List.nil_append] at split
        rw [← split, List.take_append_drop]
    · cases found
  · rintro ⟨opened, c, inner, rest, rfl, labelled, rfl, first⟩
    have width := length_eq_of_sameLetters labelled
    have enclosed : enclosedLength? [] close (fun _ => true) (c :: inner ++ (close ++ rest)) =
        some (1 + inner.length + close.length) :=
      enclosedLength?_eq_some.mpr ⟨c, inner, rest, rfl, by simp, by simp, first⟩
    rw [List.take_left' width, if_pos labelled, List.drop_left' width, enclosed]
    rfl

theorem labelledLength?_append {opening close : Text}
    (labelled : sameLetters opened opening = true) (first : EndsFirst close inner after) :
    labelledLength? opening close (opened ++ (c :: inner ++ close) ++ after) =
      some (opened ++ (c :: inner ++ close)).length := by
  refine labelledLength?_eq_some.mpr ⟨opened, c, inner, after, by simp, labelled, ?_, first⟩
  rw [← length_eq_of_sameLetters labelled]
  simp only [List.length_append, List.length_cons]
  omega

/-- The label of a link in double brackets is none of a link in single brackets. -/
theorem not_labelled_single_of_double {front front' behind behind' : Text}
    (double : sameLetters front "[[category:".toList = true)
    (single : sameLetters front' "[category:".toList = true) :
    front ++ behind ≠ front' ++ behind' := by
  have letters : front.map Char.toLower = '[' :: '[' :: "category:".toList :=
    (eq_of_beq double).trans (by decide)
  have letters' : front'.map Char.toLower = '[' :: 'c' :: "ategory:".toList :=
    (eq_of_beq single).trans (by decide)
  obtain ⟨d, front, rfl, -, letters⟩ := List.map_eq_cons_iff.mp letters
  obtain ⟨e, front, rfl, bracket, -⟩ := List.map_eq_cons_iff.mp letters
  obtain ⟨d', front', rfl, -, letters'⟩ := List.map_eq_cons_iff.mp letters'
  obtain ⟨e', front', rfl, letter, -⟩ := List.map_eq_cons_iff.mp letters'
  intro same
  simp only [List.cons_append, List.cons.injEq] at same
  rw [same.2.1, letter] at bracket
  exact absurd bracket (by decide)

theorem categoryLink_ignoresLines : categoryLink.IgnoresLines :=
  fun _ _ _ => rfl

theorem categoryLink_lengthAt?_eq_some {lineStart : Bool} {text : Text} {length : Nat} :
    categoryLink.lengthAt? lineStart text = some length ↔
      labelledLength? "[[category:".toList [']', ']'] text = some length ∨
        labelledLength? "[[category:".toList [']', ']'] text = none ∧
          labelledLength? "[category:".toList [']'] text = some length := by
  simp only [categoryLink, Option.orElse_eq_orElse, Option.orElse_eq_or, Option.or_eq_some_iff]
  rfl

theorem category_matches_double (labelled : sameLetters opened "[[category:".toList = true)
    (first : EndsFirst [']', ']'] inner after) (lineStart : Bool) :
    categoryLink.Matches lineStart (opened ++ (c :: inner ++ [']', ']'])) after :=
  ⟨by simp, categoryLink_lengthAt?_eq_some.mpr (.inl (labelledLength?_append labelled first))⟩

theorem category_matches_single (labelled : sameLetters opened "[category:".toList = true)
    (first : EndsFirst [']'] inner after) (lineStart : Bool) :
    categoryLink.Matches lineStart (opened ++ (c :: inner ++ [']'])) after := by
  refine ⟨by simp, categoryLink_lengthAt?_eq_some.mpr
    (.inr ⟨?_, labelledLength?_append labelled first⟩)⟩
  rw [Option.eq_none_iff_forall_ne_some]
  intro length found
  obtain ⟨opened', c', inner', rest, split, labelled', -, -⟩ := labelledLength?_eq_some.mp found
  rw [List.append_assoc] at split
  exact not_labelled_single_of_double labelled' labelled split.symm

theorem removeCategories_append_of_not_mem (unopened : '[' ∉ before) (text : Text) :
    removeCategories (before ++ text) = before ++ removeCategories text :=
  categoryLink_ignoresLines.substitute_append_of_passesOver
    (Pattern.passesOver_of_head category_head unopened) text

theorem removeCategories_append_of_matches {lexeme : Text}
    (matched : categoryLink.Matches true lexeme after) :
    removeCategories (lexeme ++ after) = removeCategories after :=
  categoryLink_ignoresLines.substitute_append matched

section Tag

variable (isWord : sameLetters word "category".toList = true)

include isWord

/-- The word may be spelled in any case, whatever brackets stand in front of it. -/
theorem labelled_append (front : Text) {label : Text}
    (label_eq : lower label = lower front ++ "category:".toList) :
    sameLetters (front ++ (word ++ [':'])) label = true := by
  have letters : word.map Char.toLower = "category".toList :=
    (eq_of_beq isWord).trans (by decide)
  rw [sameLetters, label_eq, lower, List.map_append, List.map_append, letters]
  exact beq_self_eq_true _

theorem labelled_double :
    sameLetters ('[' :: '[' :: (word ++ [':'])) "[[category:".toList = true :=
  labelled_append isWord ['[', '['] (by decide)

theorem labelled_single : sameLetters ('[' :: (word ++ [':'])) "[category:".toList = true :=
  labelled_append isWord ['['] (by decide)

/-- A link with a name is taken out alone. -/
theorem removeCategories_categoryTag (unclosed : ']' ∉ inner) (after : Text) :
    removeCategories (categoryTag word (c :: inner) ++ after) = removeCategories after := by
  have first : EndsFirst [']', ']'] inner after := endsFirst_of_not_mem unclosed
  have matched : categoryLink.Matches true _ after :=
    category_matches_double (c := c) (labelled_double isWord) first true
  rw [← removeCategories_append_of_matches matched]
  simp [categoryTag]

/-- With the front of its closing brackets for a name, a link reaches to the next brackets that
close. -/
theorem removeCategories_emptyTag_of_closed
    (split : ']' :: after = stretch ++ ([']', ']'] ++ rest))
    (first : EndsFirst [']', ']'] stretch rest) :
    removeCategories (categoryTag word [] ++ after) = removeCategories rest := by
  have matched : categoryLink.Matches true _ rest :=
    category_matches_double (c := ']') (labelled_double isWord) first true
  have regroup : categoryTag word [] ++ after =
      '[' :: '[' :: (word ++ [':']) ++ (']' :: stretch ++ [']', ']']) ++ rest := by
    have ahead := congrArg (']' :: ·) split
    simpa [categoryTag] using ahead
  rw [regroup, removeCategories_append_of_matches matched]

/-- Otherwise the inner brackets are a link of their own. -/
theorem removeCategories_emptyTag_of_unclosed (never : ¬ [']', ']'] <:+: ']' :: after) :
    removeCategories (categoryTag word [] ++ after) = '[' :: removeCategories after := by
  have labelled := labelled_double isWord
  have tag_eq : categoryTag word [] ++ after =
      '[' :: '[' :: (word ++ [':']) ++ ']' :: ']' :: after := by
    simp [categoryTag]
  have missed : categoryLink.Missed true (categoryTag word [] ++ after) := by
    intro length found
    rw [tag_eq] at found
    rcases categoryLink_lengthAt?_eq_some.mp found with double | ⟨-, single⟩
    · obtain ⟨opened, c, inner, rest, split, labelled', -, -⟩ := labelledLength?_eq_some.mp double
      have width := length_eq_of_sameLetters labelled
      have width' := length_eq_of_sameLetters labelled'
      obtain ⟨-, ahead⟩ := List.append_inj split (width.trans width'.symm)
      exact never ⟨inner, rest, by simpa using (List.cons.inj ahead).2.symm⟩
    · obtain ⟨opened, c, inner, rest, split, labelled', -, -⟩ := labelledLength?_eq_some.mp single
      exact not_labelled_single_of_double labelled labelled' split
  have matched : categoryLink.Matches true _ after :=
    category_matches_single (c := ']') (labelled_single isWord) (endsFirst_nil [']'] after) true
  have opening : categoryTag word [] ++ after =
      '[' :: ('[' :: (word ++ [':']) ++ (']' :: [] ++ [']']) ++ after) := by
    simp [categoryTag]
  rw [opening] at missed ⊢
  rw [← removeCategories_append_of_matches matched]
  exact categoryLink_ignoresLines.substitute_cons missed

end Tag

/-- When a link is taken out alone: it has a name, or brackets close again behind it and the
text up to there would leave nothing of itself. -/
inductive GoesAlone : (name after : Text) → Prop
  | named {name after : Text} (nonempty : name ≠ []) : GoesAlone name after
  | joined {after stretch rest : Text} (split : after = stretch ++ ([']', ']'] ++ rest))
      (first : EndsFirst [']', ']'] (']' :: stretch) rest)
      (same : removeCategories after = removeCategories rest) : GoesAlone [] after

theorem removeCategories_emptyTag_iff (isWord : sameLetters word "category".toList = true)
    (after : Text) :
    removeCategories (categoryTag word [] ++ after) = removeCategories after ↔
      GoesAlone [] after := by
  constructor
  · intro alone
    by_cases again : [']', ']'] <:+: ']' :: after
    · obtain ⟨stretch, rest, split, first⟩ := exists_endsFirst again
      rw [removeCategories_emptyTag_of_closed isWord split first] at alone
      cases stretch with
      | nil =>
          obtain rfl : after = ']' :: rest := (List.cons.inj split).2
          have unopened : '[' ∉ [']'] := by decide
          have kept : removeCategories (']' :: rest) = ']' :: removeCategories rest :=
            removeCategories_append_of_not_mem unopened rest
          rw [kept] at alone
          exact absurd alone (List.cons_ne_self _ _).symm
      | cons d stretch =>
          obtain ⟨rfl, ahead⟩ := List.cons.inj split
          exact .joined ahead first alone.symm
    · rw [removeCategories_emptyTag_of_unclosed isWord again] at alone
      exact absurd alone (List.cons_ne_self _ _)
  · intro alone
    cases alone with
    | named nonempty => exact absurd rfl nonempty
    | joined split first same =>
        rw [removeCategories_emptyTag_of_closed isWord (congrArg (']' :: ·) split) first, same]

/-- A category link is taken out of a text, and all else is left to what would become of it
without the link, exactly when the link goes alone. -/
theorem removeCategories_categoryTag_iff (unopened : '[' ∉ before)
    (isWord : sameLetters word "category".toList = true) (unclosed : ']' ∉ name) (after : Text) :
    removeCategories (before ++ (categoryTag word name ++ after)) =
        before ++ removeCategories after ↔
      GoesAlone name after := by
  rw [removeCategories_append_of_not_mem unopened, List.append_cancel_left_eq]
  cases name with
  | nil => exact removeCategories_emptyTag_iff isWord after
  | cons c inner =>
      rw [List.mem_cons, not_or] at unclosed
      exact iff_of_true (removeCategories_categoryTag isWord unclosed.2 after)
        (.named (List.cons_ne_nil c inner))

/-- A link without name in front of a link that closes for both. -/
theorem removeCategories_categoryTag_beforeLink :
    '[' ∉ "a ".toList ∧ sameLetters "CATEGORY".toList "category".toList = true ∧ ']' ∉ [] ∧
      GoesAlone [] "[[category:A]] b".toList ∧
      removeCategories ("a ".toList ++ (categoryTag "CATEGORY".toList [] ++
          "[[category:A]] b".toList)) =
        "a ".toList ++ removeCategories "[[category:A]] b".toList := by
  have unopened : '[' ∉ "a ".toList := by decide
  have isWord : sameLetters "CATEGORY".toList "category".toList = true := by decide
  have unclosed : ']' ∉ [] := List.not_mem_nil
  have split : "[[category:A]] b".toList =
      "[[category:A".toList ++ ([']', ']'] ++ " b".toList) := by decide
  have first : EndsFirst [']', ']'] (']' :: "[[category:A".toList) " b".toList :=
    endsFirst_cons.mpr ⟨by decide, endsFirst_of_not_mem (by decide)⟩
  have alone : GoesAlone [] "[[category:A]] b".toList := .joined split first (by decide +kernel)
  exact ⟨unopened, isWord, unclosed, alone,
    (removeCategories_categoryTag_iff unopened isWord unclosed _).mpr alone⟩

/-- Of a link without name a bracket is left, or text behind it is lost. -/
theorem removeCategories_categoryTag_nameless :
    removeCategories "[[Category:]]".toList = "[".toList ∧
      removeCategories "[[Category:]]".toList ≠ removeCategories [] ∧
      removeCategories "[[Category:]] kept [[Category:A]]".toList = [] ∧
      removeCategories "[[Category:]] kept [[Category:A]]".toList ≠
        removeCategories " kept [[Category:A]]".toList := by
  decide +kernel

end DekiMigration.Markup
