/-
# Links to migrated pages

A link spells the title of the page it points to, and the page is migrated under a title
of its own: the link goes through the passes over the body that it stands in, the title
only gets the prefix of its namespace. For the namespaces whose pages keep their label in
the title, the two agree exactly when the title holds no colon, no ampersand and no dash:
a link spells the first two as low lines, and wraps the third.
-/

import DekiMigration.Page
import DekiMigration.Proofs.Markup.Dashes
import DekiMigration.Proofs.Markup.SingleLink

namespace DekiMigration

open Text Markup

/-- The namespaces whose label stands in the titles of their pages, with the names under
which links know them. -/
def linkNames : List (Namespace × Text) :=
  [(.talk, "Talk".toList), (.user, "User".toList), (.userTalk, "User talk".toList),
    (.help, "Help".toList)]

/-- What is to be known of such a namespace: its name is no markup, no dash, no mark and no
category, and phrases and targets spell its label as titles do. -/
structure IsLinkName (space : Namespace) (name spelled : Text) : Prop where
  rewritten : rewriteLead linkPhrases ('[' :: (name ++ [':'])) = some ('[' :: spelled)
  label_eq : space.label ++ ['_'] = cleanTarget spelled
  solid : IsSolid spelled
  nonempty : spelled ≠ []
  unmarked : IsUnmarked spelled
  unmarked_name : IsUnmarked name
  noCategory : ∃ c ∈ name.head?, c.toLower ≠ 'c'
  dashless : ¬ dash <:+: name
  unsuppressed : ¬ HoldsLetters "__NOTOC__".toList name

theorem isLinkName_of_mem {space : Namespace} {name : Text}
    (listed : (space, name) ∈ linkNames) : ∃ spelled, IsLinkName space name spelled := by
  have checked : ∀ entry ∈ linkNames,
      ∃ spelled ∈ ["Talk_".toList, "User_".toList, "User talk:".toList, "Help_".toList],
        rewriteLead linkPhrases ('[' :: (entry.2 ++ [':'])) = some ('[' :: spelled) ∧
        entry.1.label ++ ['_'] = cleanTarget spelled ∧
        ((∀ c ∈ spelled.head?, isBlank c = false) ∧ ∀ c ∈ spelled.getLast?, isBlank c = false) ∧
        spelled ≠ [] ∧ IsUnmarked spelled ∧ IsUnmarked entry.2 ∧
        (∃ c ∈ entry.2.head?, c.toLower ≠ 'c') ∧ ¬ dash <:+: entry.2 ∧
        ¬ HoldsLetters "__NOTOC__".toList entry.2 := by
    simp only [linkPhrases, List.map_cons, List.map_nil]
    repeat rw [String.toList_ofList]
    decide +kernel
  obtain ⟨spelled, -, rewritten, label_eq, solid, nonempty, unmarked, unmarked_name, noCategory,
    dashless, unsuppressed⟩ := checked _ listed
  exact ⟨spelled, rewritten, label_eq, solid, nonempty, unmarked, unmarked_name, noCategory,
    dashless, unsuppressed⟩

theorem titlePrefix_of_mem_linkNames {space : Namespace} {name : Text}
    (listed : (space, name) ∈ linkNames) (projectPrefix : Text) :
    space.titlePrefix projectPrefix = space.label ++ ['_'] := by
  simp only [linkNames, List.mem_cons, Prod.mk.injEq, List.not_mem_nil, or_false] at listed
  rcases listed with ⟨rfl, -⟩ | ⟨rfl, -⟩ | ⟨rfl, -⟩ | ⟨rfl, -⟩ <;> rfl

theorem cleanTarget_of_isSolid {target : Text} (solid : IsSolid target) :
    cleanTarget target = target.map fun c => if c = ':' || c = '&' || c = ' ' then '_' else c := by
  rw [cleanTarget, solid.trim_eq_self]

/-- The front and the back of a target are spelled apart from each other. -/
theorem cleanTarget_append {front back : Text} (solid : IsSolid front) (nonempty : front ≠ [])
    (solid' : IsSolid back) (nonempty' : back ≠ []) :
    cleanTarget (front ++ back) = cleanTarget front ++ cleanTarget back := by
  have whole := solid.append nonempty solid' nonempty'
  rw [cleanTarget_of_isSolid whole, cleanTarget_of_isSolid solid, cleanTarget_of_isSolid solid',
    List.map_append]

/-- Nothing in a link to a page is taken for a category or a mark. -/
theorem IsLinkName.isUnmarked {space : Namespace} {name spelled title : Text}
    (isName : IsLinkName space name spelled) (unmarked : IsUnmarked title) :
    IsUnmarked (name ++ ':' :: title) ∧ IsUnmarked (spelled ++ title) := by
  have colon : IsUnmarked [':'] := by decide
  constructor
  · exact isUnmarked_append.mpr ⟨isName.unmarked_name, isUnmarked_append.mpr ⟨colon, unmarked⟩⟩
  · exact isUnmarked_append.mpr ⟨isName.unmarked, unmarked⟩

theorem IsLinkName.removeCategories {space : Namespace} {name spelled title display : Text}
    (isName : IsLinkName space name spelled) (unmarked : IsUnmarked title)
    (unmarked' : IsUnmarked display) :
    removeCategories (wikiLink (name ++ ':' :: title) display) =
      wikiLink (name ++ ':' :: title) display := by
  obtain ⟨c, head, other⟩ := isName.noCategory
  apply removeCategories_wikiLink (isName.isUnmarked unmarked).1 unmarked' (c := c) ?_ other
  obtain ⟨rest, rfl⟩ := List.head?_eq_some_iff.mp head
  rfl

/-- No dash is wrapped in a link whose parts hold none. -/
theorem IsLinkName.wrapDashes {space : Namespace} {name spelled title display : Text}
    (isName : IsLinkName space name spelled) (dashless : ¬ dash <:+: title)
    (dashless' : ¬ dash <:+: display) :
    wrapDashes (wikiLink (name ++ ':' :: title) display) =
      wikiLink (name ++ ':' :: title) display := by
  apply wrapDashes_wikiLink ?_ dashless'
  intro inside
  rcases infix_of_infix_append_cons (by decide) inside with inName | inTitle
  · exact isName.dashless inName
  · exact dashless inTitle

/-- The phrases spell the name of the namespace otherwise and leave the rest. -/
theorem IsLinkName.replacePhrases {space : Namespace} {name spelled title display : Text}
    (isName : IsLinkName space name spelled) (unmarked : IsUnmarked title)
    (unmarked' : IsUnmarked display) :
    replacePhrases (wikiLink (name ++ ':' :: title) display) =
      wikiLink (spelled ++ title) display := by
  have single : ∀ c ∈ name ++ [':'], c ≠ '[' ∧ c ≠ '#' := by
    intro c inside
    have colon : IsUnmarked [':'] := by decide
    have unmarkedHere := isUnmarked_append.mpr ⟨isName.unmarked_name, colon⟩ c inside
    exact ⟨fun same => unmarkedHere (by simp [same]), fun same => unmarkedHere (by simp [same])⟩
  have changed := replacePhrases_wikiLink single unmarked unmarked' isName.rewritten
  rwa [List.append_assoc] at changed

/-- Nothing is trimmed from a target behind the name of a namespace and the text to
display. -/
theorem IsLinkName.isSolid_body {space : Namespace} {name spelled title display : Text}
    (isName : IsLinkName space name spelled) (nonempty : title ≠ []) (solid : IsSolid title)
    (closed : ∀ c ∈ display.getLast?, isBlank c = false) :
    IsSolid (spelled ++ title ++ '|' :: display) := by
  have target := isName.solid.append isName.nonempty solid nonempty
  apply target.append (by simp [nonempty]) ?_ (by simp)
  constructor
  · intro c isHead
    cases isHead
    decide
  · cases display with
    | nil =>
        intro c isLast
        cases isLast
        decide
    | cons c display => exact closed

/-- A link to a page whose title holds no dash: its target gets the prefix of the namespace
and is spelled as targets are. -/
theorem transform_wikiLink {space : Namespace} {name spelled title display : Text}
    (isName : IsLinkName space name spelled) (unmarked : IsUnmarked title)
    (unmarked' : IsUnmarked display) (nonempty : title ≠ []) (solid : IsSolid title)
    (closed : ∀ c ∈ display.getLast?, isBlank c = false) (dashless : ¬ dash <:+: title)
    (dashless' : ¬ dash <:+: display)
    (unsuppressed : ¬ HoldsLetters "__NOTOC__".toList (wikiLink (name ++ ':' :: title) display))
    (catalog : Template.Catalog) (isTemplate : Bool) :
    (transform (wikiLink (name ++ ':' :: title) display) catalog isTemplate).text =
      dekiLink (cleanTarget spelled ++ cleanTarget title) display := by
  obtain ⟨unmarkedTarget, unmarkedSpelled⟩ := isName.isUnmarked unmarked
  have spelledTarget : cleanTarget (spelled ++ title) = cleanTarget spelled ++ cleanTarget title :=
    cleanTarget_append isName.solid isName.nonempty solid nonempty
  have adapted : adaptLinks (wikiLink (spelled ++ title) display) =
      dekiLink (cleanTarget (spelled ++ title)) display :=
    adaptLinks_wikiLink unmarkedSpelled unmarked'
      (isName.isSolid_body nonempty solid closed)
  rw [transform, ← spelledTarget]
  dsimp only
  rw [restructure, beforeHeadings, isName.removeCategories unmarked unmarked',
    isName.wrapDashes dashless dashless', placeContents_wikiLink unmarkedTarget unmarked'
    unsuppressed, isName.replacePhrases unmarked unmarked', adapted]
  exact finish_dekiLink unmarkedSpelled.cleanTarget unmarked' catalog

/-- No mark for the table of contents comes into being where a link is put together. -/
theorem not_holdsLetters_wikiLink {space : Namespace} {name spelled title display : Text}
    (isName : IsLinkName space name spelled)
    (unsuppressed : ¬ HoldsLetters "__NOTOC__".toList title)
    (unsuppressed' : ¬ HoldsLetters "__NOTOC__".toList display) :
    ¬ HoldsLetters "__NOTOC__".toList (wikiLink (name ++ ':' :: title) display) := by
  intro holds
  have parts : wikiLink (name ++ ':' :: title) display =
      ['['] ++ '[' :: (name ++ ':' :: title ++ '|' :: (display ++ ']' :: [']'])) := rfl
  rw [parts] at holds
  rcases holds.of_append_cons (by decide) with opening | holds
  · exact absurd opening (by decide)
  rcases holds.of_append_cons (by decide) with inTarget | holds
  · rcases inTarget.of_append_cons (by decide) with inName | inTitle
    · exact isName.unsuppressed inName
    · exact unsuppressed inTitle
  rcases holds.of_append_cons (by decide) with inDisplay | closing
  · exact unsuppressed' inDisplay
  · exact absurd closing (by decide)

theorem dekiLink_inj {target target' display : Text} :
    dekiLink target display = dekiLink target' display ↔ target = target' := by
  simp [dekiLink]

/-- A target is spelled as a title is when it holds none of the characters that only
targets replace. -/
theorem cleanTarget_eq_iff {title : Text} (solid : IsSolid title) :
    cleanTarget title = title.map (fun c => if c = ' ' then '_' else c) ↔
      ':' ∉ title ∧ '&' ∉ title := by
  rw [cleanTarget_of_isSolid solid, List.map_inj_left]
  constructor
  · intro same
    constructor
    · intro inside
      exact absurd (same ':' inside) (by decide)
    · intro inside
      exact absurd (same '&' inside) (by decide)
  · rintro ⟨noColon, noAmpersand⟩ c inside
    have other : c ≠ ':' := fun same => noColon (same ▸ inside)
    have other' : c ≠ '&' := fun same => noAmpersand (same ▸ inside)
    simp [other, other']

/-- What a dash in a target makes of a link is no link of Deki to the title: it holds a
wrapper. -/
theorem transform_ne_dekiLink_of_dash {content target display : Text}
    {catalog : Template.Catalog} {isTemplate : Bool}
    (unsuppressed : ¬ HoldsLetters "__NOTOC__".toList (wrapDashes (removeCategories content)))
    (dashed : dash <:+: target) (unopened : '<' ∉ target) :
    (transform content catalog isTemplate).text ≠ dekiLink target display := by
  intro same
  obtain ⟨before, after, rfl⟩ := dashed
  have guarded : Guarded (transform content catalog isTemplate).text :=
    guarded_transform catalog (.inr unsuppressed)
  rw [same] at guarded
  have opened := (guarded ('[' :: before) (after ++ '|' :: (display ++ [']']))
    (by simp [dekiLink])).1
  have inside : '<' ∈ '[' :: before := opened.subset (by decide)
  apply unopened
  simp only [List.mem_cons, List.mem_append] at inside ⊢
  exact .inl (.inl (inside.resolve_left (by decide)))

/-- A link to a page of a namespace whose label stands in titles points to the migrated
page exactly when the title holds no colon, no ampersand and no dash. -/
theorem transformContent_link_iff {space : Namespace} {name title display : Text}
    (listed : (space, name) ∈ linkNames) (nonempty : title ≠ []) (trimmed : trim title = title)
    (closed : trimEnd display = display) (unmarked : IsUnmarked title)
    (unmarked' : IsUnmarked display) (unsuppressed : ¬ HoldsLetters "__NOTOC__".toList title)
    (unsuppressed' : ¬ HoldsLetters "__NOTOC__".toList display)
    (dashless' : ¬ dash <:+: display) (page : SourcePage)
    (number_eq : page.namespaceNumber = space.number)
    (title_eq : page.title = title.map fun c => if c = ' ' then '_' else c)
    (catalog catalog' : Template.Catalog) (isTemplate : Bool) (projectPrefix : Text)
    (categories : List Text) :
    (transformContent (some (wikiLink (name ++ ':' :: title) display)) catalog isTemplate).text =
        dekiLink (page.migrate catalog' projectPrefix categories).title display ↔
      ':' ∉ title ∧ '&' ∉ title ∧ ¬ dash <:+: title := by
  obtain ⟨spelled, isName⟩ := isLinkName_of_mem listed
  have solid : IsSolid title := trimmed ▸ isSolid_trim title
  have closedEnd : ∀ c ∈ display.getLast?, isBlank c = false :=
    closed ▸ visible_of_mem_getLast?_trimEnd
  have quiet := not_holdsLetters_wikiLink isName unsuppressed unsuppressed'
  have migrated_eq : (page.migrate catalog' projectPrefix categories).title =
      cleanTarget spelled ++ title.map fun c => if c = ' ' then '_' else c := by
    show (Namespace.ofNumber page.namespaceNumber).titlePrefix projectPrefix ++ page.title = _
    rw [number_eq, Namespace.ofNumber_number, titlePrefix_of_mem_linkNames listed,
      isName.label_eq, title_eq]
  rw [transformContent_eq, Option.getD_some, migrated_eq]
  by_cases dashed : dash <:+: title
  · constructor
    · intro same
      refine absurd same (transform_ne_dekiLink_of_dash ?_ ?_ ?_)
      · rw [isName.removeCategories unmarked unmarked']
        exact not_holdsLetters_wrapDashes quiet
      · exact (dashed.map fun c => if c = ' ' then '_' else c).trans
          (List.suffix_append _ _).isInfix
      · intro inside
        rcases List.mem_append.mp inside with inPrefix | inTitle
        · exact isName.unmarked.cleanTarget.not_mem (by simp) inPrefix
        · obtain ⟨c, isThere, spelled_eq⟩ := List.mem_map.mp inTitle
          split at spelled_eq
          · exact absurd spelled_eq (by decide)
          · exact unmarked.not_mem (by simp) (spelled_eq ▸ isThere)
    · intro plain
      exact absurd dashed plain.2.2
  · rw [transform_wikiLink isName unmarked unmarked' nonempty solid closedEnd dashed dashless'
      quiet, dekiLink_inj, List.append_cancel_left_eq, cleanTarget_eq_iff solid]
    tauto

/-- The talk page of a user. -/
def userTalkPage : SourcePage :=
  { id := 7, namespaceNumber := 3, title := "Ann_Lee".toList, text := none }

theorem transformContent_link_userTalk :
    (Namespace.userTalk, "User talk".toList) ∈ linkNames ∧
      trim "Ann Lee".toList = "Ann Lee".toList ∧
      IsUnmarked "Ann Lee".toList ∧ IsUnmarked " her page".toList ∧
      (transformContent (some (wikiLink ("User talk".toList ++ ':' :: "Ann Lee".toList)
          " her page".toList)) .empty false).text =
        dekiLink (userTalkPage.migrate .empty []).title " her page".toList := by
  have listed : (Namespace.userTalk, "User talk".toList) ∈ linkNames := by decide +kernel
  have trimmed : trim "Ann Lee".toList = "Ann Lee".toList := by decide +kernel
  have unmarked : IsUnmarked "Ann Lee".toList := by decide +kernel
  have unmarked' : IsUnmarked " her page".toList := by decide +kernel
  refine ⟨listed, trimmed, unmarked, unmarked', ?_⟩
  apply (transformContent_link_iff listed (by decide +kernel) trimmed (by decide +kernel) unmarked
    unmarked' (by decide +kernel) (by decide +kernel) (by decide +kernel) userTalkPage rfl
    (by decide +kernel) .empty .empty false [] []).mpr
  decide +kernel

end DekiMigration
