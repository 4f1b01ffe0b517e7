/-
# Tables of contents

A wiki page with headings shows its table of contents unless it says
`__NOTOC__`; `__TOC__` says where. A Deki page shows one where it says `{TOC}`.
Templates never get one, since they are shown inside other pages.
-/

import DekiMigration.Markup.Heading

namespace DekiMigration.Markup

open Text

/-- The mark that suppresses the table of contents, in any case. -/
def suppression : Pattern where
  lengthAt? _ text :=
    if sameLetters (text.take 9) "__notoc__".toList then some 9 else none
  length_le := by
    intro _ text length found
    split at found
    · next marked =>
        cases found
        have lengths := congrArg List.length (eq_of_beq marked)
        simp only [lower, List.length_map, List.length_take] at lengths
        change min 9 text.length = 9 at lengths
        omega
    · cases found

/-- The mark for the place of the table of contents. -/
def contentsMark : Text := "__TOC__".toList

/-- What Deki puts its table of contents in place of. -/
def contentsPlaceholder : Text := "\x7bTOC\x7d".toList

/-- Places the table of contents of a page. -/
def placeContents (text : Text) (isTemplate : Bool) : Text :=
  if isTemplate then text
  else if suppression.occursIn text then suppression.substitute (fun _ => some []) text
  else if !heading.occursIn text then text
  else if (Pattern.literal contentsMark).occursIn text then
    replaceAll contentsMark contentsPlaceholder text
  else contentsPlaceholder ++ '\n' :: text

end DekiMigration.Markup
