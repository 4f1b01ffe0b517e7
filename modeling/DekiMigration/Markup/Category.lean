/-
# Category links

A page names its categories in links such as `[[Category:Docs]]`, with single or
double brackets and the word in any case. Categories are carried over from the
wiki's own records, so the links are removed. A link ends at the first closing
bracket that leaves it a name of at least one character, on whatever line.
-/

import DekiMigration.Markup.Span

namespace DekiMigration.Markup

open Text

/-- The length of a stretch that opens with `opening`, whatever the case of its
letters, and ends in `close`. -/
def labelledLength? (opening close text : Text) : Option Nat :=
  if sameLetters (text.take opening.length) opening then
    enclosedLength? [] close (fun _ => true) (text.drop opening.length)
      |>.map (opening.length + ·)
  else none

theorem labelledLength?_le_length {opening close text : Text} {length : Nat}
    (found : labelledLength? opening close text = some length) : length ≤ text.length := by
  rw [labelledLength?] at found
  split at found
  · next opened =>
      have enough : opening.length ≤ text.length := by
        have lengths := congrArg List.length (eq_of_beq opened)
        simp only [lower, List.length_map, List.length_take] at lengths
        omega
      obtain ⟨width, enclosed, rfl⟩ := Option.map_eq_some_iff.mp found
      have inside := enclosedLength?_le_length enclosed
      rw [List.length_drop] at inside
      omega
  · cases found

/-- Category links. -/
def categoryLink : Pattern where
  lengthAt? _ text :=
    labelledLength? "[[category:".toList "]]".toList text <|>
      labelledLength? "[category:".toList "]".toList text
  length_le found := by
    simp only [Option.orElse_eq_orElse, Option.orElse_eq_or, Option.or_eq_some_iff] at found
    rcases found with double | ⟨-, single⟩
    · exact labelledLength?_le_length double
    · exact labelledLength?_le_length single

/-- The text without its category links. -/
def removeCategories (text : Text) : Text :=
  categoryLink.substitute (fun _ => some []) text

end DekiMigration.Markup
