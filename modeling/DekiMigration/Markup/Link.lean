/-
# Links

A link stands in single or double brackets on one line. Between the brackets are
a target and, behind a bar or else behind the first space, the text to display.
Deki writes single brackets and a bar, and its targets hold no colon, ampersand
or space; a web address before a space is kept as it is. A link without bar,
space, colon or ampersand needs no change, and neither does an empty pair of
brackets.
-/

import DekiMigration.Text.Blank
import DekiMigration.Text.Word
import DekiMigration.Markup.Span

namespace DekiMigration.Markup

open Text

/-- Links: double brackets where they close on the line, single ones otherwise. -/
def link : Pattern where
  lengthAt? _ text :=
    enclosedLength? ['[', '['] [']', ']'] (· != '\n') text <|>
      enclosedLength? ['['] [']'] (· != '\n') text
  length_le found := by
    simp only [Option.orElse_eq_orElse, Option.orElse_eq_or, Option.or_eq_some_iff] at found
    rcases found with double | ⟨-, single⟩
    · exact enclosedLength?_le_length double
    · exact enclosedLength?_le_length single

/-- Whether the scheme mark `://` occurs on the line that `text` begins. -/
def schemeMarkOnLine : Text → Bool
  | [] => false
  | c :: rest =>
    "://".toList.isPrefixOf (c :: rest) || (c != '\n' && schemeMarkOnLine rest)

/-- Whether a text holds a web address: a word character, at least one more
character, and a scheme mark, all on one line. -/
def holdsAddress : Text → Bool
  | [] => false
  | [_] => false
  | c :: d :: rest =>
    (isWord c && d != '\n' && schemeMarkOnLine rest) || holdsAddress (d :: rest)

/-- A link target as Deki spells it. -/
def cleanTarget (target : Text) : Text :=
  (trim target).map fun c => if c = ':' || c = '&' || c = ' ' then '_' else c

/-- What stands between the brackets of a link, without blanks around it. -/
def linkBody (lexeme : Text) : Text :=
  let double := "[[".toList.isPrefixOf lexeme && "]]".toList.isSuffixOf lexeme
  let width := if double then 2 else 1
  trim ((lexeme.drop width).take (lexeme.length - 2 * width))

/-- The links that are left alone: pairs of brackets around nothing, and the one
that is cut short by its own bracket. -/
def emptyLinks : List Text :=
  ["[]".toList, "[[]]".toList, "[[]".toList]

/-- The Deki form of a link, when it differs. -/
def adaptLink (lexeme : Text) : Option Text :=
  if emptyLinks.contains lexeme then none
  else
    let body := linkBody lexeme
    match cutAt? '|' body with
    | some (target, display) =>
      some ('[' :: (cleanTarget target ++ '|' :: (display ++ [']'])))
    | none =>
      match cutAt? ' ' body with
      | some (target, display) =>
        let target := if holdsAddress target then target else cleanTarget target
        some ('[' :: (target ++ '|' :: (display ++ [']'])))
      | none =>
        if body.contains ':' || body.contains '&' then
          some ('[' :: (cleanTarget body ++ [']']))
        else none

/-- Writes every link of a text in the Deki form. -/
def adaptLinks (text : Text) : Text :=
  link.substitute adaptLink text

end DekiMigration.Markup
