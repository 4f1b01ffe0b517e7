/-
# Converting a page body

The body of a page is converted by nine passes, each over the result of the one
before: category links, dashes, the table of contents, fixed phrases, links,
tables, headings, code samples, and calls of templates. A missing or empty body
stays empty.
-/

import DekiMigration.Markup.Category
import DekiMigration.Markup.Contents
import DekiMigration.Markup.Dash
import DekiMigration.Markup.Link
import DekiMigration.Markup.MagicWord
import DekiMigration.Markup.Phrase
import DekiMigration.Markup.Table

namespace DekiMigration.Markup

/-- A converted body, and the calls in it that no known template answers. -/
structure Transformed where
  text : Text
  magicWords : List Text
  deriving DecidableEq, Repr

/-- The first six passes: those before the headings. -/
def beforeHeadings (content : Text) (isTemplate : Bool) : Text :=
  let text := wrapDashes (removeCategories content)
  let text := replacePhrases (placeContents text isTemplate)
  adaptTables (adaptLinks text)

/-- The first eight passes: all but the calls of templates. -/
def restructure (content : Text) (isTemplate : Bool) : Text :=
  fenceCode (deepenHeadings (beforeHeadings content isTemplate))

/-- Converts the body of a page. -/
def transform (content : Text) (catalog : Template.Catalog) (isTemplate : Bool) : Transformed :=
  let text := restructure content isTemplate
  ⟨resolveCalls catalog text, unresolvedNames catalog text⟩

/-- Converts the body of a page that may have none; a missing one is taken as empty. -/
def transformContent (content : Option Text) (catalog : Template.Catalog) (isTemplate : Bool) :
    Transformed :=
  match content with
  | none => ⟨[], []⟩
  | some content => if content.isEmpty then ⟨[], []⟩ else transform content catalog isTemplate

@[deprecated transformContent (since := "2026-11-19")]
abbrev transform? := transformContent

end DekiMigration.Markup
