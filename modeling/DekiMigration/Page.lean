/-
# Pages

A source page is what the wiki, or an export of it, holds of a page. Migrating it
maps its namespace, prefixes its title, converts its body and reads its two
timestamps. The record of a migrated page depends on the page, the template
catalog, the project's title prefix and the page's categories, and on nothing
else.
-/

import DekiMigration.Markup.Transform
import DekiMigration.Namespace
import DekiMigration.Notice
import DekiMigration.Timestamp

namespace DekiMigration

open Text

/-- A page of the wiki. The title is without its namespace, with low lines for
spaces; both timestamps are as the wiki keeps them. -/
structure SourcePage where
  id : Int
  namespaceNumber : Int
  title : Text
  text : Option Text
  comment : Text := []
  user : Int := 0
  touched : Option Text := none
  timestamp : Option Text := none
  deriving DecidableEq, Repr

/-- A page as it goes into Deki. -/
structure MigratedPage where
  id : Int
  namespaceNumber : Int
  space : Namespace
  title : Text
  text : Text
  comment : Text
  user : Int
  lastModified : Option Calendar.DateTime
  created : Option Calendar.DateTime
  categories : List Text
  magicWords : List Text
  deriving DecidableEq

namespace SourcePage

/-- The namespace of a page. -/
def space (page : SourcePage) : Namespace :=
  Namespace.ofNumber page.namespaceNumber

/-- Migrates a page. -/
def migrate (page : SourcePage) (catalog : Template.Catalog) (projectPrefix : Text)
    (categories : List Text := []) : MigratedPage :=
  let body := Markup.transformContent page.text catalog (page.space = .template)
  { id := page.id
    namespaceNumber := page.namespaceNumber
    space := page.space
    title := page.space.titlePrefix projectPrefix ++ page.title
    text := body.text
    comment := page.comment
    user := page.user
    lastModified := page.touched.bind Timestamp.read?
    created := page.timestamp.bind Timestamp.read?
    categories := sort categories
    magicWords := body.magicWords }

/-- The notice on a timestamp that is there but cannot be read. -/
def timestampNotices (timestamp : Option Text) : List Notice :=
  match timestamp with
  | some text =>
    if !text.isEmpty && (Timestamp.read? text).isNone then [.unreadableTimestamp text] else []
  | none => []

/-- What there is to say about the migration of a page, in the order in which it
comes up. -/
def notices (page : SourcePage) (migrated : MigratedPage) : List Notice :=
  let words := migrated.magicWords
  (if words.isEmpty then [] else [.unresolvedCalls words]) ++
    timestampNotices page.touched ++ timestampNotices page.timestamp ++
    (if words.isEmpty then [] else [.unresolvedOnPage migrated.title words.length])

end SourcePage

/-- Whether a migrated page has no counterpart in Deki. -/
def MigratedPage.isIgnored (page : MigratedPage) : Bool :=
  page.space.isIgnored

/-- The catalog of the templates among some pages. -/
def Template.Catalog.ofPages (pages : List SourcePage) : Template.Catalog :=
  .ofTitles ((pages.filter (·.namespaceNumber == Namespace.template.number)).map (·.title))

end DekiMigration
