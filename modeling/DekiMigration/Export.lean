/-
# Exports

An export is an XML document with an element for every page. Elements are known by
their local names, so exports of every version are read alike. A page needs a title
and a revision; of several revisions the last one counts. Pages are taken in the
order in which their elements end, and a page that cannot be read ends the reading:
the pages before it are kept, and so are those that were complete where a document
stops being well-formed.
-/

import DekiMigration.Page
import DekiMigration.Text.Number
import DekiMigration.Timestamp.Iso
import DekiMigration.Xml.Document

namespace DekiMigration

open Text Xml

/-- Why an export cannot be read to its end. -/
inductive Export.Problem where
  /-- The document is not well-formed. -/
  | malformed
  /-- A number of a page cannot be read. -/
  | unreadableNumber (literal : Text) (reason : NumberError)
  deriving DecidableEq, Repr

/-- What has been read of an export. -/
structure Export where
  pages : List SourcePage := []
  /-- What there is to say about the pages, in the order in which it came up. -/
  notices : List Notice := []
  /-- Why the reading ended before the end of the export, if it did. -/
  problem : Option Export.Problem := none

namespace Export

/-- Reads a number of a page; nothing stands for zero. -/
def number (literal : Text) : Except Problem Int :=
  if literal.isEmpty then .ok 0 else (readInt literal).mapError (.unreadableNumber literal)

/-- The title of a page of a given namespace, from its full title. Outside the main
namespace what stands before the first colon names the namespace. -/
def localTitle (namespaceNumber : Int) (fullTitle : Text) : Text :=
  let title := trim fullTitle
  let title :=
    if namespaceNumber = Namespace.main.number then title
    else match cutAt? ':' title with
      | some (_, after) => trim after
      | none => title
  title.map fun c => if c = ' ' then '_' else c

/-- The identifier of the user who made a revision; zero when there is none that
is a number. -/
def user (revision : Element) : Except Problem Int :=
  let id := ((revision.child? "contributor".toList).map (·.textOf "id".toList)).getD []
  if !id.isEmpty && id.all isDigitLike then number id else .ok 0

/-- The time of a revision, as the wiki keeps it. -/
def time? (revision : Element) : Option Text :=
  (Timestamp.Iso.read? (revision.textOf "timestamp".toList)).map Timestamp.Iso.compact

/-- The title element of a page and its last revision, when it has both. -/
def titleAndRevision? (page : Element) : Option (Element × Element) := do
  some (← page.child? "title".toList, ← (page.childrenNamed "revision".toList).getLast?)

/-- The page that an element holds; none when it has no title or no revision. -/
def pageOf (page : Element) : Except Problem (Option SourcePage) :=
  match titleAndRevision? page with
  | none => .ok none
  | some (title, revision) => do
    let namespaceNumber ← number (page.textOf "ns".toList)
    let id ← number (page.textOf "id".toList)
    let user ← user revision
    let text := revision.textOf "text".toList
    return some {
      id, namespaceNumber, user
      title := localTitle namespaceNumber title.text
      text := if text.isEmpty then none else some text
      comment := revision.textOf "comment".toList
      touched := time? revision
      timestamp := time? revision }

/-- The notice on the time of the last revision, when there is one that cannot be
read. It comes up as soon as the namespace of the page is known. -/
def noticesOf (page : Element) : List Notice :=
  match titleAndRevision? page, number (page.textOf "ns".toList) with
  | some (_, revision), .ok _ =>
    let written := revision.textOf "timestamp".toList
    if !written.isEmpty && (time? revision).isNone then [.unreadableRevision written] else []
  | _, _ => []

/-- Reads the pages that elements hold, up to the first that cannot be read. -/
def ofElements : List Element → Export
  | [] => {}
  | page :: later =>
    match pageOf page with
    | .error problem => { notices := noticesOf page, problem := some problem }
    | .ok found =>
      let rest := ofElements later
      { rest with
        pages := found.toList ++ rest.pages
        notices := noticesOf page ++ rest.notices }

/-- Reads an export. -/
def read (document : Text) : Export :=
  let reading := Xml.read document
  let found := ofElements (reading.elements.filter (·.name = "page".toList))
  if found.problem.isNone && !reading.isWellFormed then
    { found with problem := some .malformed }
  else found

/-- The catalog of the templates in an export. -/
def catalog (found : Export) : Template.Catalog :=
  .ofPages found.pages

end Export

end DekiMigration
