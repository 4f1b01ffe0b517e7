/-
# Answers

An answer of the service says what has come of a request. Its status and its body
follow from that. The body is JSON; a redirection has none.
-/

import DekiMigration.Json.Value
import DekiMigration.Page
import DekiMigration.Validation
import DekiMigration.Wiki.Store

namespace DekiMigration.Service

open Text Validation

/-- What the service answers. -/
inductive Answer where
  /-- The service is up. -/
  | health (name version : Text)
  | converted (result : Markup.Transformed)
  | pages (pages : List MigratedPage)
  | page (page : MigratedPage)
  | noPage (id : Int)
  /-- Something in the request is not acceptable. -/
  | invalid (defects : List Defect)
  /-- The body of the request goes beyond what is read. -/
  | unreadable
  | unknownPath
  | wrongMethod (allowed : Text)
  /-- The request should have gone to another address. -/
  | moved (address : Text)
  /-- The service fails. -/
  | failed
  deriving DecidableEq

namespace Answer

/-- The status of an answer. -/
def status : Answer → Nat
  | health .. | converted _ | pages _ | page _ => 200
  | moved _ => 307
  | unreadable => 400
  | noPage _ | unknownPath => 404
  | wrongMethod _ => 405
  | invalid _ => 422
  | failed => 500

/-- A JSON object. -/
def object (members : List (String × Json.Value)) : Json.Value :=
  .object (members.map fun (name, value) => (some name.toList, value))

/-- A JSON list of texts. -/
def texts (items : List Text) : Json.Value :=
  .list (items.map .string)

/-- A time in JSON. -/
def time (moment : Option Calendar.DateTime) : Json.Value :=
  (moment.map fun moment => .string (Timestamp.display ['Z'] moment)).getD .null

/-- What a list of pages shows of a page. -/
def summary (page : MigratedPage) : List (String × Json.Value) :=
  [("id", .integer page.id), ("namespace", .integer page.namespaceNumber),
    ("deki_namespace", .string page.space.label), ("title", .string page.title),
    ("ignore", .bool page.isIgnored), ("magic_words", texts page.magicWords)]

/-- What is shown of a page on its own, besides its summary. -/
def particulars (page : MigratedPage) : List (String × Json.Value) :=
  [("text", .string page.text), ("comment", .string page.comment), ("user", .integer page.user),
    ("last_modified", time page.lastModified), ("created", time page.created),
    ("categories", texts page.categories)]

/-- A defect as it is reported. -/
def defect (defect : Defect) : Json.Value :=
  object [("loc", texts defect.place), ("type", .string defect.complaint.code)]

/-- A body that only gives a detail. -/
def detail (text : Text) : Option Json.Value :=
  some (object [("detail", .string text)])

/-- The body of an answer. -/
def body : Answer → Option Json.Value
  | health name version =>
    some (object [("status", .string "ok".toList), ("version", .string version),
      ("app", .string name)])
  | converted result =>
    some (object [("text", .string result.text), ("magic_words", texts result.magicWords)])
  | pages shown => some (.list (shown.map fun page => object (summary page)))
  | page shown => some (object (summary shown ++ particulars shown))
  | noPage id => detail (Wiki.missingMessage id)
  | invalid defects => some (object [("detail", .list (defects.map defect))])
  | unreadable => detail "There was an error parsing the body".toList
  | unknownPath => detail "Not Found".toList
  | wrongMethod _ => detail "Method Not Allowed".toList
  | moved _ => none
  | failed => detail "Internal server error".toList

/-- The headers that only some answers have. -/
def headers : Answer → List (Text × Text)
  | wrongMethod allowed => [("allow".toList, allowed)]
  | moved address => [("location".toList, address)]
  | _ => []

end Answer

end DekiMigration.Service
