/-
# The service

The service answers requests about the pages of a wiki and converts snippets of
markup. The path of a request is looked at first, then its method, then its
parameters or its body, and only then the wiki. A failure has an answer of its own.
Sites that the settings name may use the service from their pages.
-/

import DekiMigration.Service.Answer
import DekiMigration.Service.Parameters
import DekiMigration.Service.Route
import DekiMigration.Service.Snippet
import DekiMigration.Settings

namespace DekiMigration.Service

open Text Validation

/-- Whether the settings allow for a service: it has to have a name and a version. -/
def isPossible (settings : Settings) : Bool :=
  !settings.appName.isEmpty && !settings.appVersion.isEmpty

/-- The answer to what the wiki refuses. -/
def refused : Wiki.Refusal → Answer
  | .noPage id => .noPage id
  | .numberTooLarge | .incomplete => .failed

/-- The answer when something is objected to. The service fails to show values that
cannot be written. -/
def objected (objections : List Objection) : Answer :=
  if objections.all (·.value.isWritable) then .invalid (objections.map (·.defect)) else .failed

/-- Answers a request to convert a snippet. -/
def convert (request : Request) : Answer :=
  match Snippet.ofRequest request with
  | .ok snippet => .converted snippet.convert
  | .error (.defect defect) => .invalid [defect]
  | .error (.objections objections) => objected objections
  | .error .unreadable => .unreadable

/-- Answers a request for a list of pages. -/
def listPages (projectPrefix : Text) (wiki : Wiki.Store) (request : Request) : Answer :=
  match selectionOf request with
  | .error defects => .invalid defects
  | .ok selection =>
    match wiki.migratedPages projectPrefix selection with
    | .ok pages => .pages pages
    | .error refusal => refused refusal

/-- Answers a request for the page with a number. -/
def showPage (projectPrefix : Text) (wiki : Wiki.Store) (id : Text) : Answer :=
  match wholeNumber id with
  | .error complaint => .invalid [⟨idPlace, complaint⟩]
  | .ok id =>
    match wiki.migrated projectPrefix id with
    | .ok page => .page page
    | .error refusal => refused refusal

/-- The address of a path on this service, with the query of a request. -/
def addressOf (request : Request) (path : Text) : Text :=
  let query := if request.query.isEmpty then [] else '?' :: writeQuery request.query
  "http:".toList ++ percentEncode ":/%#?=@[]!$&'()*+,;".toList
    ("//".toList ++ (request.header? "host".toList).getD [] ++ path ++ query)

/-- What is answered to a request. -/
def answer (settings : Settings) (wiki : Wiki.Store) (request : Request) : Answer :=
  match Route.ofPath? request.path with
  | none =>
    match Route.meant? request.path with
    | some path => .moved (addressOf request path)
    | none => .unknownPath
  | some route =>
    if request.method != route.method then .wrongMethod route.method
    else match route with
      | .health => .health settings.appName settings.appVersion
      | .convert => convert request
      | .pages => listPages settings.projectPrefix wiki request
      | .page id => showPage settings.projectPrefix wiki id

/-- The headers that let pages of another site use an answer. A failure does not
have them. -/
def originHeaders (origins : List Text) (request : Request) : List (Text × Text) :=
  match request.header? "origin".toList with
  | none => []
  | some origin =>
    let everyone := "*".toList
    let hasCookie := (request.header? "cookie".toList).isSome
    let allow (site : Text) := ("access-control-allow-origin".toList, site)
    (if origins.contains everyone then [allow (if hasCookie then origin else everyone)]
      else if origins.contains origin then [allow origin] else []) ++
    [("access-control-allow-credentials".toList, "true".toList)]

/-- What goes back to the sender of a request. -/
structure Response where
  answer : Answer
  headers : List (Text × Text)
  body : Option Json.Value

/-- The response to a request. One that asks for headers only gets no body. -/
def respond (settings : Settings) (wiki : Wiki.Store) (request : Request) : Response :=
  let answer := answer settings wiki request
  { answer
    headers := answer.headers ++
      if answer = .failed then [] else originHeaders settings.origins request
    body := if request.method = "HEAD".toList then none else answer.body }

end DekiMigration.Service
