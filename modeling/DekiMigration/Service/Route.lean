/-
# Routes

What the service offers lies at a handful of paths, each with one method. A path may
end in one line feed, which is overlooked; the number of a page takes everything up
to the next slash, whatever it is. A path with slashes too many at its end is known
by the path without them.
-/

import DekiMigration.Text

namespace DekiMigration.Service

open Text

/-- What the service offers. -/
inductive Route where
  /-- Whether the service is up. -/
  | health
  /-- Converting a snippet of markup. -/
  | convert
  /-- The list of pages. -/
  | pages
  /-- One page, by what stands in the place of its number. -/
  | page (id : Text)
  deriving DecidableEq, Repr

namespace Route

/-- The paths that stand for themselves. -/
def fixed : List (Text × Route) :=
  [("/api/v1/convert".toList, convert), ("/api/v1/pages".toList, pages),
    ("/api/health".toList, health)]

/-- What is in front of the number of a page. -/
def pageLead : Text := "/api/v1/pages/".toList

/-- What is at a path. -/
def ofPath? (path : Text) : Option Route :=
  match fixed.find? fun (known, _) => path = known || path = known ++ ['\n'] with
  | some (_, route) => some route
  | none =>
    (dropLead? pageLead path).bind fun id =>
      if id.isEmpty || id.contains '/' then none else some (page id)

/-- The only method of a route. -/
def method : Route → Text
  | convert => "POST".toList
  | health | pages | page _ => "GET".toList

/-- A path without the slashes at its end. -/
def withoutSlashes (path : Text) : Text :=
  (path.reverse.dropWhile (· = '/')).reverse

/-- The path that is meant by one with slashes too many at its end. -/
def meant? (path : Text) : Option Text :=
  let bare := withoutSlashes path
  if bare != path && (ofPath? bare).isSome then some bare else none

end Route

end DekiMigration.Service
