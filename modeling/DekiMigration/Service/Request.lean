/-
# Requests

A request has a method, the path and the query of an address, headers and a body.
The segments of the address that lead nowhere or one step back are resolved before
its percent-encoding is taken off, so encoded ones stay what they are. Header names
are read in any case.
-/

import DekiMigration.Path
import DekiMigration.Text.Blank
import DekiMigration.Text.Percent

namespace DekiMigration.Service

open Text

/-- A request. -/
structure Request where
  method : Text
  path : Text
  query : List (Text × Text) := []
  headers : List (Text × Text) := []
  body : Text := []
  deriving DecidableEq, Repr

namespace Request

/-- Appends a segment to a path, given by its segments so far. -/
def appendSegment (segments : List Text) (segment : Text) : List Text :=
  if segment = Path.here then segments
  else if segment = Path.above then
    if segments = [[]] then segments else segments.dropLast
  else segments ++ [segment]

/-- An absolute path without segments that lead nowhere or one step back. -/
def resolve (path : Text) : Text :=
  List.intercalate ['/'] (((path.splitOn '/').foldl appendSegment []))

/-- The path and the query of an address, both as they are written. -/
def splitAddress (address : Text) : Text × Text :=
  let address := address.takeWhile (· != '#')
  (cutAt? '?' address).getD (address, [])

/-- A request to an address, which may have a query of its own. -/
def ofAddress (method address : Text) (query headers : List (Text × Text) := [])
    (body : Text := []) : Request where
  method := upper method
  path := percentDecode (resolve ('/' :: (splitAddress address).1.dropWhile (· = '/')))
  query := if query.isEmpty then readQuery (splitAddress address).2 else query
  headers := headers
  body := body

/-- The value of a header. -/
def header? (request : Request) (name : Text) : Option Text :=
  (request.headers.find? fun header => sameLetters header.1 name).map (·.2)

/-- The value of a parameter. Of several the last counts. -/
def parameter? (request : Request) (name : Text) : Option Text :=
  request.query.reverse.lookup name

/-- All values of a parameter. -/
def parameters (request : Request) (name : Text) : List Text :=
  (request.query.filter (·.1 = name)).map (·.2)

/-- Whether the body is to be read as JSON: it is when nothing else is said. -/
def isJson (request : Request) : Bool :=
  match request.header? "content-type".toList with
  | none | some [] => true
  | some written =>
    match (lower (trim (written.takeWhile (· != ';')))).splitOn '/' with
    | [kind, form] =>
      kind = "application".toList && (form = "json".toList || "+json".toList.isSuffixOf form)
    | _ => false

end Request

end DekiMigration.Service
