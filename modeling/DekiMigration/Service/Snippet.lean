/-
# Snippets

A snippet of markup comes in the body of a request, together with the names of the
templates it may call and whether it is a template itself. Every member may be
missing. All members that are not acceptable are reported, each with the value that
is to blame, since the report shows these values. Blank template names are dropped.
-/

import DekiMigration.Json.Reader
import DekiMigration.Markup.Transform
import DekiMigration.Service.Request
import DekiMigration.Validation

namespace DekiMigration.Service

open Text Validation

/-- A snippet of markup to convert. -/
structure Snippet where
  content : Option Text := some []
  templates : List Text := []
  isTemplate : Bool := false
  deriving DecidableEq, Repr

/-- A defect of a value, and the value. -/
structure Objection where
  defect : Defect
  value : Json.Value

/-- Why a body holds no snippet. -/
inductive SnippetProblem where
  /-- The body is missing, or no JSON. -/
  | defect (defect : Defect)
  | objections (objections : List Objection)
  /-- The body goes beyond what is read at all. -/
  | unreadable

namespace Snippet

/-- The greatest number of characters in a snippet. -/
def maxLength : Nat := 10000000

/-- The place of the body. -/
def bodyPlace : List Text := ["body".toList]

/-- The place of a member of the body. -/
def memberPlace (name : String) : List Text :=
  bodyPlace ++ [name.toList]

/-- A text in JSON. -/
def readText : Json.Value → Except Complaint Text
  | .string text => .ok text
  | .brokenString => .error .brokenString
  | _ => .error .notString

/-- The content of a snippet: a text, or nothing. -/
def readContent : Json.Value → Except Complaint (Option Text)
  | .null => .ok none
  | value => do
    let text ← readText value
    if maxLength < text.length then .error .stringTooLong else return some text

/-- The greatest size of whole numbers and decimals that are looked at where a truth
value is expected. -/
def isModerate (value : Float) : Bool :=
  -2.0 ^ 63.0 < value && value < 2.0 ^ 63.0

/-- A truth value in JSON: one of its own, a text that is read as one, zero or
one. -/
def readTruth : Json.Value → Except Complaint Bool
  | .bool value => .ok value
  | .string text => truth text
  | .integer 0 => .ok false
  | .integer 1 => .ok true
  | .integer value =>
    .error (if -Int.pow 2 63 ≤ value && value < Int.pow 2 63 then .unknownTruth else .notTruth)
  | .decimal value =>
    if value == 0 then .ok false
    else if value == 1 then .ok true
    else .error (if isModerate value && value.floor == value then .unknownTruth else .notTruth)
  | _ => .error .notTruth

/-- The objection to a value, if there is a complaint about it. -/
def objectionTo (place : List Text) (value : Json.Value) : Except Complaint α → List Objection
  | .ok _ => []
  | .error complaint => [⟨⟨place, complaint⟩, value⟩]

/-- A value that is read, or what is objected to in it. -/
def check (place : List Text) (value : Json.Value) (read : Json.Value → Except Complaint α) :
    Except (List Objection) α :=
  let result := read value
  result.mapError fun _ => objectionTo place value result

/-- All of some results, or all objections among them. -/
def collect : List (Except (List Objection) α) → Except (List Objection) (List α)
  | [] => .ok []
  | result :: results =>
    match result, collect results with
    | .ok value, .ok values => .ok (value :: values)
    | .ok _, .error objections => .error objections
    | .error objections, .ok _ => .error objections
    | .error first, .error others => .error (first ++ others)

/-- The template names in a value that is to be a list of texts. -/
def readNames (value : Json.Value) : Except (List Objection) (List Text) :=
  let place := memberPlace "templates"
  match value with
  | .list items =>
    collect (items.zipIdx.map fun (item, index) => check (place ++ [ofNat index]) item readText)
  | _ => .error [⟨⟨place, .notList⟩, value⟩]

/-- The objections in a result. -/
def objectionsIn : Except (List Objection) α → List Objection
  | .ok _ => []
  | .error objections => objections

/-- The snippet that the members of an object make up. -/
def ofMembers (members : List (Option Text × Json.Value)) : Except (List Objection) Snippet :=
  let member {α : Type} (name : String) (read : Json.Value → Except (List Objection) α)
      (usual : α) : Except (List Objection) α :=
    ((Json.Value.member? members name.toList).map read).getD (.ok usual)
  let content := member "content" (check (memberPlace "content") · readContent) (some [])
  let names := member "templates" readNames []
  let isTemplate := member "is_template" (check (memberPlace "is_template") · readTruth) false
  match content, names, isTemplate with
  | .ok content, .ok names, .ok isTemplate =>
    .ok { content, templates := names.filter fun name => !(trim name).isEmpty, isTemplate }
  | content, names, isTemplate =>
    .error (objectionsIn content ++ objectionsIn names ++ objectionsIn isTemplate)

/-- The snippet in a JSON value. -/
def ofValue : Json.Value → Except SnippetProblem Snippet
  | .object members => (ofMembers members).mapError .objections
  | value => .error (.objections [⟨⟨bodyPlace, .notObject⟩, value⟩])

/-- A text without a byte order mark in front. -/
def withoutMark : Text → Text
  | '\uFEFF' :: text => text
  | text => text

/-- The snippet in the body of a request. -/
def ofRequest (request : Request) : Except SnippetProblem Snippet :=
  if request.body.isEmpty then .error (.defect ⟨bodyPlace, .missing⟩)
  else if !request.isJson then ofValue (.string request.body)
  else match Json.read (withoutMark request.body) with
    | .ok value => ofValue value
    | .error (.malformed position) =>
      .error (.defect ⟨bodyPlace ++ [ofNat position], .notJson⟩)
    | .error _ => .error .unreadable

/-- Converts a snippet. -/
def convert (snippet : Snippet) : Markup.Transformed :=
  Markup.transformContent snippet.content (.ofNames snippet.templates) snippet.isTemplate

end Snippet

end DekiMigration.Service
