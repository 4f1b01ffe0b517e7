/-
# Reading a document

A document is read from its front to its end, and an element is complete as soon
as its end tag has been read. So a document that is malformed somewhere still has
the elements that were complete before that place. Reading gives the complete
elements in the order in which they end, and tells whether the document was
well-formed to its end.

Elements may end nowhere but in the text in which they begin: an entity whose
replacement opens an element has to close it again.
-/

import DekiMigration.Xml.Element
import DekiMigration.Xml.Prolog
import DekiMigration.Xml.Scope
import DekiMigration.Xml.Token

namespace DekiMigration.Xml

open Text

/-- An element whose end tag is still to come. -/
structure OpenElement where
  name : QualifiedName
  /-- How many elements are open around it. -/
  level : Nat
  scope : Scope
  /-- The stretches of text before the first child, last first. -/
  stretches : List Text := []
  /-- The complete children, last first. -/
  children : List Element := []

/-- The complete element. -/
def OpenElement.close (element : OpenElement) : Element :=
  ⟨element.name.base, element.stretches.reverse.flatten, element.children.reverse⟩

/-- How far the reading of a document has come: the open elements, innermost
first, and the complete ones, last first. -/
structure Progress where
  opened : List OpenElement := []
  complete : List Element := []

namespace Progress

/-- Adds text to the innermost open element; it counts before the first child
only. -/
def addText (progress : Progress) (text : Text) : Progress :=
  match progress.opened with
  | element :: around =>
    if element.children.isEmpty then
      { progress with
        opened := { element with stretches := text :: element.stretches } :: around }
    else progress
  | [] => progress

/-- Opens an element. There is one root. -/
def enter? (progress : Progress) (declarations : Declarations) (tag : Tag) :
    Option Progress := do
  let written := tag.attributes.map (·.1)
  let values ← tag.attributes.mapM fun (name, text) => do
    some ⟨name, ← declarations.entities.value? text⟩
  let others := (declarations.missing tag.name written).map fun (name, value) => ⟨name, value⟩
  let (around, level) := match progress.opened with
    | element :: _ => (element.scope, element.level + 1)
    | [] => (Scope.initial, 0)
  let scope ← around.enter? tag.name (values ++ others)
  if progress.opened.isEmpty && !progress.complete.isEmpty || !decide written.Nodup then none
  else some { progress with opened := ⟨tag.name, level, scope, [], []⟩ :: progress.opened }

/-- Closes the innermost open element. -/
def leave (progress : Progress) : Progress :=
  match progress.opened with
  | element :: around =>
    let closed := element.close
    { opened := match around with
        | parent :: around => { parent with children := closed :: parent.children } :: around
        | [] => []
      complete := closed :: progress.complete }
  | [] => progress

/-- The level of the innermost open element, counted from one; zero outside the
root. -/
def level (progress : Progress) : Nat :=
  match progress.opened with
  | element :: _ => element.level + 1
  | [] => 0

/-- Takes in tokens. Where they are malformed the reading ends with what it has come
to. `floor` is the level that the text of the tokens began at, and the entities
`underway` may not be referred to. Each replacement that is read adds an entity to
them, so the number of entities bounds the `depth` of replacements. -/
def run (declarations : Declarations) :
    (depth : Nat) → (underway : List Text) → (floor : Nat) → List Token → Progress →
      Except Progress Progress
  | 0, _, _, _, progress => .error progress
  | depth + 1, underway, floor, tokens, progress =>
    tokens.foldlM (fun progress token =>
      match token with
      | .aside => .ok progress
      | .plain text =>
        if progress.opened.isEmpty && !text.all isSpace then .error progress
        else .ok (progress.addText text)
      | .given text =>
        if progress.opened.isEmpty then .error progress else .ok (progress.addText text)
      | .opening tag =>
        match progress.enter? declarations tag with
        | some inside => .ok (if tag.isEmpty then inside.leave else inside)
        | none => .error progress
      | .closing name =>
        if progress.level ≤ floor || (progress.opened.head?.map (·.name)) != some name then
          .error progress
        else .ok progress.leave
      | .entity name =>
        match declarations.entities.find? name with
        | some (some replacement) =>
          if progress.opened.isEmpty || underway.contains name then .error progress
          else
            let (inner, ended) := Token.readAll replacement
            match run declarations depth (name :: underway) progress.level inner progress with
            | .ok after =>
              if ended && after.level = progress.level then .ok after else .error after
            | .error after => .error after
        | _ => .error progress) progress

end Progress

/-- What reading a document gives. -/
structure Reading where
  /-- The complete elements, in the order in which they end. -/
  elements : List Element
  /-- Whether the document is well-formed to its end. -/
  isWellFormed : Bool

/-- Reads a document. Its line ends are line feeds from the outset; what references
give is not touched by that. -/
def read (document : Text) : Reading :=
  match prolog? (joinLineEnds document) with
  | none => ⟨[], false⟩
  | some (declarations, contents) =>
    let (tokens, ended) := Token.readAll contents
    match Progress.run declarations (declarations.declared.length + 1) [] 0 tokens {} with
    | .ok progress =>
      ⟨progress.complete.reverse,
        ended && progress.opened.isEmpty && !progress.complete.isEmpty⟩
    | .error progress => ⟨progress.complete.reverse, false⟩

end DekiMigration.Xml
