/-
# Tokens of contents

From its root element on, a document is a sequence of tags, text, references,
comments and processing instructions. Text that is written as such may not hold the
mark that ends a section of character data; a section may hold anything else.
-/

import DekiMigration.Xml.Lexeme

namespace DekiMigration.Xml

open Text

/-- A start tag, or the tag of an element without contents. The values of the
attributes are as they are written between the quotes. -/
structure Tag where
  name : QualifiedName
  attributes : List (QualifiedName × Text)
  isEmpty : Bool
  deriving DecidableEq, Repr

/-- A token of contents. -/
inductive Token where
  /-- Text that is written as such. -/
  | plain (text : Text)
  /-- Text that is given by a reference to a character or in a section. -/
  | given (text : Text)
  | entity (name : Text)
  | opening (tag : Tag)
  | closing (name : QualifiedName)
  /-- A comment or a processing instruction. -/
  | aside
  deriving DecidableEq, Repr

/-- Reads one attribute of a tag and the white space before it. -/
def Tag.attribute? : Text → Option ((QualifiedName × Text) × Text)
  | c :: text =>
    if isSpace c then do
      let (name, rest) ← qualifiedName? (skipSpaces text)
      let (value, rest) ← literal? (skipSpaces (← dropLead? ['='] (skipSpaces rest)))
      some ((name, value), rest)
    else none
  | [] => none

/-- Reads a start tag behind its opening bracket. -/
def Tag.read? (text : Text) : Option (Tag × Text) := do
  let (body, rest) ← unquoted? (· = '>') none text
  let isEmpty := body.getLast? = some '/'
  let (name, body) ← qualifiedName? (if isEmpty then body.dropLast else body)
  let (attributes, blank) := many Tag.attribute? body
  if blank.all isSpace then some (⟨name, attributes, isEmpty⟩, rest.tail) else none

/-- Whether a text holds the mark that ends a section of character data. -/
def holdsSectionEnd : Text → Bool
  | ']' :: ']' :: '>' :: _ => true
  | _ :: rest => holdsSectionEnd rest
  | [] => false

namespace Token

/-- Reads a section of character data. -/
def section? (text : Text) : Option (Token × Text) := do
  let (body, rest) ← upTo? "]]>".toList (← dropLead? "<![CDATA[".toList text)
  if body.all isAllowed then some (.given body, rest) else none

/-- Reads the token that a text begins with. -/
def read? (text : Text) : Option (Token × Text) :=
  match text with
  | '<' :: '/' :: text => do
    let (name, rest) ← qualifiedName? text
    some (.closing name, ← dropLead? ['>'] (skipSpaces rest))
  | '<' :: '!' :: _ => section? text <|> (comment? text).map (.aside, ·)
  | '<' :: '?' :: _ => (instruction? text).map (.aside, ·)
  | '<' :: text => (Tag.read? text).map fun (tag, rest) => (.opening tag, rest)
  | '&' :: text => do
    match ← reference? text with
    | (.character c, rest) => some (.given [c], rest)
    | (.entity name, rest) =>
      some (((predefined? name).map (.given [·])).getD (.entity name), rest)
  | text =>
    let (data, rest) := text.span fun c => c != '<' && c != '&'
    if data.all isAllowed && !holdsSectionEnd data then some (.plain data, rest)
    else none

/-- The tokens of a text, up to its end or up to the first place where there is
none, and whether the end was reached. -/
def readAll (text : Text) : List Token × Bool :=
  let (tokens, rest) := many read? text
  (tokens, rest.isEmpty)

end Token

end DekiMigration.Xml
