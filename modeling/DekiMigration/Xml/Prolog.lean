/-
# Before the root element

A document may open with an XML declaration and carry a document type declaration,
comments and processing instructions before its root element. Documents are read
as UTF-8 and may say so; they may not say otherwise.
-/

import DekiMigration.Xml.Declaration

namespace DekiMigration.Xml

open Text

/-- Reads one of the settings of an XML declaration: white space, a name, an equals
sign and a quoted value. -/
def setting? : Text → Option ((Text × Text) × Text)
  | c :: text =>
    if isSpace c then do
      let (name, rest) := (skipSpaces text).span fun c => !isSpace c && c != '='
      let (value, rest) ← literal? (skipSpaces (← dropLead? ['='] (skipSpaces rest)))
      if value.all fun c => c.isAlphanum || c = '.' || c = '_' || c = '-' then
        some ((name, value), rest)
      else none
    else none
  | [] => none

/-- Whether a document that states an encoding is one that is read. -/
def isReadable (encoding : Text) : Bool :=
  sameLetters encoding "utf-8".toList

/-- Whether the settings of an XML declaration say that the document stands alone,
if they are in order. -/
def standsAlone? (settings : List (Text × Text)) : Option Bool := do
  let (version, settings) ← settings.head?.map (·, settings.tail)
  if version.1 != "version".toList then none
  let settings ← match settings with
    | (name, value) :: later =>
      if name != "encoding".toList then some settings
      else if isReadable value then some later
      else none
    | [] => some []
  match settings with
  | [] => some false
  | [(name, value)] =>
    if name != "standalone".toList then none
    else if value = "yes".toList then some true
    else if value = "no".toList then some false
    else none
  | _ => none

/-- Reads the XML declaration that a text begins with, if it begins with one. -/
def xmlDeclaration? (text : Text) : Option (Declarations × Text) :=
  match dropLead? "<?xml".toList text with
  | some (c :: rest) =>
    if isSpace c then do
      let (body, after) ← upTo? "?>".toList (c :: rest)
      let (settings, blank) := many setting? body
      if blank.all isSpace then some ({ standsAlone := ← standsAlone? settings }, after) else none
    else some ({}, text)
  | _ => some ({}, text)

/-- What follows white space, or the comment or processing instruction, that a text
begins with. -/
def space? (text : Text) : Option (Unit × Text) :=
  if text.head?.any isSpace then some ((), skipSpaces text) else (aside? text).map ((), ·)

/-- Reads what stands before the root element of a document. -/
def prolog? (text : Text) : Option (Declarations × Text) := do
  let (declarations, rest) ← xmlDeclaration? ((dropLead? ['\uFEFF'] text).getD text)
  let (_, rest) := many space? rest
  let (declarations, rest) ←
    if (dropLead? "<!DOCTYPE".toList rest).isSome then declarations.documentType? rest
    else some (declarations, rest)
  some (declarations, (many space? rest).2)

end DekiMigration.Xml
