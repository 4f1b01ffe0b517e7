/-
# The lexemes of XML

What tags, declarations and contents are written with: names, references, and the
comments and processing instructions that a document carries besides them. Each
reader takes a lexeme from the front of a text and gives what follows it, or
nothing when the text does not begin with such a lexeme.
-/

import DekiMigration.Text.Items
import DekiMigration.Text.Percent
import DekiMigration.Xml.Character

namespace DekiMigration.Xml

open Text

/-- A name in two parts: an optional prefix, which a namespace is bound to, and a
local name. -/
structure QualifiedName where
  space : Option Text
  base : Text
  deriving DecidableEq, Repr

/-- What a reference refers to. -/
inductive Reference where
  /-- The character with a given code point. -/
  | character (c : Char)
  /-- The entity of a given name. -/
  | entity (name : Text)
  deriving DecidableEq, Repr

/-- The text before the first character outside quotes that satisfies `stop`, and
the text from there on. `mark` is the quotation mark that is open. -/
def unquoted? (stop : Char → Bool) :
    (mark : Option Char) → Text → (passed : Text := []) → Option (Text × Text)
  | _, [], _ => none
  | some mark, c :: rest, passed =>
    unquoted? stop (if c = mark then none else some mark) rest (c :: passed)
  | none, c :: rest, passed =>
    if stop c then some (passed.reverse, c :: rest)
    else unquoted? stop (if c = '"' || c = '\'' then some c else none) rest (c :: passed)

/-- The text without the white space at its front. -/
def skipSpaces (text : Text) : Text :=
  text.dropWhile isSpace

/-- Whether a text ends here or goes on with white space. -/
def endsWord (text : Text) : Bool :=
  text.head?.all isSpace

/-- Reads a name without prefix. -/
def name? : Text → Option (Text × Text)
  | c :: text =>
    if isNameStart c then
      let (parts, rest) := text.span isNamePart
      some (c :: parts, rest)
    else none
  | [] => none

/-- Reads a name that may have a prefix. -/
def qualifiedName? (text : Text) : Option (QualifiedName × Text) := do
  let (first, rest) ← name? text
  match rest with
  | ':' :: rest =>
    let (second, rest) ← name? rest
    some (⟨some first, second⟩, rest)
  | _ => some (⟨none, first⟩, rest)

/-- Reads a quoted text. -/
def literal? : Text → Option (Text × Text)
  | mark :: text => if mark = '"' || mark = '\'' then upTo? [mark] text else none
  | [] => none

/-- The character that a reference denotes by the digits of its code point,
provided documents may hold it. -/
def characterOf? (base : Nat) (digits : Text) : Option Char := do
  let values ← digits.mapM hexValue?
  if values.isEmpty || values.any (base ≤ ·) then none
  else
    let c := Char.ofNat (values.foldl (fun number value => base * number + value) 0)
    if isAllowed c then some c else none

/-- Reads what stands between the ampersand of a reference and the end of its
semicolon. -/
def reference? (text : Text) : Option (Reference × Text) :=
  match text with
  | '#' :: 'x' :: text => do
    let (digits, rest) ← upTo? [';'] text
    some (.character (← characterOf? 16 digits), rest)
  | '#' :: text => do
    let (digits, rest) ← upTo? [';'] text
    some (.character (← characterOf? 10 digits), rest)
  | text => do
    let (name, rest) ← name? text
    some (.entity name, ← dropLead? [';'] rest)

/-- The characters that have entities of their own in every document. -/
def predefined? (name : Text) : Option Char :=
  [("lt", '<'), ("gt", '>'), ("amp", '&'), ("quot", '"'), ("apos", '\'')].findSome?
    fun (known, c) => if known.toList = name then some c else none

/-- What follows the comment that a text begins with. Two hyphens end a comment
and never stand inside one. -/
def comment? (text : Text) : Option Text := do
  let (body, rest) ← upTo? "--".toList (← dropLead? "<!--".toList text)
  let rest ← dropLead? ['>'] rest
  if body.all isAllowed then some rest else none

/-- What follows the processing instruction that a text begins with. Its target
is not the one that opens a document. -/
def instruction? (text : Text) : Option Text := do
  let (target, rest) ← name? (← dropLead? "<?".toList text)
  let (body, after) ← upTo? "?>".toList rest
  if !sameLetters target "xml".toList && endsWord body && body.all isAllowed then some after
  else none

/-- What follows the comment or processing instruction that a text begins
with. -/
def aside? (text : Text) : Option Text :=
  comment? text <|> instruction? text

end DekiMigration.Xml
