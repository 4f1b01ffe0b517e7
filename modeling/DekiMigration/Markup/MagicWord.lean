/-
# Calls of templates and magic words

`{{Name}}` calls a template or a magic word of the wiki. A call of a template
that is migrated too becomes Deki's `{s:Name}`. All other calls stay as they are
and their names are reported, in order and with repetitions, since nobody but an
author can replace them.
-/

import DekiMigration.Template
import DekiMigration.Markup.Span

namespace DekiMigration.Markup

open Text

/-- Calls: two opening braces, at least one character, two closing braces. -/
def call : Pattern where
  lengthAt? _ text := enclosedLength? ['{', '{'] ['}', '}'] (fun _ => true) text
  length_le := enclosedLength?_le_length

/-- The name in a call, without the braces around it. -/
def callName (lexeme : Text) : Text :=
  let opened := lexeme.dropWhile (· == '{')
  Template.normalizeName ((opened.reverse.dropWhile (· == '}')).reverse)

/-- The Deki form of a call, when the template is known. -/
def resolveCall (catalog : Template.Catalog) (lexeme : Text) : Option Text :=
  let name := callName lexeme
  if catalog.knows name then
    some ("\x7bs:".toList ++ Template.bareName name ++ ['}'])
  else none

/-- The names called in a text, in order and with repetitions. -/
def calledNames (text : Text) : List Text :=
  (stretches text (call.spans text)).map callName

/-- A text with its calls of known templates resolved. -/
def resolveCalls (catalog : Template.Catalog) (text : Text) : Text :=
  call.substitute (resolveCall catalog) text

/-- The names of the calls in a text that no known template answers. -/
def unresolvedNames (catalog : Template.Catalog) (text : Text) : List Text :=
  (calledNames text).filter fun name => !catalog.knows name

end DekiMigration.Markup
