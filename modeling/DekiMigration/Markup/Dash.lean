/-
# Dashes

Deki draws two hyphens as a dash. To keep them, every pair is wrapped so that it
is shown as it is written; of a longer run, pairs are taken from the left.
-/

import DekiMigration.Markup.Span

namespace DekiMigration.Markup

/-- Two hyphens. -/
def dash : Text := ['-', '-']

/-- Two hyphens that are shown as they are. -/
def wrappedDash : Text := "<nowiki>--</nowiki>".toList

/-- Wraps every pair of hyphens. -/
def wrapDashes (text : Text) : Text :=
  replaceAll dash wrappedDash text

end DekiMigration.Markup
