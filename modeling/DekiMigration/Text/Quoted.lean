/-
# Quoted texts

Messages show titles and timestamps in quotes. A quoted text stands between
single quotes, or between double quotes when it holds a single quote and no
double one, so the quotes inside rarely need an escape. A backslash and the
surrounding quote are escaped by a backslash, tab, line feed and carriage return
by a letter, and every other unprintable character by its code point in
hexadecimal, with two, four or eight digits.
-/

import DekiMigration.Text.Printable

namespace DekiMigration.Text

/-- The hexadecimal digits of a number, filled up with zeros to `width`. -/
def hexadecimal (width number : Nat) : Text :=
  let digits := Nat.toDigits 16 number
  List.replicate (width - digits.length) '0' ++ digits

/-- How one character is shown between the quotes `quote`. -/
def quoteChar (quote c : Char) : Text :=
  if c = quote || c = '\\' then ['\\', c]
  else if c = '\t' then ['\\', 't']
  else if c = '\n' then ['\\', 'n']
  else if c = '\r' then ['\\', 'r']
  else if isPrintable c then [c]
  else if c.toNat < 0x100 then '\\' :: 'x' :: hexadecimal 2 c.toNat
  else if c.toNat < 0x10000 then '\\' :: 'u' :: hexadecimal 4 c.toNat
  else '\\' :: 'U' :: hexadecimal 8 c.toNat

/-- The quotes around a text: double ones for a text that holds single quotes
and no double ones, single ones otherwise. -/
def quoteMark (text : Text) : Char :=
  if text.contains '\'' && !text.contains '"' then '"' else '\''

/-- The text in quotes. -/
def quoted (text : Text) : Text :=
  let quote := quoteMark text
  quote :: (text.flatMap (quoteChar quote) ++ [quote])

end DekiMigration.Text
