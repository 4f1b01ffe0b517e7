/-
# Reading whole numbers

Namespace and page numbers are read leniently: blanks around the number, a sign,
the digits of any script and single low lines between digits are all accepted.
Two things go wrong. A literal may be malformed, and a literal of more than 4300
digits is refused before its value is computed; a low line that does not stand
between two digits makes the literal malformed however long it is.
-/

import DekiMigration.Text.Blank
import DekiMigration.Text.Digit
import DekiMigration.Text.Quoted

namespace DekiMigration.Text

/-- Why a text is no whole number. -/
inductive NumberError where
  /-- The text is not of the form of a number. -/
  | malformed
  /-- The number has more digits than are ever read. -/
  | tooLong (digits : Nat)
  deriving DecidableEq, Repr

/-- The most digits a number may have. -/
def maxDigits : Nat := 4300

/-- Blanks that may stand around a number: those of `isBlank` without the four
information separators. -/
def isNumberBlank (c : Char) : Bool :=
  isBlank c && !(0x1C ≤ c.toNat && c.toNat ≤ 0x1F)

/-- The run of digits and low lines at the front of a text, the digits as their
values and the low lines as `none`, and what follows it. -/
def digitRun : Text → List (Option Nat) → List (Option Nat) × Text
  | [], run => (run.reverse, [])
  | c :: rest, run =>
    if c = '_' then digitRun rest (none :: run)
    else match decimalValue? c with
      | some value => digitRun rest (some value :: run)
      | none => (run.reverse, c :: rest)

/-- Whether every low line of a run stands between two digits. -/
def wellSpaced (run : List (Option Nat)) : Bool :=
  run.head?.join.isSome && run.getLast?.join.isSome &&
    (run.zip run.tail).all fun (first, second) => first.isSome || second.isSome

/-- The number whose decimal digits, most significant first, are given. -/
def ofDigits (digits : List Nat) : Nat :=
  digits.foldl (fun value digit => 10 * value + digit) 0

/-- The sign at the front of a text, as whether it is a minus, and the rest. -/
def takeSign : Text → Bool × Text
  | '-' :: rest => (true, rest)
  | '+' :: rest => (false, rest)
  | text => (false, text)

/-- Reads a whole number. -/
def readInt (text : Text) : Except NumberError Int :=
  let (negative, unsigned) := takeSign (text.dropWhile isNumberBlank)
  let (run, after) := digitRun unsigned []
  let digits := run.reduceOption
  if !wellSpaced run then .error .malformed
  else if maxDigits < digits.length then .error (.tooLong digits.length)
  else if !after.all isNumberBlank then .error .malformed
  else
    let size : Int := ofDigits digits
    .ok (if negative then -size else size)

/-- The report on a text that is no whole number; of a long literal it shows
the first two hundred characters. -/
def NumberError.message (literal : Text) : NumberError → Text
  | .malformed =>
    "invalid literal for int() with base 10: ".toList ++ (quoted literal).take 200
  | .tooLong digits =>
    "Exceeds the limit (4300 digits) for integer string conversion: value has ".toList ++
      ofNat digits ++
      " digits; use sys.set_int_max_str_digits() to increase the limit".toList

end DekiMigration.Text
