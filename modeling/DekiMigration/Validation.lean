/-
# Validation

Settings, parameters of requests and request bodies come from outside. A value that
is not acceptable is reported by a defect: where it stands and what is wrong with
it. Whole numbers and truth values are read leniently from texts; a whole number
may have white space around it, a plus sign, zeros in front, single low lines
between its digits and a fraction of zeros.
-/

import DekiMigration.Text.Number

namespace DekiMigration.Validation

open Text

/-- What is wrong with a value. -/
inductive Complaint where
  | missing
  | notJson
  | notObject
  | notList
  | notString
  /-- A string that is no text. -/
  | brokenString
  | stringTooLong
  | notTruth
  /-- A text or number that stands for no truth value. -/
  | unknownTruth
  | notWhole
  /-- A whole number with more digits than are ever read. -/
  | longNumber
  | tooSmall
  | tooLarge
  /-- None of the values that are offered. -/
  | notOffered
  deriving DecidableEq, Repr

/-- The code that reports a complaint. -/
def Complaint.code : Complaint → Text
  | missing => "missing".toList
  | notJson => "json_invalid".toList
  | notObject => "model_attributes_type".toList
  | notList => "list_type".toList
  | notString => "string_type".toList
  | brokenString => "string_unicode".toList
  | stringTooLong => "string_too_long".toList
  | notTruth => "bool_type".toList
  | unknownTruth => "bool_parsing".toList
  | notWhole => "int_parsing".toList
  | longNumber => "int_parsing_size".toList
  | tooSmall => "greater_than_equal".toList
  | tooLarge => "less_than_equal".toList
  | notOffered => "literal_error".toList

/-- A complaint and the place of the value, given by the steps that lead there. -/
structure Defect where
  place : List Text
  complaint : Complaint
  deriving DecidableEq, Repr

/-- The place of a defect, as one text. -/
def Defect.location (defect : Defect) : Text :=
  List.intercalate ['.'] defect.place

/-- A digit other than zero. -/
def isLeadingDigit (c : Char) : Bool :=
  '1' ≤ c && c ≤ '9'

/-- What is left of a number behind its leading zeros, the last of which is `zero`.
A low line may stand among them. One of them stays when nothing but a fraction
follows. -/
def behindZeros? (zero : Char) : Text → Option Text
  | [] => some [zero]
  | c :: rest =>
    if c = '0' || c = '_' then behindZeros? c rest
    else if isLeadingDigit c then some (c :: rest)
    else if c = '.' then some (zero :: c :: rest)
    else none

/-- A number without its leading zeros. A number begins with a digit or a minus. -/
def withoutZeros? : Text → Option Text
  | '0' :: rest => behindZeros? '0' rest
  | c :: rest => if isLeadingDigit c || c = '-' then some (c :: rest) else none
  | [] => none

/-- A number without a fraction of zeros. -/
def withoutFraction (text : Text) : Text :=
  match cutAt? '.' text with
  | some (whole, part) => if part.all (· = '0') then whole else text
  | none => text

/-- A number without its low lines, provided none is first, last or beside another. -/
def withoutLowLines (text : Text) : Text :=
  let isLow : Char → Bool := (· = '_')
  if text.head?.any isLow || text.getLast?.any isLow ||
      (text.zip text.tail).any fun (c, d) => isLow c && isLow d then text
  else text.filter (!isLow ·)

/-- Reads the plain notation of a whole number: an optional minus and digits, of
which the first is zero only when it is the only one. -/
def plainNumber (text : Text) : Except Complaint Int :=
  let (negative, digits) := match text with
    | '-' :: digits => (true, digits)
    | digits => (false, digits)
  if digits.isEmpty || !digits.all Char.isDigit || digits.head? = some '0' && digits.length != 1 then
    .error .notWhole
  else if maxDigits < digits.length then .error .longNumber
  else
    let size : Int := ofDigits (digits.map fun c => c.toNat - '0'.toNat)
    .ok (if negative then -size else size)

/-- The text without the blanks that may stand around a number. -/
def trimNumber (text : Text) : Text :=
  ((text.dropWhile isNumberBlank).reverse.dropWhile isNumberBlank).reverse

/-- Reads a whole number. -/
def wholeNumber (text : Text) : Except Complaint Int :=
  let unsigned? := match trimNumber text with
    | '+' :: '-' :: _ => none
    | '+' :: rest => some rest
    | text => some text
  match unsigned?.bind withoutZeros? with
  | some digits => plainNumber (withoutLowLines (withoutFraction digits))
  | none => .error .notWhole

/-- The spellings of the two truth values. -/
def truths : List (Text × Bool) :=
  [("1".toList, true), ("t".toList, true), ("y".toList, true), ("on".toList, true),
    ("yes".toList, true), ("true".toList, true), ("0".toList, false), ("f".toList, false),
    ("n".toList, false), ("no".toList, false), ("off".toList, false), ("false".toList, false)]

/-- Reads a truth value, in any case. -/
def truth (text : Text) : Except Complaint Bool :=
  match truths.lookup (lower text) with
  | some value => .ok value
  | none => .error .unknownTruth

end DekiMigration.Validation
