/-
# Wiki timestamps

The wiki writes a time as fourteen digits: year, month, day, hour, minute and
second. The reader is more liberal. It takes the digits part by part and lets
every part but the year have one digit where two are usual, preferring two; the
preference of an earlier part counts more. The parts of the first reading that
fits the front of the text are taken, whatever follows; then nothing may be left
and the parts must name a real second.
-/

import DekiMigration.Calendar
import DekiMigration.Text.Blank
import DekiMigration.Text.Digit

namespace DekiMigration.Timestamp

open Text Calendar

/-- The readings of a part of a timestamp: the values it may have and the texts
they leave, in order of preference. -/
abbrev Part := Text → List (Nat × Text)

/-- A digit of any script. -/
def digit : Part
  | c :: rest => (decimalValue? c).toList.map fun value => (value, rest)
  | [] => []

/-- One of the ASCII digits from `low` to `high`. -/
def digitIn (low high : Char) : Part
  | c :: rest => if low ≤ c && c ≤ high then [(c.toNat - '0'.toNat, rest)] else []
  | [] => []

/-- A digit read by `tens`, followed by one read by `units`. -/
def twoDigits (tens units : Part) : Part := fun text =>
  (tens text).flatMap fun (ten, rest) =>
    (units rest).map fun (unit, rest) => (10 * ten + unit, rest)

/-- The readings of several parts, those of the first preferred. -/
def anyOf (parts : List Part) : Part := fun text =>
  parts.flatMap fun part => part text

/-- A day below ten whose tens are a space. -/
def spacedDay : Part
  | ' ' :: rest => digitIn '1' '9' rest
  | _ => []

/-- Four digits. -/
def yearPart : Part := fun text =>
  (twoDigits digit digit text).flatMap fun (century, rest) =>
    (twoDigits digit digit rest).map fun (year, rest) => (100 * century + year, rest)

/-- A month: 10 to 12, 01 to 09, or 1 to 9. -/
def monthPart : Part :=
  anyOf [twoDigits (digitIn '1' '1') (digitIn '0' '2'),
    twoDigits (digitIn '0' '0') (digitIn '1' '9'), digitIn '1' '9']

/-- A day: 30 or 31, 10 to 29, 01 to 09, 1 to 9, or a space and 1 to 9. -/
def dayPart : Part :=
  anyOf [twoDigits (digitIn '3' '3') (digitIn '0' '1'), twoDigits (digitIn '1' '2') digit,
    twoDigits (digitIn '0' '0') (digitIn '1' '9'), digitIn '1' '9', spacedDay]

/-- An hour: 20 to 23, 00 to 19, or one digit. -/
def hourPart : Part :=
  anyOf [twoDigits (digitIn '2' '2') (digitIn '0' '3'), twoDigits (digitIn '0' '1') digit, digit]

/-- A minute: 00 to 59, or one digit. -/
def minutePart : Part :=
  anyOf [twoDigits (digitIn '0' '5') digit, digit]

/-- A second: 60 or 61, 00 to 59, or one digit. -/
def secondPart : Part :=
  anyOf [twoDigits (digitIn '6' '6') (digitIn '0' '1'), twoDigits (digitIn '0' '5') digit, digit]

/-- The readings of a sequence of parts, earlier parts preferring first. -/
def readings : List Part → Text → List (List Nat × Text)
  | [], text => [([], text)]
  | part :: parts, text =>
    (part text).flatMap fun (value, rest) =>
      (readings parts rest).map fun (values, rest) => (value :: values, rest)

/-- The parts of a timestamp. -/
def parts : List Part :=
  [yearPart, monthPart, dayPart, hourPart, minutePart, secondPart]

/-- Reads a timestamp without blanks around it. -/
def readParts? (text : Text) : Option DateTime :=
  match (readings parts text).head? with
  | some ([year, month, day, hour, minute, second], []) =>
    DateTime.ofParts? year month day hour minute second
  | _ => none

/-- Reads a timestamp. -/
def read? (text : Text) : Option DateTime :=
  readParts? (trim text)

/-- The fourteen digits of a time. -/
def write (time : DateTime) : Text :=
  padded 4 time.year ++ padded 2 time.month ++ padded 2 time.day ++
    padded 2 time.hour ++ padded 2 time.minute ++ padded 2 time.second

/-- A time as reports show it, in UTC. -/
def display (zone : Text) (time : DateTime) : Text :=
  padded 4 time.year ++ '-' :: padded 2 time.month ++ '-' :: padded 2 time.day ++
    'T' :: padded 2 time.hour ++ ':' :: padded 2 time.minute ++ ':' :: padded 2 time.second ++
    zone

end DekiMigration.Timestamp
