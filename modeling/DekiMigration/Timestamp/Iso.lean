/-
# ISO 8601 times

Exports give revision times as ISO 8601 writes them: a date, any one character,
a time of day and an offset from UTC. A date is given by month and day or by week
and weekday, with hyphens or without; a time of day by hours, minutes and
seconds, with colons or without, and decimals of the last. The wall-clock time is
kept and the offset is dropped.

The place where the date ends is found from the separators alone. Behind a date
with week but without weekday, a digit run decides whether it starts with the
weekday. An offset is looked for first, from its sign, and the clock is read up to there.
Behind the last unit that a clock gives one ASCII character more is let pass, if an
offset follows it; so is anything behind six decimals.
-/

import DekiMigration.Calendar
import DekiMigration.Timestamp

namespace DekiMigration.Timestamp.Iso

open Text Calendar

/-- The value of `count` ASCII digits at the front of a text, and what follows. -/
def digits? : (count : Nat) → Text → (value : Nat := 0) → Option (Nat × Text)
  | 0, text, value => some (value, text)
  | count + 1, c :: rest, value =>
    if c.isDigit then digits? count rest (10 * value + (c.toNat - '0'.toNat)) else none
  | _ + 1, [], _ => none

/-- Where the date at the front of a text ends, judged by its separators. -/
def dateEnd (text : Text) : Nat :=
  if text.length = 7 then 7
  else match text.drop 4 with
    | '-' :: 'W' :: later =>
      match later.drop 2 with
      | '-' :: _ :: c :: _ => if c.isDigit then 8 else 10
      | '-' :: _ => 10
      | _ => 8
    | '-' :: _ => 10
    | 'W' :: later =>
      let last := 7 + ((later.drop 2).takeWhile Char.isDigit).length
      if last < 9 then last else if last % 2 = 0 then 7 else 8
    | _ => 8

/-- Year, month and day of a date that fills a text. -/
def date? (text : Text) : Option (Nat × Nat × Nat) := do
  let (year, rest) ← digits? 4 text
  let hyphens := rest.head? = some '-'
  let rest := if hyphens then rest.tail else rest
  if rest.head? = some 'W' then
    let (week, rest) ← digits? 2 rest.tail
    if rest.isEmpty then ofWeek? year week 1
    else
      let rest ← if hyphens then dropLead? ['-'] rest else some rest
      let (day, _) ← digits? 1 rest
      ofWeek? year week day
  else
    let (month, rest) ← digits? 2 rest
    let rest ← if hyphens then dropLead? ['-'] rest else some rest
    let (day, _) ← digits? 2 rest
    some (year, month, day)

/-- Checks the decimals of a clock, which `next` follows, and tells whether
nothing but digits stands between them and the end of the text. -/
def decimalsEnd? (next : Char) (decimals : Text) : Option Bool :=
  if (decimals.take 6).all Char.isDigit then
    some (((decimals.drop 6).dropWhile Char.isDigit ++ [next]).head? = some '\x00')
  else none

/-- Reads the units of a clock that are left, hours first. `next` is the character
behind the clock, NUL at the end of the text, and `colons` tells whether colons
stand between the units. Besides the units it tells whether the text ends where
the clock does. -/
def clockFrom? (next : Char) :
    (units : Nat) → (colons : Option Bool) → Text → List Nat → Option (List Nat × Bool)
  | 0, _, decimals, done => do
    let ended ← decimalsEnd? next decimals
    some (done.reverse, ended)
  | units + 1, colons, text, done => do
    let (value, rest) ← digits? 2 text
    let done := value :: done
    match rest with
    | [] => some (done.reverse, next = '\x00')
    | [c] => if c.toNat < 0x80 then some (done.reverse, c = '\x00') else none
    | c :: later =>
      let colons := colons.getD (c = ':')
      if colons && c = ':' then clockFrom? next units (some colons) later done
      else if c = '.' || c = ',' then
        let ended ← decimalsEnd? next later
        some (done.reverse, ended)
      else if colons then none
      else clockFrom? next units (some colons) rest done

/-- Reads a clock: hours, minutes and seconds. -/
def clock? (text : Text) (next : Char) : Option ((Nat × Nat × Nat) × Bool) := do
  let (units, ended) ← clockFrom? next 3 none text []
  some ((units[0]?.getD 0, units[1]?.getD 0, units[2]?.getD 0), ended)

/-- Hour, minute and second of the time of day that fills a text, after which an
offset of less than a day may stand. -/
def time? (text : Text) : Option (Nat × Nat × Nat) := do
  let before := text.takeWhile fun c => c != '+' && c != '-'
  match text.drop before.length with
  | [] =>
    let (units, ended) ← clock? before '\x00'
    if ended then some units else none
  | sign :: offset =>
    let (units, _) ← clock? before sign
    let ((hours, minutes, seconds), ended) ← clock? offset '\x00'
    if ended && 3600 * hours + 60 * minutes + seconds < 86400 then some units else none

/-- Reads a date, or a date and a time of day, that fills a text. -/
def readTrimmed? (text : Text) : Option DateTime := do
  let (year, month, day) ← date? (text.take (dateEnd text))
  let (hour, minute, second) ←
    match text.drop (dateEnd text) with
    | [] => some (0, 0, 0)
    | _ :: time => time? time
  DateTime.ofParts? year month day hour minute second

/-- The offset that the letter `Z` stands for. -/
def zuluOffset : Text := "+00:00".toList

/-- Reads a time with blanks around it, in which `Z` may stand for the offset of
UTC. -/
def read? (text : Text) : Option DateTime :=
  readTrimmed? ((trim text).flatMap fun c => if c = 'Z' then zuluOffset else [c])

/-- A time as fourteen digits; years before 1000 have fewer, since the year is
not filled up with zeros. -/
def compact (time : DateTime) : Text :=
  ofNat time.year ++ padded 2 time.month ++ padded 2 time.day ++
    padded 2 time.hour ++ padded 2 time.minute ++ padded 2 time.second

end DekiMigration.Timestamp.Iso
