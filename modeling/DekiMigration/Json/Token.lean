/-
# Tokens of JSON

A JSON text is a sequence of marks, strings and plain values with white space
between them. Each token is kept with the text from its beginning on, which tells
where it stands. Where there is no token the sequence ends with a fault, and the
fault remembers the place that is to blame: in a string it may lie behind the
beginning.
-/

import DekiMigration.Json.Value
import DekiMigration.Text.Items
import DekiMigration.Text.Number
import DekiMigration.Text.Percent

namespace DekiMigration.Json

open Text

/-- A token of JSON. -/
inductive Token where
  /-- A bracket, a colon or a comma. -/
  | mark (c : Char)
  /-- A string, missing when it is no text. -/
  | string (text : Option Text)
  /-- A value that is neither string nor list nor object. -/
  | plain (value : Value)
  /-- A whole number with more digits than are ever read. -/
  | longNumber
  /-- No token; the text from the place that is to blame. -/
  | fault (place : Text)

/-- White space between tokens. -/
def isSpace (c : Char) : Bool :=
  c = ' ' || c = '\t' || c = '\n' || c = '\r'

/-- The number that four hexadecimal digits write. -/
def unit? (a b c d : Char) : Option Nat := do
  some (4096 * (← hexValue? a) + 256 * (← hexValue? b) + 16 * (← hexValue? c) + (← hexValue? d))

/-- The character that a letter behind a backslash stands for. -/
def escaped? : Char → Option Char
  | '"' => some '"'
  | '\\' => some '\\'
  | '/' => some '/'
  | 'b' => some '\x08'
  | 'f' => some '\x0C'
  | 'n' => some '\n'
  | 'r' => some '\r'
  | 't' => some '\t'
  | _ => none

/-- Whether a number is the first half of a surrogate pair. -/
def isHighHalf (number : Nat) : Bool :=
  0xD800 ≤ number && number < 0xDC00

/-- Whether a number is the second half of a surrogate pair. -/
def isLowHalf (number : Nat) : Bool :=
  0xDC00 ≤ number && number < 0xE000

/-- The rest of a string that began with the text `start`, and what follows it, or
the text from the place where it goes wrong. `done` holds the characters so far,
last first; `high` is the first half of a surrogate pair whose second half has to
come next; `whole` tells whether all before it makes up a text. -/
def stringFrom (start : Text) :
    (rest done : Text) → (high : Option Nat) → (whole : Bool) →
      Except Text (Option Text × Text)
  | [], _, _, _ => .error start
  | '"' :: rest, done, high, whole =>
    .ok (if whole && high.isNone then some done.reverse else none, rest)
  | '\\' :: 'u' :: a :: b :: c :: d :: rest, done, high, whole =>
    match unit? a b c d with
    | some number =>
      if rest.isEmpty then .error ('u' :: a :: b :: c :: d :: rest)
      else if isHighHalf number then stringFrom start rest done (some number) (whole && high.isNone)
      else match high with
        | some high =>
          if isLowHalf number then
            let c := Char.ofNat (0x10000 + 1024 * (high - 0xD800) + (number - 0xDC00))
            stringFrom start rest (c :: done) none whole
          else stringFrom start rest done none false
        | none =>
          stringFrom start rest (Char.ofNat number :: done) none (whole && !isLowHalf number)
    | none => .error ('u' :: a :: b :: c :: d :: rest)
  | '\\' :: 'u' :: rest, _, _, _ => .error ('u' :: rest)
  | ['\\'], _, _, _ => .error start
  | '\\' :: c :: rest, done, high, whole =>
    match escaped? c with
    | some c => stringFrom start rest (c :: done) none (whole && high.isNone)
    | none => .error ('\\' :: c :: rest)
  | c :: rest, done, high, whole =>
    if c.toNat < 0x20 then .error (c :: rest)
    else stringFrom start rest (c :: done) none (whole && high.isNone)

/-- The number that is written by digits and a power of ten, to the nearest that is
represented. Powers far out of the range of numbers are not computed. -/
def decimal (digits : List Nat) (power : Int) : Float :=
  let digits := digits.dropWhile (· == 0)
  let magnitude := digits.length + power
  if digits.isEmpty || magnitude < -400 then 0
  else if 400 < magnitude then 1 / 0
  else Float.ofScientific (ofDigits digits) (decide (power < 0)) power.natAbs

/-- The values of the decimal digits at the front of a text, and what follows. -/
def digits (text : Text) : List Nat × Text :=
  let (run, rest) := text.span Char.isDigit
  (run.map fun c => c.toNat - '0'.toNat, rest)

/-- Reads the digits behind a decimal point; without digits there is no fraction. -/
def fraction (text : Text) : List Nat × Text :=
  match text with
  | '.' :: after =>
    match digits after with
    | ([], _) => ([], text)
    | found => found
  | _ => ([], text)

/-- Reads an exponent; without digits there is none. -/
def exponent (text : Text) : Option Int × Text :=
  match text with
  | c :: after =>
    if c = 'e' || c = 'E' then
      let (negative, unsigned) := takeSign after
      match digits unsigned with
      | ([], _) => (none, text)
      | (found, rest) =>
        -- a power with more digits than these is out of range in any case
        let size : Int := ofDigits ((found.dropWhile (· == 0)).take 9)
        (some (if negative then -size else size), rest)
    else (none, text)
  | [] => (none, text)

/-- The token that a number is. -/
def numberToken (negative : Bool) (whole part : List Nat) (power : Option Int) : Token :=
  if part.isEmpty && power.isNone then
    if maxDigits < whole.length then .longNumber
    else
      let size : Int := ofDigits whole
      .plain (.integer (if negative then -size else size))
  else
    let size := decimal (whole ++ part) (power.getD 0 - part.length)
    .plain (.decimal (if negative then -size else size))

/-- Reads a number. -/
def number? (text : Text) : Option (Token × Text) :=
  let (negative, unsigned) := match text with
    | '-' :: rest => (true, rest)
    | _ => (false, text)
  let (whole, rest) := match unsigned with
    | '0' :: rest => ([0], rest)
    | _ => digits unsigned
  if whole.isEmpty then none
  else
    let (part, rest) := fraction rest
    let (power, rest) := exponent rest
    some (numberToken negative whole part power, rest)

/-- The plain values that are written as words. -/
def words : List (Text × Value) :=
  [("null".toList, .null), ("true".toList, .bool true), ("false".toList, .bool false),
    ("NaN".toList, .decimal (0 / 0)), ("Infinity".toList, .decimal (1 / 0)),
    ("-Infinity".toList, .decimal (-1 / 0))]

/-- Reads the word or number that a text begins with. -/
def plain? (text : Text) : Option (Token × Text) :=
  (words.findSome? fun (word, value) => (dropLead? word text).map (.plain value, ·)) <|>
    number? text

/-- Reads the token that a text begins with, or the fault that is there. -/
def Token.read? (text : Text) : Option ((Text × Token) × Text) :=
  match text.dropWhile isSpace with
  | [] => none
  | c :: rest =>
    let start := c :: rest
    if c = '"' then
      match stringFrom start rest [] none true with
      | .ok (text, rest) => some ((start, .string text), rest)
      | .error place => some ((start, .fault place), [])
    else if "[]\x7b\x7d:,".toList.contains c then some ((start, .mark c), rest)
    else match plain? start with
      | some (token, rest) => some ((start, token), rest)
      | none => some ((start, .fault start), [])

/-- The tokens of a text, up to its end or up to the first fault. -/
def Token.readAll (text : Text) : List (Text × Token) :=
  (many Token.read? text).1

end DekiMigration.Json
