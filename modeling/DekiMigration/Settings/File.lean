/-
# Settings files

A settings file assigns values to names, one assignment a line. Values may stand in
quotes and then go over several lines; comments follow a number sign; a name
without value takes back what was assigned to it. A line that makes no sense is
passed over. In a value, a name in braces behind a dollar sign stands for the value
that the name has so far, in the file or else in the environment.
-/

import DekiMigration.Text.Blank
import DekiMigration.Text.Items

namespace DekiMigration.Settings.File

open Text

/-- A blank inside a line. -/
def isLineBlank (c : Char) : Bool :=
  isBlank c && c != '\n'

/-- What follows the blanks at the front of a text that are on its first line. -/
def skipBlanks (text : Text) : Text :=
  text.dropWhile isLineBlank

/-- What follows the first line of a text. -/
def nextLine (text : Text) : Text :=
  (text.dropWhile (· != '\n')).drop 1

/-- What follows a line that has only a comment left, or nothing. -/
def lineEnd? (text : Text) : Option Text :=
  match skipBlanks text with
  | [] => some []
  | '\n' :: rest => some rest
  | '#' :: rest => some (nextLine rest)
  | _ => none

/-- Splits a text behind its opening quote `mark` at the closing one: the first that
no backslash stands before, or else the last. `fallback` holds the split at the
last one so far, and `passed` what has been passed over, last character first. -/
def quoted? (mark : Char) :
    Text → (passed : Text := []) → (fallback : Option (Text × Text) := none) →
      Option (Text × Text)
  | [], _, fallback => fallback
  | c :: rest, passed, fallback =>
    if c = mark then
      if passed.head? = some '\\' then
        quoted? mark rest (c :: passed) (some (passed.reverse, rest))
      else some (passed.reverse, rest)
    else quoted? mark rest (c :: passed) fallback

/-- What a character behind a backslash stands for between the given quotes. -/
def escaped? (mark c : Char) : Option Char :=
  if c = '\\' || c = '\'' then some c
  else if mark = '\'' then none
  else match c with
    | '"' => some '"'
    | 'a' => some '\x07'
    | 'b' => some '\x08'
    | 'f' => some '\x0C'
    | 'n' => some '\n'
    | 'r' => some '\r'
    | 't' => some '\t'
    | 'v' => some '\x0B'
    | _ => none

/-- The text that is written between the given quotes. -/
def unescape (mark : Char) : Text → Text
  | '\\' :: c :: rest =>
    match escaped? mark c with
    | some plain => plain :: unescape mark rest
    | none => '\\' :: unescape mark (c :: rest)
  | c :: rest => c :: unescape mark rest
  | [] => []

/-- A value without the comment behind it: the text before the first blanks that a
number sign follows. -/
def beforeComment : Text → Text
  | [] => []
  | c :: rest =>
    if isBlank c && (rest.dropWhile isBlank).head? = some '#' then []
    else c :: beforeComment rest

/-- Reads a value and what follows it on its line. -/
def value? (text : Text) : Option (Text × Text) :=
  match text with
  | c :: rest =>
    if c = '\'' || c = '"' then (quoted? c rest).map fun (body, rest) => (unescape c body, rest)
    else
      let (line, rest) := text.span (· != '\n')
      some (trimEnd (beforeComment line), rest)
  | [] => some ([], [])

/-- Reads a name, which may stand in single quotes. -/
def name? (text : Text) : Option (Text × Text) :=
  let (name, rest) := match text with
    | '\'' :: text =>
      match text.span (· != '\'') with
      | (name, _ :: rest) => (name, rest)
      | (_, []) => ([], [])
    | _ => text.span fun c => c != '=' && c != '#' && !isBlank c
  if name.isEmpty then none else some (name, rest)

/-- The text behind the word that may stand in front of an assignment. -/
def behindExport (text : Text) : Text :=
  match dropLead? "export".toList text with
  | some (c :: rest) => if isLineBlank c then skipBlanks rest else text
  | _ => text

/-- Reads an assignment, or a comment, to the end of its line. -/
def assignment? (text : Text) : Option (Option (Text × Option Text) × Text) :=
  match behindExport text with
  | '#' :: rest => some (none, nextLine rest)
  | text => do
    let (name, rest) ← name? text
    match skipBlanks rest with
    | '=' :: rest => do
      let (value, rest) ← value? (skipBlanks rest)
      some (some (name, some value), ← lineEnd? rest)
    | rest => some (some (name, none), ← lineEnd? rest)

/-- What follows the line at which the reading of an assignment gives up. -/
def behindFault (text : Text) : Text :=
  let text := behindExport text
  match name? text with
  | none => nextLine text
  | some (_, rest) =>
    match skipBlanks rest with
    | '=' :: rest =>
      match value? (skipBlanks rest) with
      | some (_, rest) => nextLine rest
      | none => nextLine rest
    | rest => nextLine rest

/-- Reads an assignment, or passes over a line that holds none. -/
def entry? (text : Text) : Option (Option (Text × Option Text) × Text) :=
  match text with
  | [] => none
  | _ =>
    match text.dropWhile isBlank with
    | [] => some (none, [])
    | text => (assignment? text).orElse fun _ => some (none, behindFault text)

/-- The assignments of a file, in order. -/
def assignments (text : Text) : List (Text × Option Text) :=
  (many entry? text).1.reduceOption

/-- Reads one piece of a value: a name in braces behind a dollar sign, with what
stands for it when it has no value, or one character. -/
def piece? (valueOf? : Text → Option Text) : Text → Option (Text × Text)
  | [] => none
  | '$' :: '\x7b' :: text =>
    let asText := some ("$\x7b".toList, text)
    match text.span fun c => c != '\x7d' && c != ':' with
    | (name, '\x7d' :: rest) => some ((valueOf? name).getD [], rest)
    | (name, ':' :: '-' :: rest) =>
      match cutAt? '\x7d' rest with
      | some (fallback, rest) => some ((valueOf? name).getD fallback, rest)
      | none => asText
    | _ => asText
  | c :: rest => some ([c], rest)

/-- A value with the names in it replaced by what they stand for. -/
def expand (valueOf? : Text → Option Text) (text : Text) : Text :=
  (many (piece? valueOf?) text).1.flatten

/-- Sets the value of a name. A name that is known keeps its place. -/
def assign (values : List (Text × Option Text)) (name : Text) (value : Option Text) :
    List (Text × Option Text) :=
  if (values.lookup name).isSome then
    values.map fun (known, old) => (known, if known = name then value else old)
  else values ++ [(name, value)]

/-- The names of a file and what they have in the end, given the values of the
environment. -/
def read (environment : List (Text × Text)) (text : Text) : List (Text × Option Text) :=
  (assignments text).foldl (fun values (name, written) =>
    let valueOf? (name : Text) : Option Text :=
      match values.lookup name with
      | some value => some (value.getD [])
      | none => environment.lookup name
    assign values name (written.map (expand valueOf?))) []

end DekiMigration.Settings.File
