/-
# Reading JSON

The tokens of a text are taken in one after the other, with the lists and objects
that are still open held in a stack. A text that is no JSON is refused with the
place of the first token that does not belong where it stands, or with the end of
the text. Lists and objects may not be nested too deeply, and whole numbers may not
be too long.
-/

import DekiMigration.Json.Token

namespace DekiMigration.Json

open Text

/-- Why a text is not read as JSON. -/
inductive Fault where
  /-- It is no JSON; how many characters stand before the place that is to blame. -/
  | malformed (position : Nat)
  /-- It holds a whole number that is too long. -/
  | longNumber
  /-- Its lists and objects are nested too deeply. -/
  | nesting
  deriving DecidableEq, Repr

/-- A list or object that is still open, with what it holds so far, last first. -/
inductive Frame where
  | list (items : List Value)
  | object (members : List (Option Text × Value)) (name : Option Text)

/-- What has to come next. -/
inductive Expected where
  | value
  /-- A value, or the end of the list that has just been opened. -/
  | firstItem
  | name
  /-- A name, or the end of the object that has just been opened. -/
  | firstName
  | colon
  /-- A comma or the end of what is open; the end of the text when nothing is. -/
  | delimiter
  deriving DecidableEq, Repr

/-- How far reading has come. -/
structure State where
  frames : List Frame := []
  expected : Expected := .value
  /-- The value that was completed last. -/
  result : Value := .null

/-- How deeply lists and objects may be nested. -/
def maxDepth : Nat := 950

namespace State

/-- Opens a list or an object. -/
def enter (state : State) (frame : Frame) (expected : Expected) : Except Fault State :=
  if maxDepth ≤ state.frames.length then .error .nesting
  else .ok { state with frames := frame :: state.frames, expected }

/-- Takes in a complete value. -/
def complete (state : State) (value : Value) : State :=
  match state.frames with
  | [] => { state with expected := .delimiter, result := value }
  | .list items :: around =>
    { state with frames := .list (value :: items) :: around, expected := .delimiter }
  | .object members name :: around =>
    { state with
      frames := .object ((name, value) :: members) name :: around, expected := .delimiter }

/-- Closes the innermost list or object, when the bracket is the right one. -/
def close? (state : State) (bracket : Char) : Option State :=
  match state.frames, bracket with
  | .list items :: around, ']' =>
    some ({ state with frames := around }.complete (.list items.reverse))
  | .object members _ :: around, '\x7d' =>
    some ({ state with frames := around }.complete (.object members.reverse))
  | _, _ => none

/-- What a token at the place of a value does. -/
def takeValue (state : State) (misplaced : Fault) (faultAt : Text → Fault) :
    Token → Except Fault State
  | .mark '[' => state.enter (.list []) .firstItem
  | .mark '\x7b' => state.enter (.object [] none) .firstName
  | .mark _ => .error misplaced
  | .string (some text) => .ok (state.complete (.string text))
  | .string none => .ok (state.complete .brokenString)
  | .plain value => .ok (state.complete value)
  | .longNumber => .error .longNumber
  | .fault place => .error (faultAt place)

/-- Takes in a token. `misplaced` is the fault when it does not belong here, and
`faultAt` the one at a place inside it. -/
def step (state : State) (misplaced : Fault) (faultAt : Text → Fault) (token : Token) :
    Except Fault State :=
  match state.expected, token with
  | .firstItem, .mark ']' => (state.close? ']').elim (.error misplaced) .ok
  | .value, token | .firstItem, token => state.takeValue misplaced faultAt token
  | .firstName, .mark '\x7d' => (state.close? '\x7d').elim (.error misplaced) .ok
  | .name, .string name | .firstName, .string name =>
    match state.frames with
    | .object members _ :: around =>
      .ok { state with frames := .object members name :: around, expected := .colon }
    | _ => .error misplaced
  | .name, .fault place | .firstName, .fault place => .error (faultAt place)
  | .colon, .mark ':' => .ok { state with expected := .value }
  | .delimiter, .mark ',' =>
    match state.frames with
    | .list _ :: _ => .ok { state with expected := .value }
    | .object .. :: _ => .ok { state with expected := .name }
    | [] => .error misplaced
  | .delimiter, .mark bracket => (state.close? bracket).elim (.error misplaced) .ok
  | _, _ => .error misplaced

end State

/-- Reads a text as JSON. -/
def read (text : Text) : Except Fault Value := do
  let length := text.length
  let faultAt (place : Text) : Fault := .malformed (length - place.length)
  let state ← (Token.readAll text).foldlM
    (fun state (start, token) => state.step (faultAt start) faultAt token) ({} : State)
  if state.expected = .delimiter && state.frames.isEmpty then .ok state.result
  else .error (.malformed length)

end DekiMigration.Json
