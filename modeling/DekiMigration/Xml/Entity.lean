/-
# Entities

An entity is a name for a text, its replacement. References to entities are
resolved where they stand: in contents the replacement is read as contents, in the
value of an attribute as part of the value. No entity may be referred to, directly
or through others, in its own replacement. An entity without declaration is an
error as well, unless some declarations are out of sight.
-/

import DekiMigration.Xml.Lexeme

namespace DekiMigration.Xml

open Text

/-- A piece of a quoted text. -/
inductive Piece where
  /-- A character written as it is. -/
  | plain (c : Char)
  /-- A character given by its code point. -/
  | given (c : Char)
  /-- A reference to an entity. -/
  | entity (name : Text)
  deriving DecidableEq, Repr

/-- Reads one piece of a quoted text. -/
def Piece.read? : Text → Option (Piece × Text)
  | '&' :: text => do
    match ← reference? text with
    | (.character c, rest) => some (.given c, rest)
    | (.entity name, rest) => some (.entity name, rest)
  | c :: text => if isAllowed c then some (.plain c, text) else none
  | [] => none

/-- The pieces of a quoted text. -/
def pieces? (text : Text) : Option (List Piece) :=
  all? Piece.read? text

/-- The replacement that a declaration writes between quotes: references to
characters are resolved and references to entities are kept. A percent sign would
begin a reference that is not allowed here. -/
def replacement? (written : Text) : Option Text := do
  let parts ← (← pieces? written).mapM fun
    | .plain c => if c = '%' then none else some [c]
    | .given c => some [c]
    | .entity name => some ('&' :: name ++ [';'])
  some parts.flatten

/-- The entities of a document. -/
structure Entities where
  /-- The declared entities; one that is kept outside the document has no
  replacement. -/
  declared : List (Text × Option Text) := []
  /-- Whether a reference to an entity without declaration is passed over in the
  value of an attribute. -/
  isLenient : Bool := false
  deriving Repr

namespace Entities

/-- What is declared under a name. -/
def find? (entities : Entities) (name : Text) : Option (Option Text) :=
  entities.declared.lookup name

/-- Declares an entity; of two declarations of one name the first counts. -/
def declare (entities : Entities) (name : Text) (replacement : Option Text) : Entities :=
  if (entities.find? name).isSome then entities
  else { entities with declared := entities.declared ++ [(name, replacement)] }

/-- The value that is written as `text`, in which the entities `underway` may not
be referred to. Each level of replacements adds an entity to them, so their
number bounds the levels. -/
def valueAt? (entities : Entities) :
    (levels : Nat) → (underway : List Text) → (text : Text) → Option Text
  | 0, _, _ => none
  | levels + 1, underway, text => do
    let parts ← (← pieces? text).mapM fun
      | .plain c => if c = '<' then none else some [if isSpace c then ' ' else c]
      | .given c => some [c]
      | .entity name =>
        match predefined? name with
        | some c => some [c]
        | none =>
          if underway.contains name then none
          else match entities.find? name with
            | some (some replacement) =>
              entities.valueAt? levels (name :: underway) replacement
            | some none => none
            | none => if entities.isLenient then some [] else none
    some parts.flatten

/-- The value that is written as `text` between the quotes of an attribute. -/
def value? (entities : Entities) (text : Text) : Option Text :=
  entities.valueAt? (entities.declared.length + 1) [] text

end Entities

end DekiMigration.Xml
