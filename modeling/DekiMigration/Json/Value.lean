/-
# JSON values

Requests and some settings are written in JSON. A string of JSON may hold half of a
surrogate pair and is then no text; such strings are kept apart, since nothing can
be done with them. Of two members of an object with one name the last counts.
-/

import DekiMigration.Text

namespace DekiMigration.Json

/-- A JSON value. -/
inductive Value where
  | null
  | bool (value : Bool)
  | integer (value : Int)
  /-- A number with a fraction or an exponent, or one that is not finite. -/
  | decimal (value : Float)
  | string (text : Text)
  /-- A string that is no text. -/
  | brokenString
  | list (items : List Value)
  /-- An object; a name that is no text is missing. -/
  | object (members : List (Option Text × Value))

namespace Value

/-- The member of an object with a given name. -/
def member? (members : List (Option Text × Value)) (name : Text) : Option Value :=
  members.reverse.lookup (some name)

/-- Whether a value can be written as JSON again: all its strings are texts and all
its numbers are finite. -/
def isWritable : Value → Bool
  | decimal value => value.isFinite
  | brokenString => false
  | list items => allItems items
  | object members => allMembers members
  | _ => true
where
  /-- Whether all items can be written. -/
  allItems : List Value → Bool
    | [] => true
    | item :: items => item.isWritable && allItems items
  /-- Whether all members can be written. -/
  allMembers : List (Option Text × Value) → Bool
    | [] => true
    | (name, value) :: members => name.isSome && value.isWritable && allMembers members

end Value

end DekiMigration.Json
