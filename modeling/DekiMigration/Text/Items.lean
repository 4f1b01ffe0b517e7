/-
# Reading item by item

A reader takes one item from the front of a text and gives the item and what
follows it, or nothing when the text does not begin with such an item. This module
repeats a reader for as long as it finds something, and finds the place where a
given mark comes next. The same goes for other sequences than texts.
-/

import DekiMigration.Text

namespace DekiMigration.Text

/-- The items at the front of a sequence, as many as there are, and what follows
the last one. Every item takes at least one member, so `fuel` is never used up
when it is the length of the sequence. -/
def manyFrom (item? : List β → Option (α × List β)) :
    (fuel : Nat) → List β → (done : List α) → List α × List β
  | 0, members, done => (done.reverse, members)
  | fuel + 1, members, done =>
    match item? members with
    | some (item, rest) => manyFrom item? fuel rest (item :: done)
    | none => (done.reverse, members)

/-- The items at the front of a sequence, as many as there are, and what follows
the last one. -/
def many (item? : List β → Option (α × List β)) (members : List β) : List α × List β :=
  manyFrom item? members.length members []

/-- The items that make up a sequence. -/
def all? (item? : List β → Option (α × List β)) (members : List β) : Option (List α) :=
  match many item? members with
  | (items, []) => some items
  | _ => none

/-- The text before the first `mark` and the text behind it; `passed` holds what
has been passed over, last character first. -/
def upTo? (mark : Text) : Text → (passed : Text := []) → Option (Text × Text)
  | [], _ => none
  | c :: rest, passed =>
    match dropLead? mark (c :: rest) with
    | some after => some (passed.reverse, after)
    | none => upTo? mark rest (c :: passed)

end DekiMigration.Text
