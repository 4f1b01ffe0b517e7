/-
# Records of the wiki

The database of the wiki has a record for the current revision of every page. What a
record leaves open counts as empty: no title as the empty title, no user as the user
zero. Comments are octets that are read as UTF-8, or texts.
-/

import DekiMigration.Page
import DekiMigration.Text.Octets

namespace DekiMigration.Wiki

open Text

/-- The comment of a revision, as it is stored. -/
inductive Comment where
  | text (words : Text)
  | octets (bytes : List UInt8)
  deriving DecidableEq, Repr

/-- What a comment says. -/
def Comment.toText : Comment → Text
  | .text words => words
  | .octets bytes => ofOctets bytes

/-- The record of a page. -/
structure Record where
  id : Int
  namespaceNumber : Int := 0
  title : Option Text := some []
  text : Option Text := none
  comment : Option Comment := none
  user : Option Int := some 0
  touched : Option Text := some []
  timestamp : Option Text := some []
  deriving DecidableEq, Repr

/-- The page of a record. -/
def Record.page (record : Record) : SourcePage where
  id := record.id
  namespaceNumber := record.namespaceNumber
  title := record.title.getD []
  text := record.text
  comment := (record.comment.map Comment.toText).getD []
  user := record.user.getD 0
  touched := record.touched
  timestamp := record.timestamp

end DekiMigration.Wiki
