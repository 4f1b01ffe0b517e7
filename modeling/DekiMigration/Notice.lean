/-
# Notices

While pages are read and migrated, some things are worth a line in the log. A
notice says which, its severity decides at which verbosity it is shown, and its
source names the part of the program that speaks.
-/

import DekiMigration.Text.Quoted

namespace DekiMigration

open Text

/-- Something to tell about a migration. -/
inductive Notice where
  /-- Calls in a page body that no known template answers. -/
  | unresolvedCalls (names : List Text)
  /-- The number of such calls on the page of a given title. -/
  | unresolvedOnPage (title : Text) (count : Nat)
  /-- A timestamp of a page that cannot be read. -/
  | unreadableTimestamp (timestamp : Text)
  /-- The time of a revision in an export that cannot be read. -/
  | unreadableRevision (timestamp : Text)
  deriving DecidableEq, Repr

/-- How urgent a notice is. -/
inductive Severity where
  | debug
  | info
  deriving DecidableEq, Repr

namespace Severity

/-- The place of a severity on the scale of verbosity levels. -/
def level : Severity → Int
  | debug => 10
  | info => 20

/-- The name of a severity, as wide as the longest usual one. -/
def label : Severity → Text
  | debug => "DEBUG  ".toList
  | info => "INFO   ".toList

end Severity

namespace Notice

/-- The severity of a notice. -/
def severity : Notice → Severity
  | unresolvedOnPage .. => .info
  | _ => .debug

/-- The part of the program that speaks. -/
def source : Notice → Text
  | unresolvedCalls .. => "mw2deki.services.transcoder".toList
  | unresolvedOnPage .. | unreadableTimestamp .. => "mw2deki.services.pages".toList
  | unreadableRevision .. => "mw2deki.services.export".toList

/-- What a notice says. -/
def message : Notice → Text
  | unresolvedCalls names =>
    ofNat names.length ++ " unresolved magic word(s): ".toList ++
      List.intercalate ", ".toList names
  | unresolvedOnPage title count =>
    "Page ".toList ++ quoted title ++ " has ".toList ++ ofNat count ++
      " unresolved magic word(s)".toList
  | unreadableTimestamp timestamp => "Unparseable timestamp ".toList ++ quoted timestamp
  | unreadableRevision timestamp =>
    "Unparseable revision timestamp ".toList ++ quoted timestamp

/-- A notice as a line of the log, without the time it was written at. -/
def line (notice : Notice) : Text :=
  notice.severity.label ++ ' ' :: notice.source ++ ": ".toList ++ notice.message ++ ['\n']

end Notice

/-- The lines of a log that shows the notices of at least a given level. -/
def logLines (level : Int) (notices : List Notice) : Text :=
  (notices.filter fun notice => level ≤ notice.severity.level).flatMap Notice.line

end DekiMigration
