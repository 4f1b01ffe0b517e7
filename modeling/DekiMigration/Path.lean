/-
# Paths

A path is a sequence of names, counted from the root or from wherever it is read.
Repeated slashes, slashes at the end and names that stand for the directory itself
leave no trace; names that stand for the directory above are kept, since what they
lead to depends on what is there. Exactly two slashes in front are a root of their
own.
-/

import DekiMigration.Text

namespace DekiMigration

open Text

/-- A path. -/
structure Path where
  root : Text
  names : List Text
  deriving DecidableEq, Repr

namespace Path

/-- The name of the directory itself. -/
def here : Text := ['.']

/-- The name of the directory above. -/
def above : Text := ['.', '.']

/-- The path that a text writes. -/
def ofText (text : Text) : Path where
  root := match text.takeWhile (· = '/') with
    | [] => []
    | ['/', '/'] => ['/', '/']
    | _ => ['/']
  names := (text.splitOn '/').filter fun name => !name.isEmpty && name != here

/-- How a path is written. -/
def toText (path : Path) : Text :=
  if path.root.isEmpty && path.names.isEmpty then here
  else path.root ++ List.intercalate ['/'] path.names

/-- Whether a path is counted from the root. -/
def isAbsolute (path : Path) : Bool :=
  !path.root.isEmpty

end Path

end DekiMigration
