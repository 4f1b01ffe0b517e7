/-
# The disk

As far as a conversion is concerned, a disk holds directories and text files, each
at a place that is given by the names leading to it from the root. Names have a
greatest length. Directories are made together with those around them, and a file
is written into a directory as a whole.
-/

import DekiMigration.Path
import DekiMigration.Text.Octets

namespace DekiMigration

open Text

/-- A place on the disk: the names that lead to it from the root. -/
abbrev Place := List Text

/-- How a place is written. -/
def Place.toText (place : Place) : Text :=
  (⟨['/'], place⟩ : Path).toText

/-- What may be found at a place. -/
inductive Entry where
  | directory
  | file (contents : Text)
  deriving DecidableEq, Repr

/-- A disk, as the entries below its root. -/
structure Disk where
  entries : List (Place × Entry) := []
  deriving DecidableEq, Repr

namespace Disk

/-- Why something cannot be done on the disk. -/
inductive Refusal where
  | nameTooLong
  /-- A file stands where a directory is to be. -/
  | fileExists
  /-- A file stands on the way to a place. -/
  | notDirectory
  /-- A directory stands where a file is to be. -/
  | isDirectory
  deriving DecidableEq, Repr

/-- How many octets a name may have. -/
def maxNameOctets : Nat := 255

/-- Whether a name is too long. -/
def isTooLong (name : Text) : Bool :=
  maxNameOctets < octetCount name

/-- What is at a place. -/
def find? (disk : Disk) (place : Place) : Option Entry :=
  if place.isEmpty then some .directory else disk.entries.lookup place

/-- The disk with another entry at a place. -/
def put (disk : Disk) (place : Place) (entry : Entry) : Disk where
  entries := disk.entries.filter (·.1 != place) ++ [(place, entry)]

/-- What the names `ahead` lead to from a place; nothing when something is missing
on the way. -/
def look (disk : Disk) (place : Place) : (ahead : List Text) → Except Refusal (Option Entry)
  | [] => .ok (disk.find? place)
  | name :: ahead =>
    if disk.find? place != some .directory then .ok none
    else if isTooLong name then .error .nameTooLong
    else disk.look (place ++ [name]) ahead

/-- Makes the directories that names lead to from a place, as far as they are
missing, and tells where they lead. A file that stands on the way is noticed as such
while nothing has been missing; from then on names are made one by one, and it is in
the way of the directory of its own name. -/
def makeDirectories (disk : Disk) (place : Place) :
    (ahead : List Text) → (missing : Bool := false) → Except Refusal (Disk × Place)
  | [], _ => .ok (disk, place)
  | name :: ahead, missing =>
    if name = Path.above then disk.makeDirectories place.dropLast ahead missing
    else if isTooLong name then .error .nameTooLong
    else
      let inner := place ++ [name]
      match disk.find? inner with
      | some .directory => disk.makeDirectories inner ahead missing
      | some (.file _) =>
        .error (if missing || ahead.isEmpty then .fileExists else .notDirectory)
      | none => (disk.put inner .directory).makeDirectories inner ahead true

/-- Writes a file into a directory. -/
def write (disk : Disk) (directory : Place) (name contents : Text) : Except Refusal Disk :=
  if isTooLong name then .error .nameTooLong
  else if disk.find? (directory ++ [name]) = some .directory then .error .isDirectory
  else .ok (disk.put (directory ++ [name]) (.file contents))

end Disk

/-- The place of the home directory and of the current one. -/
structure Whereabouts where
  home : Place
  here : Place

namespace Path

/-- The names that a path leads along and the place it starts from. The home
directory may be abbreviated by a tilde; other tildes lead nowhere. -/
def start? (path : Path) (whereabouts : Whereabouts) : Option (Place × List Text) :=
  if path.isAbsolute then some ([], path.names)
  else match path.names with
    | ('~' :: user) :: names => if user.isEmpty then some (whereabouts.home, names) else none
    | names => some (whereabouts.here, names)

/-- The place that names lead to from another one, whatever is there. -/
def follow (place : Place) (names : List Text) : Place :=
  names.foldl (fun place name =>
    if name = above then place.dropLast else place ++ [name]) place

end Path

end DekiMigration
