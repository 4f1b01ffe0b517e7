/-
# Verbosity

How much is written to the log is a level on a scale: notices below it are not
shown. Levels have names, which are read in any case. The level zero leaves the
decision to the surroundings, where the level of warnings holds.
-/

import DekiMigration.Text

namespace DekiMigration.Verbosity

open Text

/-- The level of routine information. -/
def info : Int := 20

/-- The level at which everything is told. -/
def debug : Int := 10

/-- The level that holds where none is set. -/
def surrounding : Int := 30

/-- The names of levels. -/
def names : List (Text × Int) :=
  [("CRITICAL".toList, 50), ("FATAL".toList, 50), ("ERROR".toList, 40), ("WARN".toList, 30),
    ("WARNING".toList, surrounding), ("INFO".toList, info), ("DEBUG".toList, debug),
    ("NOTSET".toList, 0)]

/-- A character in capitals, as far as capital letters of ASCII come of it; besides
the small letters of ASCII these are the dotless i and the long s. -/
def capital (c : Char) : Char :=
  if c = 'ı' then 'I' else if c = 'ſ' then 'S' else c.toUpper

/-- The level with a given name; routine information for a name that is not
known. -/
def ofName (name : Text) : Int :=
  (names.lookup (name.map capital)).getD info

/-- The level from which on notices are shown when a level is set. -/
def threshold (level : Int) : Int :=
  if level = 0 then surrounding else level

end DekiMigration.Verbosity
