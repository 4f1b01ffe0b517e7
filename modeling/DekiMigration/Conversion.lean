/-
# Converting an export

The pages of an export are migrated one after the other, each with the catalog of
all templates of the export. Pages without counterpart are left out unless they are
asked for. Each page goes into a file of its own, named after its title, and calls
that no template answers are listed in a report. A dry run tells about the pages and
writes nothing.
-/

import DekiMigration.Disk
import DekiMigration.Page

namespace DekiMigration.Conversion

open Text

/-- How a conversion goes about its work. -/
structure Manner where
  projectPrefix : Text
  includeIgnored : Bool := false
  dryRun : Bool := false
  /-- The level from which on notices are shown. -/
  threshold : Int

/-- The name of the file of a page. Titles may hold slashes, names may not. -/
def fileName (title : Text) : Text :=
  title.flatMap (fun c => if c = '/' then "%2F".toList else [c]) ++ ".txt".toList

/-- The name of the report. -/
def reportName : Text := "magic_words.txt".toList

/-- The pages that a limit selects: so many from the front, or all but so many from
the end when it is negative. -/
def select (limit : Option Int) (pages : List SourcePage) : List SourcePage :=
  match limit with
  | none => pages
  | some (.ofNat count) => pages.take count
  | some (.negSucc count) => pages.take (pages.length - (count + 1))

/-- The report on the unresolved calls of pages: a line for each. -/
def report (pages : List MigratedPage) : Text :=
  pages.flatMap fun page =>
    page.magicWords.flatMap fun name => page.title ++ ": ".toList ++ name ++ ['\n']

/-- What a dry run tells about a page. -/
def mention (page : MigratedPage) : Text :=
  "  [".toList ++ page.space.label ++ "] ".toList ++ quoted page.title ++ "  (".toList ++
    ofNat page.magicWords.length ++ " unresolved magic words)\n".toList

/-- What has come of a conversion. -/
structure Result where
  /-- The converted pages, in order. -/
  converted : List MigratedPage := []
  ignored : Nat := 0
  output : Text := []
  log : Text := []
  disk : Disk
  /-- Why the conversion ended before its last page, if it did. -/
  problem : Option Disk.Refusal := none

/-- Converts pages one after the other, up to the first that cannot be written. -/
def run (manner : Manner) (catalog : Template.Catalog) (directory : Place) :
    List SourcePage → Disk → Result
  | [], disk => { disk }
  | page :: later, disk =>
    let migrated := page.migrate catalog manner.projectPrefix
    let log := logLines manner.threshold (page.notices migrated)
    if migrated.isIgnored && !manner.includeIgnored then
      let rest := run manner catalog directory later disk
      { rest with ignored := rest.ignored + 1, log := log ++ rest.log }
    else if manner.dryRun then
      let rest := run manner catalog directory later disk
      { rest with
        converted := migrated :: rest.converted
        output := mention migrated ++ rest.output
        log := log ++ rest.log }
    else
      match disk.write directory (fileName migrated.title) migrated.text with
      | .ok disk =>
        let rest := run manner catalog directory later disk
        { rest with converted := migrated :: rest.converted, log := log ++ rest.log }
      | .error problem => { log, disk, problem := some problem }

/-- How many unresolved calls there are on the converted pages. -/
def Result.unresolved (result : Result) : Nat :=
  (result.converted.flatMap (·.magicWords)).length

/-- The last lines of a conversion. -/
def Result.summary (result : Result) (dryRun : Bool) : Text :=
  '\n' :: (if dryRun then "[DRY RUN] ".toList else []) ++ "Conversion complete: ".toList ++
    ofNat result.converted.length ++ " converted, ".toList ++
    ofNat result.ignored ++ " ignored, 0 errors, ".toList ++
    ofNat result.unresolved ++ " unresolved magic words.\n".toList

end DekiMigration.Conversion
