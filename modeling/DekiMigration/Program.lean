/-
# The program

The command line says which export to convert and where to; the settings, which the
environment and a file beside the program give, say the rest. The program tells what
it does on its output, keeps a log, and leaves the pages on the disk. It ends with a
status, or by a failure.
-/

import DekiMigration.CommandLine
import DekiMigration.Conversion
import DekiMigration.Export
import DekiMigration.Settings

namespace DekiMigration.Program

open Text

/-- Why the program fails. -/
inductive Failure where
  | settings (problem : Settings.Problem)
  /-- A home directory that is not known. -/
  | noHome
  /-- The export is a directory. -/
  | sourceIsDirectory
  | unreadableExport (problem : Export.Problem)
  | disk (refusal : Disk.Refusal)
  deriving DecidableEq, Repr

/-- How the program ends. -/
inductive Ending where
  | exit (status : Nat)
  | failure (failure : Failure)
  deriving DecidableEq, Repr

/-- A run of the program: what it has told, and the disk it leaves. -/
structure Run where
  output : Text := []
  log : Text := []
  disk : Disk
  ending : Ending

/-- Where the program runs. -/
structure Surroundings where
  environment : List (Text × Text)
  whereabouts : Whereabouts

/-- The name of the settings file. -/
def settingsFileName : Text := ".env".toList

/-- The settings that hold where the program runs. -/
def Surroundings.settings (surroundings : Surroundings) (disk : Disk) :
    Except Settings.Problem Settings :=
  Settings.read surroundings.environment
    (match disk.find? (surroundings.whereabouts.here ++ [settingsFileName]) with
      | some (.file contents) => contents
      | _ => [])

/-- What a run has been asked to do. -/
structure Task where
  options : CommandLine.Options
  settings : Settings
  source : Place
  /-- Where the output directory is counted from, and the names that lead to it. -/
  output : Place × List Text

/-- The level from which on notices are shown. -/
def Task.threshold (task : Task) : Int :=
  Verbosity.threshold (if task.options.verbose then Verbosity.debug else task.settings.verbosity)

/-- How the conversion of a task goes about its work. -/
def Task.manner (task : Task) : Conversion.Manner where
  projectPrefix := task.settings.projectPrefix
  includeIgnored := task.options.includeIgnored
  dryRun := task.options.dryRun
  threshold := task.threshold

/-- Looks for the export. -/
def findSource (surroundings : Surroundings) (disk : Disk) (path : Text) : Except Run Place :=
  match (Path.ofText path).start? surroundings.whereabouts with
  | none => .error { disk, ending := .failure .noHome }
  | some (start, names) =>
    let source := Path.follow start names
    match disk.look [] source with
    | .ok (some _) => .ok source
    | .ok none =>
      let log := "Error: file not found: ".toList ++ Place.toText source ++ ['\n']
      .error { log, disk, ending := .exit 1 }
    | .error refusal => .error { disk, ending := .failure (.disk refusal) }

/-- Finds out what to do, unless the run ends before. The settings are not looked at
before they are needed. -/
def prepare (surroundings : Surroundings) (disk : Disk) (arguments : List Text) :
    Except Run Task :=
  match CommandLine.read arguments with
  | .error .help => .error { output := CommandLine.help, disk, ending := .exit 0 }
  | .error refusal => .error { log := refusal.report, disk, ending := .exit 2 }
  | .ok options => do
    let fail {α : Type} (failure : Failure) : Except Run α :=
      .error { disk, ending := .failure failure }
    let given := (surroundings.settings disk).mapError Failure.settings
    if !options.verbose then
      if let .error problem := given then fail problem
    let source ← findSource surroundings disk options.source
    let written := options.output.filter (!·.isEmpty)
    let output? ← match written with
      | some path =>
        match (Path.ofText path).start? surroundings.whereabouts with
        | some output => pure (some output)
        | none => fail .noHome
      | none => pure none
    match given with
    | .error problem => fail problem
    | .ok settings =>
      -- a directory from the settings is counted from here even behind a tilde
      let chosen := settings.outputDirectory
      let here := if chosen.isAbsolute then [] else surroundings.whereabouts.here
      return { options, settings, source, output := output?.getD (here, chosen.names) }

/-- The conversion of an export into a directory that a task asks for. All templates of the
export are known before the first page is converted, those of pages beyond the limit too. -/
def Task.conversion (task : Task) (found : Export) (directory : Place) (disk : Disk) :
    Conversion.Result :=
  Conversion.run task.manner found.catalog directory
    (Conversion.select task.options.limit found.pages) disk

/-- Converts the pages of an export and tells about it. -/
def convert (task : Task) (disk : Disk) (found : Export) (output log : Text) : Run :=
  let options := task.options
  let made := if options.dryRun then .ok (disk, [])
    else disk.makeDirectories task.output.1 task.output.2
  match made with
  | .error refusal => { output, log, disk, ending := .failure (.disk refusal) }
  | .ok (disk, directory) =>
    let result := task.conversion found directory disk
    let output := output ++ result.output
    let log := log ++ result.log
    let fail (refusal : Disk.Refusal) : Run :=
      { output, log, disk := result.disk, ending := .failure (.disk refusal) }
    let finish (disk : Disk) : Run :=
      { output := output ++ result.summary options.dryRun, log, disk, ending := .exit 0 }
    match result.problem with
    | some refusal => fail refusal
    | none =>
      if options.dryRun then finish result.disk
      else match result.disk.write directory Conversion.reportName
          (Conversion.report result.converted) with
        | .ok disk => finish disk
        | .error refusal => fail refusal

/-- Reads the export of a task and converts it. -/
def perform (task : Task) (disk : Disk) : Run :=
  let output := "Parsing ".toList ++ Place.toText task.source ++ " …\n".toList
  match disk.find? task.source with
  | some (.file contents) =>
    let found := Export.read contents
    let log := logLines task.threshold found.notices
    match found.problem with
    | some problem => { output, log, disk, ending := .failure (.unreadableExport problem) }
    | none =>
      let output := output ++ "Found ".toList ++ ofNat found.pages.length ++
        " pages in export.\nKnown templates: ".toList ++ ofNat found.catalog.size ++ ['\n']
      convert task disk found output log
  | _ => { output, disk, ending := .failure .sourceIsDirectory }

/-- Runs the program. -/
def run (surroundings : Surroundings) (disk : Disk) (arguments : List Text) : Run :=
  match prepare surroundings disk arguments with
  | .error ended => ended
  | .ok task => perform task disk

end DekiMigration.Program
