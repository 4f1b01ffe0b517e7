/-
# The command

The real disk is looked at as far as a run depends on it: the settings file, the way
to the export and the way to the output directory. The run itself is computed. What it
has told is printed, and what it has left on the disk is made there.
-/

import DekiMigration.Program

namespace DekiMigration.Command

open Text

/-- What is at a place of the real disk. -/
def look (place : Place) : IO (Option Entry) := do
  try
    let contents ← IO.FS.readBinFile (String.ofList (Place.toText place))
    return some (.file (ofOctets contents.toList))
  catch
    | .noFileOrDirectory .. => return none
    | _ => return some .directory

/-- A disk with what is found along the way to a place. -/
def lookAlong (disk : Disk) (place : Place) : IO Disk :=
  (List.range place.length).foldlM (fun disk count => do
    let reached := place.take (count + 1)
    match ← look reached with
    | some entry => return disk.put reached entry
    | none => return disk) disk

/-- Makes what is on a disk and was not there before. -/
def makeReal (before after : Disk) : IO Unit :=
  after.entries.forM fun (place, entry) => do
    if before.find? place != some entry then
      let path := String.ofList (Place.toText place)
      match entry with
      | .directory => IO.FS.createDirAll path
      | .file contents => IO.FS.writeFile path (String.ofList contents)

/-- The variables of the environment that are settings. -/
def environment : IO (List (Text × Text)) := do
  let found ← Settings.names.mapM fun name => do
    let spelling := upper (Settings.variablePrefix ++ name)
    let value ← IO.getEnv (String.ofList spelling)
    return value.map fun value => (spelling, value.toList)
  return found.filterMap id

/-- Where the program runs. -/
def surroundings : IO Program.Surroundings := do
  let here := (Path.ofText (← IO.currentDir).toString.toList).names
  let home := (← IO.getEnv "HOME").map fun home => (Path.ofText home.toList).names
  return ⟨← environment, ⟨home.getD here, here⟩⟩

/-- The disk as far as a run depends on it. -/
def relevantDisk (surroundings : Program.Surroundings) (words : List Text) : IO Disk := do
  let whereabouts := surroundings.whereabouts
  let disk ← lookAlong {} (whereabouts.here ++ [Program.settingsFileName])
  match CommandLine.read words with
  | .error _ => return disk
  | .ok options =>
    let disk ← match (Path.ofText options.source).start? whereabouts with
      | some (start, names) => lookAlong disk (Path.follow start names)
      | none => pure disk
    match Program.prepare surroundings disk words with
    | .ok task => lookAlong disk (Path.follow task.output.1 task.output.2)
    | .error _ => return disk

/-- Runs the program and gives its status. -/
def run (arguments : List String) : IO UInt32 := do
  let words := arguments.map String.toList
  let surroundings ← surroundings
  let disk ← relevantDisk surroundings words
  let run := Program.run surroundings disk words
  (← IO.getStdout).putStr (String.ofList run.output)
  (← IO.getStderr).putStr (String.ofList run.log)
  makeReal disk run.disk
  match run.ending with
  | .exit status => return UInt32.ofNat status
  | .failure _ => return 1

end DekiMigration.Command

def main (arguments : List String) : IO UInt32 :=
  DekiMigration.Command.run arguments
