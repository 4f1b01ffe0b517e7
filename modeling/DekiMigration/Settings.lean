/-
# Settings

Every setting has a default. The environment and a settings file may set it, under
its name with a common word in front and in any case; what the environment says
counts. Settings that are not acceptable are all reported at once. A list that is
not written in JSON at all is not looked at any further.
-/

import DekiMigration.Json.Reader
import DekiMigration.Namespace
import DekiMigration.Path
import DekiMigration.Settings.File
import DekiMigration.Validation
import DekiMigration.Verbosity

namespace DekiMigration

open Text Validation

/-- The version of the program. -/
def version : Text := "0.3.0".toList

/-- The settings of the program. -/
structure Settings where
  appName : Text := "mw2deki".toList
  appVersion : Text := version
  debug : Bool := false
  environment : Text := "development".toList
  logLevel : Text := "INFO".toList
  databaseUrl : Text := "sqlite+aiosqlite:///./mediawiki.db".toList
  databaseEcho : Bool := false
  poolSize : Int := 5
  poolOverflow : Int := 10
  projectPrefix : Text := Namespace.defaultProjectPrefix
  outputDirectory : Path := .ofText "./converted".toList
  /-- The sites whose pages may use the service. -/
  origins : List Text := ["http://localhost:8000".toList, "http://localhost:3000".toList]
  deriving DecidableEq, Repr

namespace Settings

/-- Why there are no settings. -/
inductive Problem where
  /-- Some settings are not acceptable. -/
  | invalid (defects : List Defect)
  /-- A list is not written in JSON. -/
  | unreadable
  deriving DecidableEq, Repr

/-- The environments that the program runs in. -/
def environments : List Text :=
  ["development".toList, "testing".toList, "production".toList]

/-- What the names of settings have in front. -/
def variablePrefix : Text := "mw2deki_".toList

/-- The names of the settings. -/
def names : List Text :=
  ["app_name", "app_version", "debug", "environment", "log_level", "database_url", "db_echo",
    "db_pool_size", "db_max_overflow", "project_title_prefix", "output_dir",
    "cors_origins"].map String.toList

/-- What is set under a name by a source; of two spellings of a name the last
counts. -/
def set? (source : List (Text × Option Text)) (name : Text) : Option Text :=
  let known := source.map fun (spelling, value) => (lower spelling, value)
  (known.reverse.lookup (variablePrefix ++ name)).join

/-- What a source says on a setting that is a list: nothing, or a JSON value. -/
def listed? (source : List (Text × Option Text)) (name : Text) :
    Except Problem (Option Json.Value) :=
  match set? source name with
  | none => .ok none
  | some written =>
    match Json.read written with
    | .ok .null => .ok none
    | .ok value => .ok (some value)
    | .error _ => .error .unreadable

/-- The defects of a JSON value that is to be a list of texts. -/
def listDefects (place : Text) : Json.Value → List Defect
  | .list items =>
    items.zipIdx.filterMap fun (item, index) =>
      match item with
      | .string _ => none
      | .brokenString => some ⟨[place, ofNat index], .brokenString⟩
      | _ => some ⟨[place, ofNat index], .notString⟩
  | _ => [⟨[place], .notList⟩]

/-- The texts in a JSON value that is a list. -/
def listTexts : Json.Value → List Text
  | .list items => items.filterMap fun | .string text => some text | _ => none
  | _ => []

/-- The value of a setting and its defects. -/
structure Field (α : Type) where
  value : α
  defects : List Defect := []

/-- A setting that is read from a text, with its default. -/
def Field.ofText (place : Text) (read : Text → Except Complaint α) (default : α) :
    Option Text → Field α
  | none => ⟨default, []⟩
  | some text =>
    match read text with
    | .ok value => ⟨value, []⟩
    | .error complaint => ⟨default, [⟨[place], complaint⟩]⟩

/-- The settings that an environment and the text of a settings file give. -/
def read (environment : List (Text × Text)) (file : Text) : Except Problem Settings := do
  let outside := environment.map fun (name, value) => (name, some value)
  let assigned := File.read environment (joinLineEnds file)
  let value? (name : Text) : Option Text :=
    (set? outside name).orElse fun _ => set? assigned name
  let field {α : Type} (name : String) (read : Text → Except Complaint α) (default : α) :
      Field α :=
    .ofText name.toList read default (value? name.toList)
  let text (name : String) (default : Text) : Text := (field name .ok default).value
  let originsName := "cors_origins".toList
  let fromEnvironment ← listed? outside originsName
  let fromFile ← listed? assigned originsName
  let origins := fromEnvironment.orElse fun _ => fromFile
  let debug := field "debug" truth false
  let environmentName := field "environment"
    (fun name => if environments.contains name then .ok name else .error .notOffered)
    "development".toList
  let echo := field "db_echo" truth false
  let size := field "db_pool_size" wholeNumber 5
  let overflow := field "db_max_overflow" wholeNumber 10
  let defects := debug.defects ++ environmentName.defects ++ echo.defects ++ size.defects ++
    overflow.defects ++ (origins.map (listDefects originsName)).getD []
  if !defects.isEmpty then .error (.invalid defects)
  let defaults : Settings := {}
  return {
    appName := text "app_name" defaults.appName
    appVersion := text "app_version" defaults.appVersion
    debug := debug.value
    environment := environmentName.value
    logLevel := text "log_level" defaults.logLevel
    databaseUrl := text "database_url" defaults.databaseUrl
    databaseEcho := echo.value
    poolSize := size.value
    poolOverflow := overflow.value
    projectPrefix := text "project_title_prefix" defaults.projectPrefix
    outputDirectory := (field "output_dir" (.ok ∘ Path.ofText) defaults.outputDirectory).value
    origins := (origins.map listTexts).getD defaults.origins }

/-- The verbosity that the settings ask for. -/
def verbosity (settings : Settings) : Int :=
  Verbosity.ofName settings.logLevel

/-- The verbosity of the service: everything is told while debugging. -/
def serviceVerbosity (settings : Settings) : Int :=
  if settings.debug then Verbosity.debug else settings.verbosity

end Settings

end DekiMigration
