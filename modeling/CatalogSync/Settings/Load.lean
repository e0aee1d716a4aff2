import CatalogSync.Settings.Coercion
import CatalogSync.Settings.Validation
import CatalogSync.Settings.Variables
import CatalogSync.Toml.Reader

/-!
# Loading settings

Settings are put together from layers: what is built in, the user's settings file, the file named
on the command line, and environment variables, each over the ones before. The result is coerced
to the types of the settings and validated; a log level from the command line comes last.
-/

namespace CatalogSync

inductive SettingsFormat where
  | json
  | toml
  deriving DecidableEq, Repr

/-- A settings file as it is found. -/
structure SettingsFile where
  format : SettingsFormat
  text : String

/-- A whole number that does not fit 64 bits with a sign counts as a decimal in a layer. -/
def layerNumber : Json → Json
  | .int n => if Variables.fitsInt64 n then .int n else .float (Float.ofInt n)
  | j => j

mutual

/-- `layerNumber` at every place of a tree. -/
def layerNumbers : Json → Json
  | .arr items => .arr (layerNumbersOfItems items)
  | .obj members => .obj (layerNumbersOfMembers members)
  | j => layerNumber j

def layerNumbersOfItems : List Json → List Json
  | [] => []
  | j :: rest => layerNumbers j :: layerNumbersOfItems rest

def layerNumbersOfMembers : List (String × Json) → List (String × Json)
  | [] => []
  | (name, j) :: rest => (name, layerNumbers j) :: layerNumbersOfMembers rest

end

/-- A text without the mark that some editors put in front. A JSON file may not have it. -/
def withoutMark (text : String) : String :=
  match text.toList with
  | '\ufeff' :: rest => String.ofList rest
  | _ => text

/-- The layer of a file, which has to hold a table. -/
def SettingsFile.layer? (f : SettingsFile) : Option (List (String × Json)) := do
  let tree ← match f.format with
    | .json => Json.parse? f.text
    | .toml => Toml.parse? (withoutMark f.text)
  match layerNumbers tree with
  | .obj members => some members
  | _ => none

/-- Where the settings of a process come from. -/
structure SettingsSources where
  /-- The user's settings file, if there is one. -/
  defaultFile : Option SettingsFile
  /-- Whether a file is named on the command line; the file itself may be missing. -/
  namedFile : Option (Option SettingsFile)
  environment : List (String × String)
  logLevel : Option String

/-- The lowest layer. It agrees with the defaults of the settings. -/
def builtInLayer (dirs : UserDirs) : List (String × Json) :=
  let d := Settings.standard dirs
  [("log_level", .str d.logLevel), ("source.batch_size", .int d.source.batchSize),
    ("destination.batch_size", .int d.destination.batchSize),
    ("scheduler.sleep_secs", .int d.scheduler.sleepSecs),
    ("state.cursor_file", .str d.state.cursorFile)]

namespace SettingsSources

/-- The layer of a file that may be absent. -/
def fileLayer : Option SettingsFile → Except SettingsError (List (String × Json))
  | none => .ok []
  | some file =>
    match file.layer? with
    | some layer => .ok layer
    | none => .error .load

/-- Every layer, the lowest first. -/
def layers (s : SettingsSources) (dirs : UserDirs) :
    Except SettingsError (List (List (String × Json))) := do
  let user ← fileLayer s.defaultFile
  let named ← match s.namedFile with
    | none => .ok []
    | some none => .error .load
    | some (some file) => fileLayer (some file)
  .ok [builtInLayer dirs, user, named, Variables.layer s.environment]

/-- The settings that a tree of layers makes. -/
def ofTree (dirs : UserDirs) (tree : Json) : Except SettingsError Settings :=
  match Coerced.reading.settings dirs tree with
  | .ok s => .ok s
  | .error _ => .error .load

/-- The settings to start with. -/
def load (s : SettingsSources) (dirs : UserDirs) : Except SettingsError Settings := do
  let settings ← ofTree dirs (SettingsTree.ofLayers (← s.layers dirs))
  settings.validate
  match s.logLevel with
  | some level => .ok { settings with logLevel := level }
  | none => .ok settings

end SettingsSources

end CatalogSync
