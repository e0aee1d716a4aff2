import CatalogSync.Settings.Load

/-!
# Finding settings files

The environment tells where a user's files are. A settings file is named with or without its
ending, which tells its format.
-/

namespace CatalogSync

/-- The directories that the environment names. Only absolute paths count. -/
def UserDirs.ofVariables (environment : List (String × String)) : UserDirs :=
  let usual := UserDirs.ofHome ((environment.lookup "HOME").getD "/")
  let named (name default : String) : String :=
    ((environment.lookup name).filter (·.startsWith "/")).getD default
  { usual with
    config := named "XDG_CONFIG_HOME" usual.config
    data := named "XDG_DATA_HOME" usual.data }

/-- The ending of the names of files in a format. -/
def SettingsFormat.ending : SettingsFormat → String
  | .json => ".json"
  | .toml => ".toml"

def SettingsFormat.all : List SettingsFormat := [.toml, .json]

/-- The file of a name, if it is there and its name has a known ending; else the first file whose
name is this name with an ending added. -/
def SettingsFile.find? (read : String → Option String) (name : String) : Option SettingsFile :=
  match read name with
  | some text =>
    (SettingsFormat.all.find? fun f => name.endsWith f.ending).map fun f => ⟨f, text⟩
  | none => SettingsFormat.all.findSome? fun f => (read (name ++ f.ending)).map (⟨f, ·⟩)

/-- The sources of a process that reads its files so. -/
def SettingsSources.find (read : String → Option String) (dirs : UserDirs)
    (environment : List (String × String)) (named logLevel : Option String) : SettingsSources where
  defaultFile := SettingsFile.find? read dirs.settingsFile
  namedFile := named.map (SettingsFile.find? read)
  environment := environment
  logLevel := logLevel

end CatalogSync
