import QueryLoom.Files
import QueryLoom.Settings.Expansion
import QueryLoom.Settings.Reading

/-!
# Finding settings

1. `Settings.ofFile` reads settings from a file.
2. `Settings.load` looks for them in order: in the file that a variable names, in the current
   directory, in the user's configuration directory. Without any file the defaults hold.
-/

namespace QueryLoom

/-- Why there are no settings, or no path to the store. -/
inductive SettingsError where
  | fileNotFound (path : String)
  | unreadable (reason : String)
  | malformed
  | missingVariable (name : String)
deriving DecidableEq, Repr

def SettingsError.message : SettingsError → String
  | .fileNotFound path => "Config file not found: " ++ path
  | .unreadable reason => "Failed to read config file: " ++ reason
  | .malformed => "Failed to parse config file: not a description of settings"
  | .missingVariable name => "Missing environment variable: " ++ name

/-- Why a directory cannot be read as a text. -/
def isDirectoryReason : String := "Is a directory (os error 21)"

/-- Why a file that is not text cannot be read as one. -/
def notTextReason : String := "stream did not contain valid UTF-8"

/-- The path of the store with the values of variables in it. -/
def StoreSettings.resolvedPath (s : StoreSettings) (env : Environment) :
    Except SettingsError String :=
  (expand env s.path).mapError .missingVariable

namespace Settings

/-- The settings in what stands at a path. -/
def ofNode (path : String) : Option FileNode → Except SettingsError Settings
  | none => .error (.fileNotFound path)
  | some .directory => .error (.unreadable isDirectoryReason)
  | some (.database _) | some .binary => .error (.unreadable notTextReason)
  | some (.text s) => (ofText? s).elim (.error .malformed) .ok

/-- The settings in a file. -/
def ofFile (path : String) : Errand (Except SettingsError Settings) := do
  return ofNode path (← Errand.lookAt path)

/-- The variable that names a settings file. -/
def fileVariable : String := "MODELSQL_CONFIG"

/-- The variable that names the user's configuration directory, as a path from the root. -/
def directoryVariable : String := "XDG_CONFIG_HOME"

/-- The variable that names the user's home directory. -/
def homeVariable : String := "HOME"

/-- The settings file in the current directory. -/
def localFile : String := "modelsql.toml"

/-- One path below another. -/
def below (directory name : String) : String :=
  if directory.toList.getLast? = some '/' then directory ++ name else directory ++ "/" ++ name

/-- The user's configuration directory. -/
def userDirectory? (env : Environment) : Option String :=
  match (env directoryVariable).filter fun d => d.toList.head? = some '/' with
  | some d => some d
  | none => ((env homeVariable).filter (· ≠ "")).map (below · ".config")

/-- The user's settings file. -/
def userFile? (env : Environment) : Option String :=
  (userDirectory? env).map fun d => below (below d "modelsql") "config.toml"

/-- The settings in the first file that is there, or the defaults. -/
def firstOf : List String → Errand (Except SettingsError Settings)
  | [] => .done (.ok {})
  | path :: paths => do
    match ← Errand.lookAt path with
    | none => firstOf paths
    | node => return ofNode path node

/-- The settings of the program. -/
def load : Errand (Except SettingsError Settings) := do
  let env ← Errand.valuesOf [fileVariable, directoryVariable, homeVariable]
  match env fileVariable with
  | some path => ofFile path
  | none => firstOf (localFile :: (userFile? env).toList)

end Settings

end QueryLoom
