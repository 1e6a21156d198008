import Soliscope.Json.Reader
import Soliscope.Schema.Field
import Soliscope.Settings.Basic
import Soliscope.Settings.EnvFile
import Soliscope.Settings.Verbosity
import Soliscope.Text.Lower

/-! # Loading settings

A setting is looked for in the arguments of the program, then in the environment, then in the
environment file.  Names are compared without regard to case.  Unknown names are refused, except in
the environment.
-/

namespace Soliscope.Settings

open Soliscope.Schema

/-- Where settings come from. -/
structure Sources where
  arguments : Fields := []
  environment : List (String × String) := []
  envFile : String := ""

/-- A source in which a list is written as JSON. -/
inductive TextSource where
  | environment
  | envFile
  deriving DecidableEq, Repr

/-- The name of a source in messages. -/
def TextSource.name : TextSource → String
  | .environment => "EnvSettingsSource"
  | .envFile => "DotEnvSettingsSource"

/-- Why settings cannot be loaded. -/
inductive LoadError where
  /-- The list of origins in a source is no JSON. -/
  | unreadableOrigins (source : TextSource)
  /-- The list of origins has too many containers in each other. -/
  | deepOrigins (container : Json.Container)
  | refused (issues : List Issue)
  deriving DecidableEq, Repr

/-- The setting that holds a list. -/
def originsName : String := "cors_origins"

/-- The names of all settings. -/
def names : List String :=
  ["app_env", "app_debug", "log_level", "solc_binary", "solc_timeout_seconds",
    "verification_submit_timeout", "verification_status_timeout", "verification_source_timeout",
    originsName]

/-- Text values by lower-case name.  Of values under one name, and then of names that differ in
case, the last counts, at the place of the first. -/
def lowered (values : List (String × Option String)) : List (String × Option String) :=
  Json.fieldsOf ((Json.fieldsOf values).map fun entry => (Text.lower entry.1, entry.2))

/-- The arguments that set settings, under the names of the settings.  Of several for one setting
the first counts. -/
def settingArguments (arguments : Fields) : Fields :=
  names.filterMap fun name =>
    (arguments.find? fun entry => Text.lower entry.1 == name).map fun entry => (name, entry.2)

/-- The value of a setting in text, if it is set: the list is read as JSON, where null leaves it
unset, and everything else is a text. -/
def textSetting (source : TextSource) (name text : String) : Except LoadError (Option Json) :=
  if name == originsName then
    match Json.read text with
    | .ok .null => .ok none
    | .ok value => .ok (some value)
    | .error (.tooDeep container) => .error (.deepOrigins container)
    | .error _ => .error (.unreadableOrigins source)
  else .ok (some (.str text))

/-- The settings that a source sets. -/
def settingsOf (source : TextSource) (values : List (String × Option String)) :
    Except LoadError Fields := do
  let found ← names.mapM fun name =>
    match (values.lookup name).join with
    | some text => return (← textSetting source name text).map fun value => (name, value)
    | none => return none
  pure (found.filterMap id)

/-- The names in an environment file that are no settings.  Names without a value do not count. -/
def unknownInFile (values : List (String × Option String)) : List String :=
  (values.filter fun entry =>
    (entry.2.getD "") != "" && !names.contains entry.1).map Prod.fst

/-- The names of arguments that are no settings, in their own spelling. -/
def unknownArguments (arguments : Fields) : List String :=
  (arguments.filter fun entry => !names.contains (Text.lower entry.1)).map Prod.fst

/-- Read a log level: its name in upper case. -/
def readLogLevel (value : Json) : Validation String :=
  (text value).andThen fun name =>
    match Verbosity.accepted? name with
    | some level => .accepted level
    | none => .flawed (.refused ("Unknown log level: " ++ name))

/-- Read settings from fields; what is missing has its standard value. -/
def read (fields : Fields) : Validation Settings :=
  Settings.mk <$> defaulted "app_env" standard.appEnv text fields <*>
    defaulted "app_debug" standard.appDebug truth fields <*>
    defaulted "log_level" standard.logLevel readLogLevel fields <*>
    defaulted "solc_binary" standard.solcBinary text fields <*>
    defaulted "solc_timeout_seconds" standard.solcTimeout number fields <*>
    defaulted "verification_submit_timeout" standard.submitTimeout number fields <*>
    defaulted "verification_status_timeout" standard.statusTimeout number fields <*>
    defaulted "verification_source_timeout" standard.sourceTimeout number fields <*>
    defaulted originsName standard.corsOrigins (list text) fields

/-- The issues about unknown names. -/
def unknownNames (unknown : List String) : Validation Unit :=
  match unknown.map fun name => (⟨[.name name], .unknownField⟩ : Issue) with
  | [] => .accepted ()
  | issues => .refused issues

/-- Load settings. -/
def load (sources : Sources) : Except LoadError Settings := do
  let environment ←
    settingsOf .environment (lowered (sources.environment.map fun (name, value) =>
      (name, some value)))
  let inFile := lowered (EnvFile.parse sources.environment sources.envFile)
  let envFile ← settingsOf .envFile inFile
  let unknown := unknownInFile inFile
  let more := (unknownArguments sources.arguments).filter (!unknown.contains ·)
  let settings :=
    (fun settings _ => settings) <$>
      read (settingArguments sources.arguments ++ environment ++ envFile) <*>
      unknownNames (unknown ++ more)
  settings.toExcept.mapError .refused

/-- Settings as a document. -/
def toJson (settings : Settings) : Json :=
  .obj [
    ("app_env", .str settings.appEnv),
    ("app_debug", .bool settings.appDebug),
    ("log_level", .str settings.logLevel),
    ("solc_binary", .str settings.solcBinary),
    ("solc_timeout_seconds", .float settings.solcTimeout),
    ("verification_submit_timeout", .float settings.submitTimeout),
    ("verification_status_timeout", .float settings.statusTimeout),
    ("verification_source_timeout", .float settings.sourceTimeout),
    (originsName, Json.texts settings.corsOrigins)]

end Soliscope.Settings
