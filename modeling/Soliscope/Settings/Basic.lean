/-! # Settings

What the application can be set to, with the values it has unless told otherwise.
-/

namespace Soliscope

/-- The settings of the application.  Times are in seconds. -/
structure Settings where
  appEnv : String := "development"
  appDebug : Bool := false
  logLevel : String := "INFO"
  solcBinary : String := "solc"
  solcTimeout : Float := 60
  submitTimeout : Float := 30
  statusTimeout : Float := 10
  sourceTimeout : Float := 10
  corsOrigins : List String := ["http://localhost:3000"]

/-- The settings without any instruction. -/
def Settings.standard : Settings := {}

/-- The application is in production. -/
def Settings.isProduction (settings : Settings) : Bool :=
  settings.appEnv == "production"

end Soliscope
