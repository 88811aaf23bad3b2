import QueryGate.File
import QueryGate.Decimal.Natural
import QueryGate.Json.Fault

/-!
# Errors in settings

Causes for which settings cannot be used, each with its wording.
-/

namespace QueryGate

/-- What is wrong with the value of a setting. -/
inductive SettingFault where
  | notNatural (fault : Decimal.NaturalFault)
  | notDecimal
  /-- A kind of model that does not exist. -/
  | unknownMode (given : String)
  /-- A schema without columns. -/
  | noColumns (path : String)
  /-- A filter for the log that cannot be read. -/
  | badFilter (filter : String)
  deriving DecidableEq, Repr

/-- The wording of a fault in a setting. -/
def SettingFault.message : SettingFault → String
  | notNatural fault => fault.message
  | notDecimal => "invalid float literal"
  | unknownMode given => "expected 'constrained' or 'freeform', got '" ++ given ++ "'"
  | noColumns path => "schema catalog " ++ path ++ " declares no columns"
  | badFilter filter => "invalid tracing filter '" ++ filter ++ "': invalid filter directive"

/-- What is wrong with the file of a setting. -/
inductive SettingFileFault where
  | unreadable (fault : FileFault)
  /-- The file is no description of a schema. -/
  | badSchema
  /-- The file holds no credentials. -/
  | badCredentials (fault : Json.PlacedFault)
  deriving DecidableEq, Repr

/-- The wording of a fault in a file. -/
def SettingFileFault.message : SettingFileFault → String
  | unreadable fault => fault.message
  | badSchema => "invalid schema catalog: not a schema in JSON"
  | badCredentials fault => fault.message

/-- A credential that is needed and not set. -/
inductive MissingSetting where
  | apiKey
  /-- Host or token of the engine, which the file at the path could give. -/
  | engine (path : String)
  deriving DecidableEq, Repr

/-- The wording of a missing credential. -/
def MissingSetting.message : MissingSetting → String
  | apiKey => "OPENAI_API_KEY is not set"
  | engine path => "Tinybird configuration not found. Set TINYBIRD_HOST and TINYBIRD_TOKEN, " ++
      "or provide " ++ path

/-- Why the settings cannot be used. -/
inductive SettingsError where
  | missing (what : MissingSetting)
  | invalid (key : String) (fault : SettingFault)
  | file (path : String) (fault : SettingFileFault)
  deriving DecidableEq, Repr

/-- The wording of an error. -/
def SettingsError.message : SettingsError → String
  | missing what => "Missing configuration: " ++ what.message
  | invalid key fault => "Invalid value for " ++ key ++ ": " ++ fault.message
  | file path fault => "Failed to read " ++ path ++ ": " ++ fault.message

end QueryGate
