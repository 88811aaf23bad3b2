import QueryGate.Settings.Error
import QueryGate.Settings.Credentials
import QueryGate.Text.WhiteSpace

/-!
# Settings

Settings come from variables; a blank one counts as not set. The credentials of the engine can
also stand in a file, which is read only if a variable for them is missing. Credentials that
nothing gives are reported when they are asked for (`Settings.model`, `Settings.engine`); a value
that cannot be read fails the whole (`Settings.load`).
-/

namespace QueryGate

/-- How a model is asked for a query. -/
inductive ModelKind where
  /-- With the grammar as the format of its answer. -/
  | constrained
  /-- In a chat, with the prompt alone. -/
  | freeform
  deriving DecidableEq, Repr

/-- The name of a kind. -/
def ModelKind.name : ModelKind → String
  | constrained => "constrained"
  | freeform => "freeform"

/-- The model that is asked unless one is named. -/
def ModelKind.defaultModel : ModelKind → String
  | constrained => "gpt-5.1"
  | freeform => "gpt-4o-mini"

/-- How to reach the model. -/
structure ModelSettings where
  kind : ModelKind
  apiKey : String
  baseUrl : String
  model : String
  /-- A word of `binary32`, if the model is to be told. -/
  temperature : Option Nat
  /-- Seconds. -/
  timeout : Nat
  deriving DecidableEq, Repr

/-- How to reach the engine. -/
structure EngineSettings where
  host : String
  token : String
  /-- Seconds. -/
  timeout : Nat
  deriving DecidableEq, Repr

/-- All settings. -/
structure Settings where
  grammarPath : String
  grammarRoot : String
  schemaPath : Option String
  serverAddress : String
  queryLogPath : Option String
  logLevel : String
  model : Except MissingSetting ModelSettings
  engine : Except MissingSetting EngineSettings

namespace Settings

/-- Gives the values of variables. -/
abbrev Lookup := String → Option String

/-- The variables that settings come from. -/
def variableNames : List String :=
  ["GRAMMAR_PATH", "GRAMMAR_ROOT", "SCHEMA_PATH", "SERVER_ADDR", "QUERY_LOG_PATH", "LOG_LEVEL",
    "OPENAI_API_KEY", "OPENAI_BASE_URL", "OPENAI_MODEL", "OPENAI_TEMPERATURE", "GENERATION_MODE",
    "GENERATION_TIMEOUT_SECS", "TINYBIRD_HOST", "TINYBIRD_TOKEN", "EXECUTION_TIMEOUT_SECS"]

/-- The file of the credentials. -/
def credentialsPath : String := ".tinyb"

/-- The grammar that is read unless another is named. -/
def defaultGrammarPath : String := "grammar/clickhouse_sql.lark"

/-- The address of the model unless another is given. -/
def defaultBaseUrl : String := "https://api.openai.com/v1"

/-- The temperature unless another is given : one tenth, as a word of `binary32`. -/
def defaultTemperature : Nat := Decimal.binary32.roundRatio 1 10

/-- A variable, unless it is blank. -/
def present? (lookup : Lookup) (key : String) : Option String :=
  (lookup key).filter fun v => !Text.isBlank v.toList

/-- The kind of a model with a name in any case, white space aside. -/
def readKind (key value : String) : Except SettingsError ModelKind :=
  let given := String.ofList (Text.lower (Text.trim value.toList))
  match [ModelKind.constrained, .freeform].find? fun k => k.name == given with
  | some k => .ok k
  | none => .error (.invalid key (.unknownMode given))

/-- The temperature a value stands for; none if it says so. -/
def readTemperature (key value : String) : Except SettingsError (Option Nat) :=
  let given := Text.trim value.toList
  if Text.sameLetters given "none".toList then .ok none
  else match Decimal.read? Decimal.binary32 given with
    | some bits => .ok (some bits)
    | none => .error (.invalid key .notDecimal)

/-- A number of seconds. -/
def readSeconds (key value : String) : Except SettingsError Nat :=
  (Decimal.readNatural Decimal.maxWord (Text.trim value.toList)).mapError fun fault =>
    .invalid key (.notNatural fault)

/-- The value of a variable as it is read, or the default. -/
def readOr {α : Type} (lookup : Lookup) (key : String) (default : α)
    (read : String → String → Except SettingsError α) : Except SettingsError α :=
  match present? lookup key with
  | some value => read key value
  | none => .ok default

/-- The settings of the model. Without a key for it nothing else is looked at. -/
def loadModel (lookup : Lookup) :
    Except SettingsError (Except MissingSetting ModelSettings) :=
  match present? lookup "OPENAI_API_KEY" with
  | none => .ok (.error .apiKey)
  | some apiKey => do
    let kind ← readOr lookup "GENERATION_MODE" .constrained readKind
    let temperature ← readOr lookup "OPENAI_TEMPERATURE" (some defaultTemperature) readTemperature
    let timeout ← readOr lookup "GENERATION_TIMEOUT_SECS" 120 readSeconds
    return .ok
      { kind := kind
        apiKey := apiKey
        baseUrl := (present? lookup "OPENAI_BASE_URL").getD defaultBaseUrl
        model := (present? lookup "OPENAI_MODEL").getD kind.defaultModel
        temperature := temperature
        timeout := timeout }

/-- An address without slashes at its end. -/
def trimSlashes (s : String) : String :=
  String.ofList (Text.dropEndWhile (· == '/') s.toList)

/-- Host and token : variables go before the file, and a file that does not exist is empty. -/
def loadCredentials (lookup : Lookup) (path : String) (file : FileContent) :
    Except SettingsError (Option String × Option String) :=
  match present? lookup "TINYBIRD_HOST", present? lookup "TINYBIRD_TOKEN" with
  | some host, some token => .ok (some host, some token)
  | host, token =>
    match file with
    | .error .missing => .ok (host, token)
    | .error fault => .error (.file path (.unreadable fault))
    | .ok text =>
      match Credentials.read text.toList with
      | .error fault => .error (.file path (.badCredentials fault))
      | .ok given => .ok (host.or given.host, token.or given.token)

/-- The settings of the engine. -/
def loadEngine (lookup : Lookup) (path : String) (file : FileContent) :
    Except SettingsError (Except MissingSetting EngineSettings) := do
  let timeout ← readOr lookup "EXECUTION_TIMEOUT_SECS" 30 readSeconds
  match ← loadCredentials lookup path file with
  | (some host, some token) => return .ok ⟨trimSlashes host, token, timeout⟩
  | _ => return .error (.engine path)

/-- The settings that variables and the credentials file give. -/
def load (lookup : Lookup) (path : String) (file : FileContent) :
    Except SettingsError Settings := do
  let model ← loadModel lookup
  let engine ← loadEngine lookup path file
  return {
    grammarPath := (present? lookup "GRAMMAR_PATH").getD defaultGrammarPath
    grammarRoot := (present? lookup "GRAMMAR_ROOT").getD "start"
    schemaPath := present? lookup "SCHEMA_PATH"
    serverAddress := (present? lookup "SERVER_ADDR").getD "0.0.0.0:8080"
    queryLogPath := present? lookup "QUERY_LOG_PATH"
    logLevel := (present? lookup "LOG_LEVEL").getD "info"
    model := model
    engine := engine }

end Settings

end QueryGate
