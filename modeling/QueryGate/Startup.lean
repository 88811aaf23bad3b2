import QueryGate.Client.Model
import QueryGate.Client.Tinybird
import QueryGate.Request.Pipeline

/-!
# Starting up

How the settings become a pipeline : the grammar is read, then the schema, and then the
credentials of model and engine are asked for. The first thing that is missing or wrong ends it.
-/

namespace QueryGate

/-- Why no request can be worked on. -/
inductive StartupError where
  | settings (error : SettingsError)
  | grammar (error : GrammarError)
  deriving DecidableEq, Repr

/-- What a program works with. -/
structure World (m : Type → Type) where
  files : Files m
  transport : Client.Transport m
  clock : Clock m

namespace Settings

/-- The number of requests that are kept in memory. -/
def logCapacity : Nat := 200

/-- A log without entries. -/
def emptyLog (s : Settings) : RequestLog :=
  .empty logCapacity (if s.queryLogPath.isSome then .written [] else .none)

variable {m : Type → Type} [Monad m]

/-- The grammar of the settings. -/
def readCatalog (s : Settings) (files : Files m) : ExceptT StartupError m Catalog :=
  ExceptT.mk do
    let content ← files.read s.grammarPath
    return (Catalog.load s.grammarPath s.grammarRoot content).mapError .grammar

/-- The schema of the settings. -/
def readSchema (s : Settings) (files : Files m) : ExceptT StartupError m Schema :=
  match s.schemaPath with
  | none => pure Schema.employees
  | some path => ExceptT.mk do
    return (Schema.ofFile path (← files.read path)).mapError .settings

/-- Credentials that are needed now. -/
def demand {α : Type} (given : Except MissingSetting α) : ExceptT StartupError m α :=
  ExceptT.mk (pure (given.mapError fun what => .settings (.missing what)))

/-- The pipeline of the settings, and a session to begin with. -/
def openPipeline (s : Settings) (w : World m) : ExceptT StartupError m (Pipeline m × Session) := do
  let catalog ← s.readCatalog w.files
  let schema ← s.readSchema w.files
  let modelSettings ← demand s.model
  let engineSettings ← demand s.engine
  let pipeline : Pipeline m :=
    { model := Client.model w.transport modelSettings schema.table
      engine := Client.Tinybird.engine w.transport engineSettings
      clock := w.clock
      schema := schema
      recognizer := recognize
      normalizer := .default }
  return (pipeline, ⟨catalog, some s.emptyLog⟩)

end Settings

end QueryGate
