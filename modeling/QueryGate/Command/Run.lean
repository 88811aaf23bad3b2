import QueryGate.Command.Error
import QueryGate.Command.Help
import QueryGate.Eval.Report
import QueryGate.Json.Layout
import QueryGate.LogFilter
import QueryGate.Settings.Environment

/-!
# Running commands

What the commands write (`Command.run`), and the program as a whole (`Program.run`) : arguments
come first, then the file of variables, the settings and the filter of the log, and then the
command. Where a query cannot be cut as it would have to be, nothing is answered.
-/

namespace QueryGate

/-- What a command has done. -/
structure CommandOutput where
  /-- What it writes. -/
  text : String
  error : Option CommandError
  /-- What is added to the log file. -/
  logged : List Char
  deriving Repr

namespace CommandOutput

/-- Only an error. -/
def failed (e : CommandError) : CommandOutput := ⟨"", some e, []⟩

/-- Only a text. -/
def written (text : String) : CommandOutput := ⟨text, none, []⟩

end CommandOutput

/-- What a session has added to the log file. -/
def Session.logged (s : Session) : List Char :=
  match s.log with
  | some ⟨_, _, .written text⟩ => text
  | _ => []

namespace Command

/-- The text about a grammar. -/
def grammarText (path : String) (g : Grammar) : String :=
  "Grammar: " ++ path ++ "\n" ++
  "  root:        " ++ g.rootName ++ "\n" ++
  s!"  rules:       {g.ruleCount}\n" ++
  s!"  productions: {g.productions.size}\n" ++
  s!"  terminals:   {g.terminals.size}\n"

/-- The text about a request that has ended. -/
def outcomeText (o : Outcome) : String :=
  match o.ending with
  | .executed candidate _ result =>
    "\n=== Generated SQL (" ++ candidate.mode.display ++ ") ===\n" ++
    candidate.text ++ "\n" ++
    s!"\n=== Results ({result.rowCount} rows) ===\n" ++
    String.ofList (Json.layOut 0 (.array (result.rows.map .object))) ++ "\n"
  | .failed _ (some candidate) _ => "\n=== Generated SQL ===\n" ++ candidate ++ "\n"
  | .failed _ none _ => ""

/-- The lines about a case. -/
def caseText (r : Eval.CaseResult) : String :=
  "[" ++ (if r.passed then "PASS" else "FAIL") ++ "] " ++ r.category.label ++ " / " ++ r.name ++
    "\n" ++ String.join (r.failures.map fun f => "       " ++ f ++ "\n")

/-- The text of a report. -/
def reportText (r : Eval.Report) : String :=
  String.join (r.cases.map caseText) ++ "\n" ++
  String.join (r.categories.map fun s => s!"{s.category.label}: {s.passed}/{s.total}\n") ++
  s!"Overall: {r.passed}/{r.total}\n"

variable {m : Type → Type} [Monad m]

/-- Answers a question. -/
def answer (w : World m) (s : Settings) (question : String) : m (Option CommandOutput) := do
  match ← (s.openPipeline w).run with
  | .error e => return some (.failed (.startup e))
  | .ok (pipeline, session) =>
    let (outcome, session) ← pipeline.ask session question
    return outcome.map fun o => ⟨outcomeText o, o.failure?.map .failure, session.logged⟩

/-- Checks a query. -/
def check (w : World m) (s : Settings) (query : String) : m (Option CommandOutput) := do
  match ← (s.readCatalog w.files).run with
  | .error e => return some (.failed (.startup e))
  | .ok catalog =>
    return (checkQuery recognize .default catalog.current query.toList).map fun checked =>
      match checked with
      | .error f => .failed (.failure f)
      | .ok q => .written ("valid\n" ++ String.ofList q ++ "\n")

/-- Says what a grammar is made of. -/
def describe (w : World m) (s : Settings) (path : Option String) : m CommandOutput := do
  let path := path.getD s.grammarPath
  match Catalog.load path s.grammarRoot (← w.files.read path) with
  | .error e => return .failed (.loading path e)
  | .ok catalog => return .written (grammarText path catalog.current)

/-- The error of a report. -/
def reportError? (r : Eval.Report) : Option CommandError :=
  if r.allPassed then none else some (.failedCases (r.total - r.passed) r.total)

/-- Runs cases of the evaluation suite. -/
def evaluate (w : World m) (s : Settings) (cases : List Eval.Case) : m (Option CommandOutput) := do
  match ← (s.openPipeline w).run with
  | .error e => return some (.failed (.startup e))
  | .ok (pipeline, session) =>
    let (report, session) ← Eval.evaluate pipeline session cases
    return report.map fun r => ⟨reportText r, reportError? r, session.logged⟩

/-- Runs the evaluation suite, or the category that is named. -/
def evaluateNamed (w : World m) (s : Settings) (category : Option String) :
    m (Option CommandOutput) :=
  match category with
  | none => evaluate w s (Eval.suiteOf none)
  | some given =>
    match Eval.Category.ofText? given with
    | some c => evaluate w s (Eval.suiteOf (some c))
    | none => pure (some (.failed (.unknownCategory given)))

/-- Runs a command; no output where a query cannot be cut. -/
def run (w : World m) (s : Settings) : Command → m (Option CommandOutput)
  | .ask question => answer w s question
  | .validate query => check w s query
  | .grammar path => some <$> describe w s path
  | .evals category => evaluateNamed w s category

end Command

/-- How a program ends. -/
inductive ProgramEnd where
  /-- A command was run; the file that what it logged is added to, if there is one. -/
  | ran (output : CommandOutput) (logPath : Option String)
  /-- Help was asked for. -/
  | helped (topic : Topic)
  /-- The arguments cannot be understood. -/
  | misused
  deriving Repr

namespace Program

/-- The file that adds to the environment. -/
def environmentPath : String := ".env"

/-- The variable with a filter for the log that goes before the level of the settings. -/
def filterVariable : String := "RUST_LOG"

/-- The variables that the program looks at. -/
def variableNames : List String := filterVariable :: Settings.variableNames

variable {m : Type → Type} [Monad m]

/-- The environment with what its file adds to it. -/
def readEnvironment (w : World m) (env : Environment) : m Environment := do
  match ← w.files.read environmentPath with
  | .ok text => return env.readFile text.toList
  | .error _ => return env

/-- The settings of an environment, with a filter for the log that can be read. -/
def readSettings (w : World m) (env : Environment) : m (Except SettingsError Settings) := do
  let credentials ← w.files.read Settings.credentialsPath
  return do
    let settings ← Settings.load env.value? Settings.credentialsPath credentials
    if ((env.value? filterVariable).bind LogFilter.ofText?).isNone then
      discard (LogFilter.ofLevel settings.logLevel)
    return settings

/-- Runs the program; nothing where a query cannot be cut. -/
def run (w : World m) (env : Environment) (arguments : List String) : m (Option ProgramEnd) := do
  match Invocation.ofArguments arguments with
  | .misuse => return some .misused
  | .help topic => return some (.helped topic)
  | .run command =>
    match ← readSettings w (← readEnvironment w env) with
    | .error e => return some (.ran (.failed (.startup (.settings e))) none)
    | .ok settings =>
      return (← command.run w settings).map fun output => .ran output settings.queryLogPath

end Program

namespace ProgramEnd

/-- The status that the program ends with. -/
def status : ProgramEnd → Nat
  | ran output _ => if output.error.isSome then 1 else 0
  | helped _ => 0
  | misused => 2

/-- What the program writes. -/
def output : ProgramEnd → String
  | ran output _ => output.text
  | helped topic => topic.text
  | misused => ""

/-- What the program complains of. -/
def complaint : ProgramEnd → String
  | ran output _ => (output.error.map (·.text)).getD ""
  | helped _ => ""
  | misused => Topic.program.usageLine

/-- What is added to a file, and its path. -/
def logged? : ProgramEnd → Option (String × String)
  | ran output (some path) =>
    if output.logged.isEmpty then none else some (path, String.ofList output.logged)
  | _ => none

end ProgramEnd

end QueryGate
