import QueryGate.Request.Outcome
import QueryGate.RequestLog.Basic
import QueryGate.Grammar.Catalog
import QueryGate.Validation

/-!
# The pipeline

A request is generated, validated, normalized and executed, strictly in this order, and the first
failure ends it (`Pipeline.run`). Nothing reaches the engine that has not passed the gates in
front of it (`Pipeline.check`). A session holds what outlives a request : the grammar in use and
the log (`Pipeline.ask`).
-/

namespace QueryGate

/-- What requests are worked on with. -/
structure Pipeline (m : Type → Type) where
  model : Model m
  engine : Engine m
  clock : Clock m
  schema : Schema
  recognizer : Recognizer
  normalizer : Normalizer

/-- What outlives a request. -/
structure Session where
  catalog : Catalog
  /-- The log, if one is kept. -/
  log : Option RequestLog

/-- What the gates in front of the engine make of a query : the text that may be executed, or a
failure; nothing if the query cannot be cut where it would have to be. -/
def checkQuery (recognizer : Recognizer) (normalizer : Normalizer) (g : Grammar)
    (text : List Char) : Option (Except Failure (List Char)) :=
  match validate recognizer g text with
  | .error diagnostic => some (.error (.validation diagnostic))
  | .ok _ =>
    match normalizer.normalize text with
    | .broken => none
    | .refused why => some (.error (.normalization why))
    | .query q => some (.ok q)

namespace Pipeline

variable {m : Type → Type} [Monad m]

/-- Checks a query against the grammar in use, without model and engine. -/
def check (p : Pipeline m) (session : Session) (text : List Char) :
    Option (Except Failure (List Char)) :=
  checkQuery p.recognizer p.normalizer session.catalog.current text

/-- Executes the query of a candidate. -/
def execute (p : Pipeline m) (request : Request) (trail : Trail) (candidate : Candidate)
    (query : List Char) : m Outcome := do
  match ← p.engine.execute query with
  | .error why =>
    return ⟨request, (trail.advance .executionFailed).transitions,
      .failed .executionFailed (some candidate.text) (.execution why)⟩
  | .ok result =>
    return ⟨request, (trail.advance .executed).transitions, .executed candidate query result⟩

/-- Takes a candidate through the gates and on to the engine; no outcome if the normalizer cannot
go on. -/
def submit (p : Pipeline m) (g : Grammar) (request : Request) (trail : Trail)
    (candidate : Candidate) : m (Option Outcome) :=
  let fail := fun (trail : Trail) (failure : Failure) =>
    some (Outcome.mk request trail.transitions
      (.failed trail.state (some candidate.text) failure))
  let validating := trail.advance .validating
  match validate p.recognizer g candidate.text.toList with
  | .error diagnostic => pure (fail (validating.advance .invalid) (.validation diagnostic))
  | .ok _ =>
    let normalizing := (validating.advance .valid).advance .normalizing
    match p.normalizer.normalize candidate.text.toList with
    | .broken => pure none
    | .refused why =>
      pure (fail (normalizing.advance .normalizationFailed) (.normalization why))
    | .query q =>
      some <$> p.execute request ((normalizing.advance .normalized).advance .executing) candidate q

/-- Works on a request; no outcome if the normalizer cannot go on. -/
def run (p : Pipeline m) (g : Grammar) (request : Request) : m (Option Outcome) := do
  let generating := Trail.start.advance .generating
  match ← p.model.generate p.schema g request with
  | .error why =>
    return some ⟨request, (generating.advance .generationFailed).transitions,
      .failed .generationFailed none (.generation why)⟩
  | .ok candidate => p.submit g request (generating.advance .generated) candidate

/-- A session whose log has an entry for a request. -/
def record (p : Pipeline m) (session : Session) (outcome : Outcome) : m Session :=
  match session.log with
  | none => pure session
  | some log => do
    let time ← p.clock.now
    let elapsed ← p.clock.elapsed
    return { session with log := some (log.record (outcome.entry time elapsed)) }

/-- Answers a question and makes an entry in the log; a request without outcome leaves none. -/
def ask (p : Pipeline m) (session : Session) (question : String) :
    m (Option Outcome × Session) := do
  let id ← p.clock.newIdentifier
  match ← p.run session.catalog.current ⟨id, question⟩ with
  | none => return (none, session)
  | some outcome => return (some outcome, ← p.record session outcome)

end Pipeline

end QueryGate
