import QueryGate.Http.Message
import QueryGate.Eval.Report
import QueryGate.Json.Writer

/-!
# The server

What the paths of the server answer to requests (`Server.respond`). Asking a question and running
the evaluation suite go through the pipeline; reloading changes the grammar in use; all else
leaves the session as it was.
-/

namespace QueryGate

open Http

/-- What requests are answered with. -/
structure Server (m : Type → Type) where
  pipeline : Pipeline m
  files : Files m
  /-- The file of the page for browsers. -/
  pagePath : String

/-- The status of the response to a request that failed, and the words for it. A rejected query
is the client's trouble, a collaborator that fails is ours. -/
def FailureKind.status (k : FailureKind) : Nat × String :=
  match k.stage with
  | .validation | .normalization => (422, "Unprocessable Entity")
  | .generation | .execution => (502, "Bad Gateway")

namespace Server

/-- The page for browsers. -/
def defaultPagePath : String := "ui/index.html"

/-- The content type of data. -/
def jsonType : String := "application/json"

/-- A response with a value. -/
def reply (status : Nat) (reason : String) (value : Json) : Response :=
  ⟨status, reason, jsonType, value.text⟩

/-- The response to a question and its outcome. -/
def outcomeReply (o : Outcome) : Response :=
  match o.ending with
  | .executed candidate _ result => reply 200 "OK" (.object
      [("natural_language_query", .string o.request.question),
        ("generated_sql", .string candidate.text), ("mode", .string candidate.mode.name),
        ("results", result.toJson)])
  | .failed state candidate failure =>
    reply failure.kind.status.1 failure.kind.status.2 (.object
      [("error", .string failure.message), ("error_kind", .string failure.kind.name),
        ("state", .string state.name), ("generated_sql", .stringOrNull candidate),
        ("natural_language_query", .string o.request.question)])

/-- The question in the body of a request; empty if there is none. -/
def questionOf (body : List Char) : String :=
  (((Json.readValue? body).bind (·.field? "query")).bind Json.string?).getD ""

/-- The number of requests that are listed. -/
def listLength : Nat := 50

variable {m : Type → Type} [Monad m]

/-- The page for browsers. -/
def page (s : Server m) : m Response := do
  match ← s.files.read s.pagePath with
  | .ok html => return ⟨200, "OK", "text/html; charset=utf-8", html⟩
  | .error _ => return reply 404 "Not Found" (.object [("error", .string "UI not found")])

/-- Whether the engine can be reached. -/
def health (s : Server m) : m Response := do
  let healthy ← s.pipeline.engine.isHealthy
  return reply 200 "OK" (.object
    [("status", .string (if healthy then "ok" else "degraded")),
      ("service", .string "grammarsql"),
      ("analytical_backend", .string s.pipeline.engine.name),
      ("analytical_backend_reachable", .bool healthy)])

/-- Answers a question. -/
def answer (s : Server m) (session : Session) (question : String) :
    m (Option Response × Session) := do
  if Text.isBlank question.toList then
    return (some (reply 400 "Bad Request" (.object [("error", .string "Query is required")])),
      session)
  else
    let (outcome, session) ← s.pipeline.ask session question
    return (outcome.map outcomeReply, session)

/-- The response with the report on the evaluation suite. -/
def reportReply (r : Eval.Report) : Response :=
  reply 200 "OK" (.object
    [("status", .string (if r.allPassed then "success" else "partial")),
      ("message", .string s!"{r.passed}/{r.total} evals passed"), ("report", r.toJson)])

/-- Runs the evaluation suite. -/
def evaluate (s : Server m) (session : Session) : m (Option Response × Session) := do
  let (report, session) ← Eval.evaluate s.pipeline session Eval.suite
  return (report.map reportReply, session)

/-- Reads the grammar again. -/
def reload (s : Server m) (session : Session) : m (Response × Session) := do
  let content ← match session.catalog.path with
    | some path => s.files.read path
    | none => pure (.error .missing)
  match session.catalog.reload content with
  | .ok catalog =>
    return (reply 200 "OK" (.object
      [("status", .string "reloaded"), ("root", .string catalog.current.rootName),
        ("rules", .nat catalog.current.ruleCount)]), { session with catalog := catalog })
  | .error e =>
    return (reply 500 "Internal Server Error" (.object
      [("error", .string e.message), ("status", .string "kept_previous")]), session)

/-- The last requests. -/
def listing (session : Session) : Response :=
  let entries := (session.log.map fun log => log.recent listLength).getD []
  reply 200 "OK" (.object [("requests", .array (entries.map (·.toJson)))])

/-- The response to a request; none if a query cannot be cut where it would have to be. -/
def respond (s : Server m) (session : Session) (request : List Char) :
    m (Option Response × Session) := do
  match requestLine? request with
  | none => return (some ⟨400, "Bad Request", jsonType, "\x7b\x7d"⟩, session)
  | some (method, path) =>
    match String.ofList method, String.ofList path with
    | "GET", "/" => return (some (← s.page), session)
    | "GET", "/health" => return (some (← s.health), session)
    | "POST", "/query" => s.answer session (questionOf (body request))
    | "GET", "/run-evals" => s.evaluate session
    | "POST", "/grammar/reload" =>
      let (response, session) ← s.reload session
      return (some response, session)
    | "GET", "/requests" => return (some (listing session), session)
    | "OPTIONS", _ => return (some ⟨200, "OK", jsonType, ""⟩, session)
    | method, path =>
      return (some (reply 404 "Not Found" (.object
        [("error", .string ("Endpoint not found: " ++ method ++ " " ++ path))])), session)

end Server

end QueryGate
