import QueryGate.Client.Call
import QueryGate.Json.Reader
import QueryGate.Request.Collaborator

/-!
# The analytical engine

The service that executes queries. A reply without success is a rejection and passes on its body
as it is; a reply with success has to be a result.
-/

namespace QueryGate.Client.Tinybird

/-- The body of a request. -/
def requestBody (query : String) : Json :=
  .object [("q", .string query)]

/-- The status and the value of a reply. -/
def answerOf (came : Except String Reply) : Except ExecutionFailure (Nat × Json) :=
  match came with
  | .error why => .error (.unavailable ("Failed to submit Tinybird query: " ++ why))
  | .ok reply =>
    if !reply.isSuccess then .error (.rejected reply.status reply.body)
    else match Json.readValue? reply.body.toList with
      | none => .error (.malformed
          (.other "Failed to parse Tinybird response: the body is not JSON"))
      | some value => .ok (reply.status, value)

/-- The result in a reply. -/
def resultOf (came : Except String Reply) : Except ExecutionFailure QueryResult := do
  let (status, value) ← answerOf came
  (QueryResult.ofBody status value).mapError .malformed

/-- The query by which it is found out whether the engine can be reached. -/
def probe : String := "SELECT 1 FORMAT JSON"

/-- The call by which a query is executed. -/
def call (settings : EngineSettings) (query : String) : Call :=
  ⟨address settings.host "/v0/sql", settings.token, requestBody query⟩

/-- The engine. -/
def engine {m : Type → Type} [Monad m] (t : Transport m) (settings : EngineSettings) :
    Engine m where
  name := "tinybird"
  execute query := do return resultOf (← t.post (call settings (String.ofList query)))
  isHealthy := do return (answerOf (← t.post (call settings probe))).isOk

end QueryGate.Client.Tinybird
