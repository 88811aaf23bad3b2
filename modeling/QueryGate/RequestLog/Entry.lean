import QueryGate.RequestLog.Timestamp
import QueryGate.RequestLog.Identifier
import QueryGate.Json.Record

/-!
# Entries of the request log

What is kept of a finished request, and its form in JSON (`LogEntry.toJson`,
`LogEntry.ofJson?`).
-/

namespace QueryGate

/-- What is kept of a request. -/
structure LogEntry where
  time : Timestamp
  request : Identifier
  question : String
  /-- The candidate, if there was one. -/
  generatedQuery : Option String
  /-- The name of the state the request ended in. -/
  finalState : String
  errorKind : Option String
  errorMessage : Option String
  rowsReturned : Option Nat
  elapsedMs : Nat
  deriving DecidableEq, Repr

namespace LogEntry

/-- The keys of an entry, in order. -/
def keys : List String :=
  ["timestamp", "request_id", "question", "generated_query", "final_state", "error_kind",
    "error_message", "rows_returned", "elapsed_ms"]

/-- The values of an entry, in the order of the keys. -/
def values (e : LogEntry) : List Json :=
  [.string (String.ofList e.time.text), .string (String.ofList e.request.text),
    .string e.question, .stringOrNull e.generatedQuery, .string e.finalState,
    .stringOrNull e.errorKind, .stringOrNull e.errorMessage,
    e.rowsReturned.elim .null .nat, .nat e.elapsedMs]

/-- An entry as an object. -/
def toJson (e : LogEntry) : Json :=
  .object (keys.zip e.values)

/-- A string that is read by `read`. -/
def stringAs? {α : Type} (read : List Char → Option α) (v : Json) : Option α :=
  v.string?.bind fun s => read s.toList

/-- The entry in a record. -/
def ofJson? (v : Json) : Option LogEntry := do
  let r ← Record.ofJson? keys v
  let time ← r.required? 0 (stringAs? Timestamp.ofText?)
  let request ← r.required? 1 (stringAs? Identifier.ofText?)
  let question ← r.required? 2 Json.string?
  let generatedQuery ← r.optional? 3 Json.string?
  let finalState ← r.required? 4 Json.string?
  let errorKind ← r.optional? 5 Json.string?
  let errorMessage ← r.optional? 6 Json.string?
  let rowsReturned ← r.optional? 7 Json.nat?
  let elapsedMs ← r.required? 8 Json.nat?
  return ⟨time, request, question, generatedQuery, finalState, errorKind, errorMessage,
    rowsReturned, elapsedMs⟩

end LogEntry

end QueryGate
