import QueryGate.Request.Generation
import QueryGate.Request.State
import QueryGate.RequestLog.Entry

/-!
# Outcomes of requests

How a request ended, and what the log keeps of it (`Outcome.entry`).
-/

namespace QueryGate

/-- The end of a request. -/
inductive Ending where
  /-- The query was executed : the candidate, the text that the engine was given, its answer. -/
  | executed (candidate : Candidate) (query : List Char) (result : QueryResult)
  /-- A stage failed : the state the request ended in, and the candidate if there was one. -/
  | failed (state : State) (candidate : Option String) (failure : Failure)
  deriving Repr

/-- A request that has ended. -/
structure Outcome where
  request : Request
  transitions : List Transition
  ending : Ending
  deriving Repr

namespace Outcome

/-- The state a request ended in. -/
def finalState (o : Outcome) : State :=
  match o.ending with
  | .executed .. => .executed
  | .failed state .. => state

/-- The query that was generated, if one was. -/
def generatedQuery (o : Outcome) : Option String :=
  match o.ending with
  | .executed candidate .. => some candidate.text
  | .failed _ candidate _ => candidate

/-- Why a request failed, if it did. -/
def failure? (o : Outcome) : Option Failure :=
  match o.ending with
  | .executed .. => none
  | .failed _ _ failure => some failure

/-- The answer of the engine, if there was one. -/
def result? (o : Outcome) : Option QueryResult :=
  match o.ending with
  | .executed _ _ result => some result
  | .failed .. => none

/-- What the log keeps of a request. -/
def entry (o : Outcome) (time : Timestamp) (elapsedMs : Nat) : LogEntry where
  time := time
  request := o.request.id
  question := o.request.question
  generatedQuery := o.generatedQuery
  finalState := o.finalState.name
  errorKind := o.failure?.map (·.kind.name)
  errorMessage := o.failure?.map (·.message)
  rowsReturned := o.result?.map (·.rowCount)
  elapsedMs := elapsedMs

end Outcome

end QueryGate
