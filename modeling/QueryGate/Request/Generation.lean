import QueryGate.Request.Collaborator
import QueryGate.CodeFence
import QueryGate.Prompt
import QueryGate.Grammar.Basic

/-!
# Generation

The first stage of a request : a model is asked for a query. What it answers is a candidate,
without the code fences that text may stand in; nothing is known about it yet.
-/

namespace QueryGate

/-- A question, and what it is called in logs. -/
structure Request where
  id : Identifier
  question : String
  deriving DecidableEq, Repr

/-- How a candidate came about. -/
inductive GenerationMode where
  /-- As the input of the tool that carries the grammar. -/
  | constrained
  /-- As text. -/
  | freeformFallback
  deriving DecidableEq, Repr

/-- The name of a mode in data. -/
def GenerationMode.name : GenerationMode → String
  | constrained => "constrained"
  | freeformFallback => "freeform_fallback"

/-- The name of a mode for a reader. -/
def GenerationMode.display : GenerationMode → String
  | constrained => "Constrained"
  | freeformFallback => "FreeformFallback"

/-- A query as a model wrote it. -/
structure Candidate where
  text : String
  mode : GenerationMode
  /-- The name of what answered. -/
  model : String
  request : Identifier
  deriving DecidableEq, Repr

namespace Candidate

/-- The query in an answer, and how it came about. -/
def extract : ModelOutput → String × GenerationMode
  | .toolInput text => (Text.trimString text, .constrained)
  | .text text => (String.ofList (CodeFence.stripFences text.toList), .freeformFallback)

/-- The candidate in the answer of a model with the given names. -/
def ofOutput (name model : String) (request : Request) (output : Option ModelOutput) :
    Except GenerationFailure Candidate :=
  match output with
  | none => .error (.noCandidate (name ++ " returned neither a tool call nor text"))
  | some output =>
    let (text, mode) := extract output
    if text.isEmpty then .error (.noCandidate (name ++ " returned an empty candidate"))
    else .ok ⟨text, mode, model, request.id⟩

end Candidate

namespace Model

variable {m : Type → Type} [Monad m]

/-- What the model is given of a grammar. -/
def grammarFor (model : Model m) (g : Grammar) : Option String :=
  if model.capabilities.constrained then some g.source else none

/-- Asks the model a question about the table of a schema. -/
def generate (model : Model m) (schema : Schema) (g : Grammar) (request : Request) :
    m (Except GenerationFailure Candidate) := do
  let output ← model.complete (Prompt.build schema request.question) (model.grammarFor g)
  return output.bind (Candidate.ofOutput model.name model.model request)

end Model

end QueryGate
