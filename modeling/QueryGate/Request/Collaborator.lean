import QueryGate.Failure
import QueryGate.File
import QueryGate.RequestLog.Timestamp
import QueryGate.RequestLog.Identifier

/-!
# Collaborators

What requests are worked on with : a model that writes queries, an engine that executes them, a
clock and files. Each works in a monad `m` of the caller's choice.
-/

namespace QueryGate

/-- What a model answers with. -/
inductive ModelOutput where
  /-- The input of a call to the tool that carries the grammar. -/
  | toolInput (text : String)
  /-- Text that nothing holds to the grammar, perhaps between code fences. -/
  | text (text : String)
  deriving DecidableEq, Repr

/-- What a model can do. -/
structure Capabilities where
  /-- It takes a grammar as the format of its answer. -/
  constrained : Bool
  /-- It answers with text. -/
  freeform : Bool
  deriving DecidableEq, Repr

/-- Takes a grammar, and text if need be. -/
def Capabilities.withGrammar : Capabilities := ⟨true, true⟩

/-- Takes no grammar. -/
def Capabilities.textOnly : Capabilities := ⟨false, true⟩

/-- Writes queries. -/
structure Model (m : Type → Type) where
  name : String
  /-- The name of what answers behind it. -/
  model : String
  capabilities : Capabilities
  /-- The answer to a prompt, with the text of a grammar if the model takes one. -/
  complete : (prompt : String) → (grammar : Option String) →
    m (Except GenerationFailure (Option ModelOutput))

/-- Executes queries. -/
structure Engine (m : Type → Type) where
  name : String
  execute : (query : List Char) → m (Except ExecutionFailure QueryResult)
  /-- Whether it can be reached. -/
  isHealthy : m Bool

/-- Tells the time and makes identifiers. -/
structure Clock (m : Type → Type) where
  newIdentifier : m Identifier
  now : m Timestamp
  /-- Milliseconds since the last identifier was made. -/
  elapsed : m Nat

/-- Reads files. -/
structure Files (m : Type → Type) where
  read : (path : String) → m FileContent

end QueryGate
