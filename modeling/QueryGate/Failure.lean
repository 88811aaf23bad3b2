import QueryGate.Diagnostic
import QueryGate.Statement.Normalize
import QueryGate.Execution.Result

/-!
# Failures

How a request can fail : in generation, in validation, in normalization or in execution. A
`Failure` carries the cause; its `FailureKind` is what programs tell failures apart by, and its
wording is the heading of the kind and the detail of the cause.
-/

namespace QueryGate

/-- Why a model gave no candidate. -/
inductive GenerationFailure where
  /-- The model could not be asked. -/
  | unavailable (reason : String)
  /-- It answered without a candidate. -/
  | noCandidate (reason : String)
  deriving DecidableEq, Repr

/-- Why an engine gave no result. -/
inductive ExecutionFailure where
  /-- The engine refused the query. -/
  | rejected (status : Nat) (detail : String)
  /-- Its answer is no result. -/
  | malformed (fault : BodyFault)
  /-- The engine could not be asked. -/
  | unavailable (reason : String)
  deriving DecidableEq, Repr

/-- Why a request failed. -/
inductive Failure where
  | generation (failure : GenerationFailure)
  | validation (diagnostic : Diagnostic)
  | normalization (refusal : Statement.Refusal)
  | execution (failure : ExecutionFailure)
  deriving DecidableEq, Repr

/-- The stages of a request. -/
inductive Stage where
  | generation
  | validation
  | normalization
  | execution
  deriving DecidableEq, Repr

/-- What failures are told apart by. -/
inductive FailureKind where
  | modelUnavailable
  | noCandidate
  | ungrammatical
  | notReadOnly
  /-- With the status of the reply. -/
  | rejected (status : Nat)
  | malformed
  | engineUnavailable
  deriving DecidableEq, Repr

/-- The name of a stage. -/
def Stage.name : Stage → String
  | generation => "generation"
  | validation => "validation"
  | normalization => "normalization"
  | execution => "execution"

namespace FailureKind

/-- The stage in which failures of a kind arise. -/
def stage : FailureKind → Stage
  | modelUnavailable | noCandidate => .generation
  | ungrammatical => .validation
  | notReadOnly => .normalization
  | rejected _ | malformed | engineUnavailable => .execution

/-- What a kind is called within its stage. -/
def label : FailureKind → String
  | modelUnavailable | engineUnavailable => "backend_unavailable"
  | noCandidate => "no_output"
  | ungrammatical => "grammar_violation"
  | notReadOnly => "non_read_only_statement"
  | rejected _ => "backend_rejected"
  | malformed => "malformed_response"

/-- The name of a kind : its stage and its label. -/
def name (k : FailureKind) : String :=
  k.stage.name ++ "." ++ k.label

/-- The words that the message of a failure begins with. -/
def heading : FailureKind → String
  | modelUnavailable => "Generation backend unavailable"
  | noCandidate => "Generation backend returned no candidate query"
  | ungrammatical => "Query does not conform to the grammar"
  | notReadOnly => "Statement is not read-only"
  | rejected status => s!"Analytical backend rejected the query ({status})"
  | malformed => "Malformed response from analytical backend"
  | engineUnavailable => "Analytical backend unavailable"

/-- The message of a failure of this kind with the given detail. -/
def message (k : FailureKind) (detail : String) : String :=
  k.heading ++ ": " ++ detail

/-- Every kind, with the status 0 for a rejection. -/
def all : List FailureKind :=
  [modelUnavailable, noCandidate, ungrammatical, notReadOnly, rejected 0, malformed,
    engineUnavailable]

end FailureKind

namespace Failure

/-- The kind of a failure. -/
def kind : Failure → FailureKind
  | generation (.unavailable _) => .modelUnavailable
  | generation (.noCandidate _) => .noCandidate
  | validation _ => .ungrammatical
  | normalization _ => .notReadOnly
  | execution (.rejected status _) => .rejected status
  | execution (.malformed _) => .malformed
  | execution (.unavailable _) => .engineUnavailable

/-- What a failure says beyond its kind. -/
def detail : Failure → String
  | generation (.unavailable reason) => reason
  | generation (.noCandidate reason) => reason
  | validation diagnostic => diagnostic.message
  | normalization refusal => refusal.reason
  | execution (.rejected _ detail) => detail
  | execution (.malformed fault) => fault.message
  | execution (.unavailable reason) => reason

/-- The wording of a failure. -/
def message (f : Failure) : String :=
  f.kind.message f.detail

end Failure

end QueryGate
