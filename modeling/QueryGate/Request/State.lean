/-!
# States of a request

A request passes through its stages in order. In each stage it either goes on or ends for good;
`State.canMoveTo` says which moves there are.
-/

namespace QueryGate

/-- Where a request stands. -/
inductive State where
  | received
  | generating
  | generated
  | generationFailed
  | validating
  | valid
  | invalid
  | normalizing
  | normalized
  | normalizationFailed
  | executing
  | executed
  | executionFailed
  deriving DecidableEq, Repr

namespace State

/-- All states. -/
def all : List State :=
  [received, generating, generated, generationFailed, validating, valid, invalid, normalizing,
    normalized, normalizationFailed, executing, executed, executionFailed]

/-- The name of a state. -/
def name : State → String
  | received => "received"
  | generating => "generating"
  | generated => "generated"
  | generationFailed => "generation_failed"
  | validating => "validating"
  | valid => "valid"
  | invalid => "invalid"
  | normalizing => "normalizing"
  | normalized => "normalized"
  | normalizationFailed => "normalization_failed"
  | executing => "executing"
  | executed => "executed"
  | executionFailed => "execution_failed"

/-- The state with a name. -/
def ofName? (s : String) : Option State :=
  all.find? fun state => state.name == s

/-- The states that a state can be followed by. -/
def successors : State → List State
  | received => [generating]
  | generating => [generated, generationFailed]
  | generated => [validating]
  | validating => [valid, invalid]
  | valid => [normalizing]
  | normalizing => [normalized, normalizationFailed]
  | normalized => [executing]
  | executing => [executed, executionFailed]
  | generationFailed | invalid | normalizationFailed | executed | executionFailed => []

/-- Whether a request can move from one state to another. -/
def canMoveTo (a b : State) : Bool :=
  a.successors.contains b

/-- Whether a request ends in a state. -/
def isFinal : State → Bool
  | generationFailed | invalid | normalizationFailed | executed | executionFailed => true
  | _ => false

end State

/-- A move of a request. -/
structure Transition where
  source : State
  target : State
  deriving DecidableEq, Repr

/-- The moves of a request so far. -/
structure Trail where
  /-- Where the request stands. -/
  state : State
  transitions : List Transition
  deriving DecidableEq, Repr

namespace Trail

/-- A request that was just received. -/
def start : Trail := ⟨.received, []⟩

/-- The trail behind one more move. -/
def advance (t : Trail) (next : State) : Trail :=
  ⟨next, t.transitions ++ [⟨t.state, next⟩]⟩

end Trail

end QueryGate
