import QueryGate.Eval.Suite
import QueryGate.Request.Pipeline

/-!
# Evaluation reports

A case is put to the pipeline and passes if nothing about its outcome is other than expected
(`CaseResult.ofOutcome`). A report counts the cases that passed, in all and in every category
(`Report.ofCases`).
-/

namespace QueryGate.Eval

/-- What became of a case. -/
structure CaseResult where
  category : Category
  name : String
  question : String
  passed : Bool
  generatedQuery : Option String
  errorKind : Option String
  failures : List String
  deriving DecidableEq, Repr

/-- The counts of a category. -/
structure Summary where
  category : Category
  passed : Nat
  total : Nat
  deriving DecidableEq, Repr

/-- What became of a suite. -/
structure Report where
  cases : List CaseResult
  categories : List Summary
  passed : Nat
  total : Nat
  deriving DecidableEq, Repr

namespace CaseResult

/-- The failure that keeps a case from being judged : any but one of the engine, and that one too
if something is expected of the result. -/
def blocking? (c : Case) (o : Outcome) : Option Failure :=
  o.failure?.filter fun _ => o.finalState != .executionFailed || c.needsResult

/-- What is other than expected. -/
def failuresOf (c : Case) (o : Outcome) : List String :=
  match blocking? c o with
  | some failure => [failure.message]
  | none =>
    match o.generatedQuery with
    | some sql => c.expectations.filterMap fun e => e.failure? sql.toList o.result?
    | none => []

/-- The result of a case whose question had an outcome. -/
def ofOutcome (c : Case) (o : Outcome) : CaseResult where
  category := c.category
  name := c.name
  question := c.question
  passed := (failuresOf c o).isEmpty
  generatedQuery := o.generatedQuery
  errorKind := o.failure?.map (·.kind.name)
  failures := failuresOf c o

/-- A result as an object. -/
def toJson (r : CaseResult) : Json :=
  .object [("category", .string r.category.name), ("name", .string r.name),
    ("question", .string r.question), ("passed", .bool r.passed),
    ("generated_query", .stringOrNull r.generatedQuery),
    ("error_kind", .stringOrNull r.errorKind), ("failures", .array (r.failures.map .string))]

end CaseResult

namespace Summary

/-- The counts of a category, if any of the cases is in it. -/
def ofCases? (cases : List CaseResult) (category : Category) : Option Summary :=
  let mine := cases.filter fun c => c.category == category
  if mine.isEmpty then none else some ⟨category, mine.countP (·.passed), mine.length⟩

/-- A summary as an object. -/
def toJson (s : Summary) : Json :=
  .object [("category", .string s.category.name), ("passed", .nat s.passed),
    ("total", .nat s.total)]

end Summary

namespace Report

/-- The report on the results of cases. -/
def ofCases (cases : List CaseResult) : Report where
  cases := cases
  categories := Category.all.filterMap (Summary.ofCases? cases)
  passed := cases.countP (·.passed)
  total := cases.length

/-- Whether all cases passed. -/
def allPassed (r : Report) : Bool :=
  r.passed == r.total

/-- A report as an object. -/
def toJson (r : Report) : Json :=
  .object [("cases", .array (r.cases.map (·.toJson))),
    ("categories", .array (r.categories.map (·.toJson))), ("passed", .nat r.passed),
    ("total", .nat r.total)]

end Report

variable {m : Type → Type} [Monad m]

/-- Puts cases to a pipeline, one after the other; no results if a request has no outcome. -/
def runCases (p : Pipeline m) (session : Session) :
    List Case → m (Option (List CaseResult) × Session)
  | [] => return (some [], session)
  | c :: rest => do
    match ← p.ask session c.question with
    | (none, session) => return (none, session)
    | (some outcome, session) =>
      let (results, session) ← runCases p session rest
      return (results.map (CaseResult.ofOutcome c outcome :: ·), session)

/-- The report on cases that were put to a pipeline. -/
def evaluate (p : Pipeline m) (session : Session) (cases : List Case) :
    m (Option Report × Session) := do
  let (results, session) ← runCases p session cases
  return (results.map Report.ofCases, session)

/-- The cases of the suite in a category, or all of them. -/
def suiteOf : Option Category → List Case
  | none => suite
  | some category => suite.filter fun c => c.category == category

end QueryGate.Eval
