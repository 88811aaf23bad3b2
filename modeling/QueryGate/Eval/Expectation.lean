import QueryGate.Eval.Clause
import QueryGate.Execution.Result
import QueryGate.Text.Quoted

/-!
# Expectations

What an evaluation expects of a query and of its result. `Expectation.failure?` says what is not
as expected.
-/

namespace QueryGate.Eval

open Text

/-- What is expected of a query or its result. -/
inductive Expectation where
  /-- The query in upper case contains a text. -/
  | containsKeyword (text : String)
  /-- The query contains one of the texts, in any case. -/
  | containsAny (texts : List String)
  /-- The query contains a name, in any case. -/
  | mentionsColumn (name : String)
  /-- The query in upper case begins with a text. -/
  | startsWith (text : String)
  /-- The first LIMIT of the query has this number. -/
  | limitEquals (n : Nat)
  /-- The query has groups, and all of the names stand there. -/
  | groupByReferences (names : List String)
  /-- A JOIN, if there is one, has a condition. -/
  | joinHasConstraint
  | rowCountAtMost (n : Nat)
  | rowCountAtLeast (n : Nat)
  /-- The result is one number that is not negative. -/
  | singleRowNonNegativeCount
  deriving DecidableEq, Repr

namespace Expectation

/-- A list of texts as a reader is to see it. -/
def showTexts (texts : List String) : String :=
  "[" ++ ", ".intercalate (texts.map showQuoted) ++ "]"

/-- An expectation as a reader is to see it. -/
def display : Expectation → String
  | containsKeyword text => "ContainsKeyword(" ++ showQuoted text ++ ")"
  | containsAny texts => "ContainsAny(" ++ showTexts texts ++ ")"
  | mentionsColumn name => "MentionsColumn(" ++ showQuoted name ++ ")"
  | startsWith text => "StartsWith(" ++ showQuoted text ++ ")"
  | limitEquals n => "LimitEquals(" ++ toString n ++ ")"
  | groupByReferences names => "GroupByReferences(" ++ showTexts names ++ ")"
  | joinHasConstraint => "JoinHasConstraint"
  | rowCountAtMost n => "RowCountAtMost(" ++ toString n ++ ")"
  | rowCountAtLeast n => "RowCountAtLeast(" ++ toString n ++ ")"
  | singleRowNonNegativeCount => "SingleRowNonNegativeCount"

/-- Whether an expectation is about the result. -/
def needsResult : Expectation → Bool
  | rowCountAtMost _ | rowCountAtLeast _ | singleRowNonNegativeCount => true
  | _ => false

/-- The number a value stands for, as a word of `binary64`. The engine writes large integers as
strings. -/
def numeric? : Json → Option Nat
  | .number n => some n.toBits
  | .string s => Decimal.read? Decimal.binary64 s.toList
  | _ => none

/-- Whether a word of `binary64` is a number that is not below zero. -/
def isNonNegative (bits : Nat) : Bool :=
  !Decimal.binary64.isNaN bits &&
    (!Decimal.binary64.isNegative bits || Decimal.binary64.magnitude bits == 0)

/-- Whether a query contains a name, in any case. -/
def mentions (sql : List Char) (name : String) : Bool :=
  isInfix (lower name.toList) (lower sql)

/-- Whether a query and its result, if there is one, are as expected. -/
def holds (sql : List Char) (result : Option QueryResult) : Expectation → Bool
  | containsKeyword text => isInfix text.toList (upper sql)
  | containsAny texts => texts.any (mentions sql)
  | mentionsColumn name => mentions sql name
  | startsWith text => text.toList.isPrefixOf (trimStart (upper sql))
  | limitEquals n => limitValue? sql == some n
  | groupByReferences names =>
    (groupClause? sql).any fun clause => names.all fun name => isInfix (lower name.toList) clause
  | joinHasConstraint =>
    !hasJoin sql || isInfix " ON ".toList (upper sql) || isInfix "USING".toList (upper sql)
  | rowCountAtMost n => result.any fun r => r.rowCount ≤ n
  | rowCountAtLeast n => result.any fun r => n ≤ r.rowCount
  | singleRowNonNegativeCount =>
    result.any fun r => r.rows.length == 1 && (r.scalar?.bind numeric?).any isNonNegative

/-- What is not as expected. -/
def failure? (e : Expectation) (sql : List Char) (result : Option QueryResult) :
    Option String :=
  if e.holds sql result then none else some (e.display ++ " not satisfied")

end Expectation

end QueryGate.Eval
