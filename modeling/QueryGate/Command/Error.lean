import QueryGate.Startup
import QueryGate.Eval.Suite

/-!
# Errors of commands

Why a command failed, and the text about it : a message, and below it the causes, which are
numbered if there are several.
-/

namespace QueryGate

/-- What lies behind an error, if anything does. -/
def GrammarError.causes : GrammarError → List String
  | unreadable _ fault => [fault.message]
  | _ => []

/-- Why a command failed. -/
inductive CommandError where
  | startup (error : StartupError)
  /-- The grammar that was asked for cannot be used. -/
  | loading (path : String) (error : GrammarError)
  | failure (failure : Failure)
  | unknownCategory (given : String)
  /-- Cases of the evaluation suite did not pass. -/
  | failedCases (failed total : Nat)
  deriving DecidableEq, Repr

namespace CommandError

/-- The message of an error. -/
def message : CommandError → String
  | startup (.settings e) => e.message
  | startup (.grammar e) => e.message
  | loading path _ => "loading grammar " ++ path
  | failure f => f.message
  | unknownCategory given => Eval.Category.unknownMessage given
  | failedCases failed total => s!"{failed} of {total} evals failed"

/-- What lies behind an error, the nearest cause first. -/
def causes : CommandError → List String
  | startup (.grammar e) => e.causes
  | loading _ e => e.message :: e.causes
  | _ => []

/-- A text with something in front of its first line, and blanks of that width in front of the
others. -/
def hang (start : String) (text : String) : String :=
  let margin := "\n" ++ "".pushn ' ' start.length
  start ++ margin.intercalate ((Text.splitAt '\n' text.toList).map String.ofList) ++ "\n"

/-- The text of causes. -/
def causesText : List String → String
  | [] => ""
  | [cause] => "\nCaused by:\n" ++ hang "    " cause
  | causes => "\nCaused by:\n" ++ String.join (causes.mapIdx fun i cause =>
      let number := toString i
      hang ("".pushn ' ' (5 - number.length) ++ number ++ ": ") cause)

/-- The text of an error. -/
def text (e : CommandError) : String :=
  "Error: " ++ e.message ++ "\n" ++ causesText e.causes

end CommandError

end QueryGate
