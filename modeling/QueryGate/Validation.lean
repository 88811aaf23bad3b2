import QueryGate.Chart.Recognizer

/-!
# Validation

The gate that every generated query passes before anything else is done with it. `check` accepts
a text exactly if the recognizer gives no diagnostic and accepts it.
-/

namespace QueryGate

/-- Reads texts with a grammar. -/
abbrev Recognizer := Grammar → List Char → Verdict

/-- Passes a text that the recognizer accepts, and gives a diagnostic for any other. -/
def validate (recognizer : Recognizer) (g : Grammar) (text : List Char) :
    Except Diagnostic Unit :=
  let verdict := recognizer g text
  match verdict.diagnostic with
  | some d => .error d
  | none => if verdict.accepted then .ok () else .error (Diagnostic.locate text 0 [])

end QueryGate
