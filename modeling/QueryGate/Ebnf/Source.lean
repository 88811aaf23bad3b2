import QueryGate.Ebnf.Lines
import QueryGate.Ebnf.Reader
import QueryGate.Grammar.Error

/-!
# Definitions of a source

`definitions` reads a whole grammar source, one definition to a logical line. A failure names
the line where reading stopped and quotes what stands there.
-/

namespace QueryGate.Ebnf

open Text

/-- Number of characters of the text quoted in an error. -/
def quotedLength : Nat := 24

/-- The error for an entry whose reading stopped before `rest`. -/
def stoppedAt (entry : Entry) (rest : List Char) : GrammarError :=
  let before := entry.text.take (entry.text.length - rest.length)
  let near := trim (rest.take quotedLength)
  .badLine (entry.line + before.count '\n')
    (if near.isEmpty then .unexpectedEnd else .unexpectedInput (String.ofList near))

/-- The definition of a logical line. -/
def readEntry (entry : Entry) : Except GrammarError Located :=
  match readDefinition entry.text with
  | .ok d => .ok ⟨entry.line, d⟩
  | .error rest => .error (stoppedAt entry rest)

/-- The definitions of a source, in order. -/
def definitions (source : String) : Except GrammarError (List Located) :=
  (entries source.toList).mapM readEntry

end QueryGate.Ebnf
