import QueryGate.Text.WhiteSpace

/-!
# Lines of a grammar source

A source is read by logical lines. `uncommented` cuts a comment off a physical line,
`entries` joins lines that begin with white space or a bar to the line before them and passes
over blank ones.
-/

namespace QueryGate.Ebnf

open Text

/-- A line up to the first two slashes that stand outside quotes and slashes. The first argument
is the delimiter of the quoted part the text begins in. -/
def beforeComment : Option Char → List Char → List Char
  | _, [] => []
  | some d, c :: s =>
    if c == '\\' then
      match s with
      | [] => [c]
      | e :: s => c :: e :: beforeComment (some d) s
    else if c == d then c :: beforeComment none s
    else c :: beforeComment (some d) s
  | none, c :: s =>
    if c == '/' && s.head? == some '/' then []
    else if c == '"' || c == '/' then c :: beforeComment (some c) s
    else c :: beforeComment none s

/-- A physical line without its comment. -/
def uncommented (line : List Char) : List Char :=
  beforeComment none line

/-- A logical line : its text, with line feeds where lines were joined, and the number of its
first line. -/
structure Entry where
  line : Nat
  text : List Char
  deriving Repr, DecidableEq

/-- Whether a line carries on the definition before it. -/
def continues (line : List Char) : Bool :=
  (line.head?.map isWhite).getD false || (trimStart line).head? == some '|'

/-- Adds a numbered physical line to the entries so far, the last of which comes first. -/
def addLine (entries : List Entry) (numbered : List Char × Nat) : List Entry :=
  let line := uncommented numbered.1
  if isBlank line then entries
  else match entries with
    | last :: earlier =>
      if continues line then { last with text := last.text ++ '\n' :: line } :: earlier
      else ⟨numbered.2 + 1, line⟩ :: entries
    | [] => [⟨numbered.2 + 1, line⟩]

/-- The logical lines of a source. -/
def entries (source : List Char) : List Entry :=
  ((lines source).zipIdx.foldl addLine []).reverse

end QueryGate.Ebnf
