import QueryGate.Text.Basic
import QueryGate.Text.Numeric

/-!
# Diagnostics

Where a text was rejected and what could have stood there. `Diagnostic.locate` moves an offset
back to the start of the character it lies in and names line, column and token.
-/

namespace QueryGate

open Text

/-- The longest part of a text that has at most `n` bytes, and what follows it. -/
def Text.splitBytes : List Char → Nat → List Char × List Char
  | [], _ => ([], [])
  | c :: s, n =>
    if c.utf8Size ≤ n then
      let (before, rest) := splitBytes s (n - c.utf8Size)
      (c :: before, rest)
    else ([], c :: s)

/-- A place in a text, what stands there, and what was expected instead. -/
structure Diagnostic where
  /-- Bytes in front of the place. -/
  offset : Nat
  /-- The line, counted from one. -/
  line : Nat
  /-- The column in characters, counted from one. -/
  column : Nat
  /-- The word or character at the place, or that the text ends there. -/
  found : String
  /-- Terminals that would have been accepted. -/
  expected : List String
  deriving DecidableEq, Repr

namespace Diagnostic

/-- What is found behind the last character. -/
def endOfInput : String := "end of input"

/-- The token a text begins with : a word, or one other character. -/
def tokenOf (s : List Char) : String :=
  match s with
  | [] => endOfInput
  | c :: _ => if isWordChar c then String.ofList (s.takeWhile isWordChar) else String.singleton c

/-- The diagnostic for an offset into a text. -/
def locate (text : List Char) (offset : Nat) (expected : List String) : Diagnostic :=
  let (before, rest) := splitBytes text offset
  { offset := byteLength before
    line := before.count '\n' + 1
    column := (before.reverse.takeWhile (· != '\n')).length + 1
    found := tokenOf rest
    expected := expected }

/-- The wording of a diagnostic. -/
def message (d : Diagnostic) : String :=
  let found := if d.found == endOfInput then endOfInput else "'" ++ d.found ++ "'"
  let place := s!"unexpected {found} at line {d.line}, column {d.column} (offset {d.offset})"
  if d.expected.isEmpty then place
  else place ++ "; expected one of: " ++ ", ".intercalate d.expected

end Diagnostic

end QueryGate
