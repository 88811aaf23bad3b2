import QueryGate.Statement.Comment
import QueryGate.Statement.Directive

/-!
# Normalized statements

The last gate before a statement is executed. `normalize` takes comments, separators and
directives off, lets only one statement that begins with SELECT or WITH pass, and puts exactly
one directive behind it.
-/

namespace QueryGate

open Text

namespace Statement

/-- Why a text is not taken for a read-only statement. -/
inductive Refusal where
  | empty
  /-- A semicolon outside quotes, at an offset into the statement. -/
  | separator (offset : Nat)
  /-- The statement begins with no word; its first characters. -/
  | noKeyword (start : String)
  /-- The statement begins with another word, given in upper case. -/
  | notReadOnly (keyword : String)
  deriving DecidableEq, Repr

/-- The wording of a refusal. -/
def Refusal.reason : Refusal → String
  | empty => "empty statement"
  | separator offset => s!"multiple statements (separator at offset {offset})"
  | noKeyword start => "statement does not start with a keyword: '" ++ start ++ "'"
  | notReadOnly keyword => "'" ++ keyword ++ "' is not a read-only statement"

/-- The offset of the first semicolon outside quotes. -/
def separator? : Quote → List Char → Option Nat
  | _, [] => none
  | q, c :: s =>
    if q == .outside && c == ';' then some 0
    else (separator? (q.step c) s).map (· + c.utf8Size)

/-- The first word of a statement behind opening parentheses. -/
def leader (s : List Char) : List Char :=
  (s.dropWhile fun c => c == '(' || isWhite c).takeWhile isIdentChar

/-- The words a read-only statement begins with. -/
def readOnlyLeaders : List (List Char) := ["SELECT".toList, "WITH".toList]

/-- Number of characters of a statement that an error quotes. -/
def previewLength : Nat := 32

/-- What keeps a bare statement from being executed. -/
def refusal? (body : List Char) : Option Refusal :=
  if body.isEmpty then some .empty
  else match separator? .outside body with
    | some offset => some (.separator offset)
    | none =>
      let word := leader body
      if readOnlyLeaders.any (sameLetters word) then none
      else if word.isEmpty then some (.noKeyword (String.ofList (body.take previewLength)))
      else some (.notReadOnly (String.ofList (upper word)))

/-- A bare statement with its directive. -/
def withFormat (format body : List Char) : List Char :=
  body ++ ' ' :: formatKeyword ++ ' ' :: format

end Statement

/-- What becomes of a text. -/
inductive Normalized where
  /-- A statement that may be executed. -/
  | query (text : List Char)
  | refused (why : Statement.Refusal)
  /-- A directive would have to be cut off inside a character, and nothing can be answered. -/
  | broken
  deriving DecidableEq, Repr

/-- Puts a directive with the name of an output format behind statements. -/
structure Normalizer where
  /-- The name, with its ASCII letters in upper case. -/
  format : List Char
  deriving DecidableEq, Repr

namespace Normalizer

/-- The normalizer for a format. -/
def ofFormat (format : String) : Normalizer :=
  ⟨upper format.toList⟩

/-- The format used where none is given. -/
def default : Normalizer := ofFormat "JSON"

open Statement in
/-- The statement of a text with exactly one directive behind it. -/
def normalize (n : Normalizer) (text : List Char) : Normalized :=
  match withoutTail (withoutComments text) with
  | none => .broken
  | some body =>
    match refusal? body with
    | some why => .refused why
    | none => .query (withFormat n.format body)

end Normalizer

end QueryGate
