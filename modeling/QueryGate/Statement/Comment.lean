import QueryGate.Statement.Quote
import QueryGate.Text.Basic

/-!
# Comments

Line comments run from two hyphens to the end of the line, block comments from `/*` to the next
`*/`; neither begins inside quotes. `withoutComments` drops line comments and puts a space for
each block comment, so that what it parted stays apart.
-/

namespace QueryGate.Statement

open Text

/-- What a character belongs to. -/
inductive Region where
  /-- The statement itself. -/
  | text (quote : Quote)
  | lineComment
  /-- A block comment; `star` if the character before was a star of its own. -/
  | blockComment (star : Bool)
  deriving DecidableEq, Repr

/-- A text without its comments, from a place in the given region on. -/
def dropComments : Region → List Char → List Char
  | _, [] => []
  | .text .outside, '-' :: '-' :: s => dropComments .lineComment s
  | .text .outside, '/' :: '*' :: s => ' ' :: dropComments (.blockComment false) s
  | .text quote, c :: s => c :: dropComments (.text (quote.step c)) s
  | .lineComment, c :: s =>
    if c == '\n' then c :: dropComments (.text .outside) s else dropComments .lineComment s
  | .blockComment star, c :: s =>
    if star && c == '/' then dropComments (.text .outside) s
    else dropComments (.blockComment (c == '*')) s

/-- A text without its comments. Most texts hold neither two hyphens nor a slash and a star, and
stay as they are. -/
def withoutComments (s : List Char) : List Char :=
  if isInfix ['-', '-'] s || isInfix ['/', '*'] s then dropComments (.text .outside) s else s

end QueryGate.Statement
