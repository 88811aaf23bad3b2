import QueryGate.Text.WhiteSpace

/-!
# Code fences

A model that answers in prose puts a query between code fences : three back quotes, perhaps the
name of a language, and three back quotes at the end. `stripFences` takes the fences off, and
with them all white space around the query.
-/

namespace QueryGate.CodeFence

open Text

/-- What a fence is made of. -/
def mark : List Char := List.replicate 3 (Char.ofNat 96)

/-- The letters of a language name : the ASCII letters and the two characters that fold to one of
them, long s and the kelvin sign. -/
def isLanguageLetter (c : Char) : Bool :=
  c.isAlpha || c == '\u017f' || c == '\u212a'

/-- A text without the fence it begins with. -/
def dropOpening (s : List Char) : List Char :=
  if mark.isPrefixOf s then (s.drop mark.length).dropWhile isLanguageLetter else s

/-- A text without the fence it ends with. -/
def dropClosing (s : List Char) : List Char :=
  let trimmed := trimEnd s
  if mark.isSuffixOf trimmed then trimmed.take (trimmed.length - mark.length) else trimmed

/-- A text without the fences and white space around it. -/
def stripFences (s : List Char) : List Char :=
  trim (dropClosing (dropOpening (trim s)))

end QueryGate.CodeFence
