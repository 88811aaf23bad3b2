import QueryGate.Text.Basic

/-!
# White space

The characters with the property White_Space, trimming by them, and the narrower set of ASCII
blanks.
-/

namespace QueryGate.Text

/-- Whether the character has the property White_Space. -/
def isWhite (c : Char) : Bool :=
  c == ' ' || ('\t' ≤ c && c ≤ '\r') || c == '\u0085' || c == '\u00a0' || c == '\u1680' ||
    ('\u2000' ≤ c && c ≤ '\u200a') || c == '\u2028' || c == '\u2029' || c == '\u202f' ||
    c == '\u205f' || c == '\u3000'

/-- A text without white space at its start. -/
def trimStart (s : List Char) : List Char :=
  s.dropWhile isWhite

/-- A text without white space at its end. -/
def trimEnd (s : List Char) : List Char :=
  dropEndWhile isWhite s

/-- A text without white space at either end. -/
def trim (s : List Char) : List Char :=
  trimEnd (trimStart s)

/-- Whether nothing but white space stands in the text. -/
def isBlank (s : List Char) : Bool :=
  s.all isWhite

/-- A string without white space at either end. -/
def trimString (s : String) : String :=
  String.ofList (trim s.toList)

end QueryGate.Text
