/-!
# Quotes

Single, double and back quotes hide what stands between them. Inside, a backslash takes the
meaning of the character behind it away. `Quote.step` follows a text character by character.
-/

namespace QueryGate.Statement

/-- Where a character stands with regard to quotes. -/
inductive Quote where
  | outside
  /-- Between quotes of the given kind. -/
  | inside (mark : Char)
  /-- Between quotes of the given kind, behind a backslash. -/
  | escaped (mark : Char)
  deriving DecidableEq, Repr

/-- The characters that open quotes. -/
def isQuoteMark (c : Char) : Bool :=
  c == '\'' || c == '"' || c == Char.ofNat 96

namespace Quote

/-- The state behind a character. -/
def step : Quote → Char → Quote
  | outside, c => if isQuoteMark c then inside c else outside
  | inside mark, c => if c == '\\' then escaped mark else if c == mark then outside else inside mark
  | escaped mark, _ => inside mark

/-- The state behind a text. -/
def after (q : Quote) (s : List Char) : Quote :=
  s.foldl step q

end Quote

end QueryGate.Statement
