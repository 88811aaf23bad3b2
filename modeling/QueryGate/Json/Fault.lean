import QueryGate.Text.Basic

/-!
# Faults in JSON

What is wrong with a text that should be JSON of a certain form, and where. A place is given by
the number of bytes up to it; `PlacedFault.ofOffset` turns it into line and column.
-/

namespace QueryGate.Json

/-- What is wrong with a text. -/
inductive Fault where
  /-- The text ends where a value is expected. -/
  | endInValue
  | endInString
  | endInArray
  | endInObject
  | noValue
  /-- One of the words for null and the truth values is misspelt. -/
  | badWord
  | badNumber
  | hugeNumber
  | noColon
  | noArrayEnd
  | noObjectEnd
  | badEscape
  | loneSurrogate
  | cutSurrogate
  | controlCharacter
  | keyNotString
  | trailingComma
  | trailingText
  /-- A value of another kind than expected. -/
  | mismatch (found expected : String)
  /-- An array with too few items. -/
  | tooShort (length : Nat) (expected : String)
  /-- A second field with the same key. -/
  | repeated (key : String)
  deriving DecidableEq, Repr

/-- The wording of a fault. -/
def Fault.message : Fault → String
  | endInValue => "EOF while parsing a value"
  | endInString => "EOF while parsing a string"
  | endInArray => "EOF while parsing a list"
  | endInObject => "EOF while parsing an object"
  | noValue => "expected value"
  | badWord => "expected ident"
  | badNumber => "invalid number"
  | hugeNumber => "number out of range"
  | noColon => "expected " ++ quoteName ":"
  | noArrayEnd => "expected " ++ quoteName "," ++ " or " ++ quoteName "]"
  | noObjectEnd => "expected " ++ quoteName "," ++ " or " ++ quoteName "\x7d"
  | badEscape => "invalid escape"
  | loneSurrogate => "lone leading surrogate in hex escape"
  | cutSurrogate => "unexpected end of hex escape"
  | controlCharacter =>
    "control character (\\u0000-\\u001F) found while parsing a string"
  | keyNotString => "key must be a string"
  | trailingComma => "trailing comma"
  | trailingText => "trailing characters"
  | mismatch found expected => "invalid type: " ++ found ++ ", expected " ++ expected
  | tooShort length expected => "invalid length " ++ toString length ++ ", expected " ++ expected
  | repeated key => "duplicate field " ++ quoteName key
where
  /-- A text between back quotes. -/
  quoteName (s : String) : String :=
    let mark := String.singleton (Char.ofNat 96)
    mark ++ s ++ mark

/-- A fault and its place. -/
structure PlacedFault where
  fault : Fault
  /-- The line, counted from one. -/
  line : Nat
  /-- The bytes of the line up to the place. -/
  column : Nat
  deriving DecidableEq, Repr

namespace PlacedFault

/-- Line and column behind the first `n` bytes of a text, which begins in the given line behind
the given column. -/
def placeOf : (line column : Nat) → List Char → (n : Nat) → Nat × Nat
  | line, column, [], _ => (line, column)
  | line, column, c :: s, n =>
    if n < c.utf8Size then (line, column + n)
    else if c == '\n' then placeOf (line + 1) 0 s (n - 1)
    else placeOf line (column + c.utf8Size) s (n - c.utf8Size)

/-- A fault behind the first `n` bytes of a text. -/
def ofOffset (text : List Char) (fault : Fault) (n : Nat) : PlacedFault :=
  let (line, column) := placeOf 1 0 text n
  ⟨fault, line, column⟩

/-- The wording of a fault with its place. -/
def message (p : PlacedFault) : String :=
  p.fault.message ++ " at line " ++ toString p.line ++ " column " ++ toString p.column

end PlacedFault

end QueryGate.Json
