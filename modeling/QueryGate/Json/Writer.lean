import QueryGate.Json.Value

/-!
# Writing JSON

The compact form : no blanks, fields in order, the shortest digits that read back
(`numberText`), and in strings only what has to be escaped (`escapeChar`).
-/

namespace QueryGate.Json

/-- The hexadecimal digit of a number below sixteen. -/
def hexDigit (n : Nat) : Char :=
  if n < 10 then Char.ofNat (48 + n) else Char.ofNat (87 + n)

/-- A character as it stands inside a string. -/
def escapeChar (c : Char) : List Char :=
  if c == '"' then ['\\', '"']
  else if c == '\\' then ['\\', '\\']
  else if c == '\n' then ['\\', 'n']
  else if c == '\t' then ['\\', 't']
  else if c == '\r' then ['\\', 'r']
  else if c == '\u0008' then ['\\', 'b']
  else if c == '\u000c' then ['\\', 'f']
  else if c.toNat < 32 then
    ['\\', 'u', '0', '0', hexDigit (c.toNat / 16), hexDigit (c.toNat % 16)]
  else [c]

/-- A string with its quotes. -/
def quoted (s : List Char) : List Char :=
  '"' :: (s.flatMap escapeChar ++ ['"'])

/-- An exponent with its sign. -/
def exponentText (e : Int) : List Char :=
  'e' :: if e < 0 then (toString e).toList else '+' :: (toString e).toList

/-- A decimal in the layout of JSON numbers : positional for points between `-4` and `16`, a
fraction even if it is zero; else one digit, the fraction if there is any, and an exponent. -/
def decimalText (d : Decimal.Numeral) : List Char :=
  let digits := Nat.toDigits 10 d.digits
  let n := digits.length
  if 0 < d.point ∧ d.point ≤ 16 then
    let p := d.point.toNat
    if n ≤ p then digits ++ List.replicate (p - n) '0' ++ ['.', '0']
    else digits.take p ++ '.' :: digits.drop p
  else if -5 < d.point ∧ d.point ≤ 0 then
    ['0', '.'] ++ List.replicate (-d.point).toNat '0' ++ digits
  else
    let fraction := if n = 1 then [] else '.' :: digits.drop 1
    digits.take 1 ++ fraction ++ exponentText (d.point - 1)

/-- A finite `binary64` word. -/
def floatText (bits : Nat) : List Char :=
  let sign := if Decimal.binary64.isNegative bits then ['-'] else []
  let magnitude := Decimal.binary64.magnitude bits
  sign ++ if magnitude = 0 then ['0', '.', '0']
    else decimalText (Decimal.shortest Decimal.binary64 magnitude)

/-- A number. -/
def numberText : Number → List Char
  | .int n => (toString n).toList
  | .float bits => floatText bits

mutual

/-- The compact text of a value. -/
def write : Json → List Char
  | null => "null".toList
  | bool true => "true".toList
  | bool false => "false".toList
  | number n => numberText n
  | string s => quoted s.toList
  | array items => '[' :: (writeItems items ++ [']'])
  | object fields => '\x7b' :: (writeFields fields ++ ['\x7d'])

/-- Items with commas between them. -/
def writeItems : List Json → List Char
  | [] => []
  | [v] => write v
  | v :: rest => write v ++ ',' :: writeItems rest

/-- Fields with commas between them. -/
def writeFields : List (String × Json) → List Char
  | [] => []
  | [(k, v)] => quoted k.toList ++ ':' :: write v
  | (k, v) :: rest => quoted k.toList ++ ':' :: (write v ++ ',' :: writeFields rest)

end

/-- The compact text of a value, as a string. -/
def text (v : Json) : String :=
  String.ofList v.write

end QueryGate.Json
