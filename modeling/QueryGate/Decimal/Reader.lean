import QueryGate.Decimal.Shortest

/-!
# Reading decimals

`read?` reads a decimal numeral with optional sign, fraction and exponent, or one of the words
for infinity and not-a-number, into the nearest word of a binary format.
-/

namespace QueryGate.Decimal

/-- The value of a run of decimal digits. -/
def digitsValue (s : List Char) : Nat :=
  s.foldl (fun n c => n * 10 + (c.toNat - 48)) 0

/-- The word nearest to `digits · 10 ^ exponent`. Exponents far out of range are answered without
the power of ten. -/
def ofScientific (f : BinaryFormat) (digits : Nat) (exponent : Int) : Nat :=
  let point := exponent + digitCount digits
  if digits = 0 then 0
  else if 400 < point then f.infinity
  else if point < -400 then 0
  else
    let (num, den) := scaleTen digits 1 exponent
    f.roundRatio num den

/-- A sign at the start of a text, and what follows it. -/
def splitSign : List Char → Bool × List Char
  | '-' :: s => (true, s)
  | '+' :: s => (false, s)
  | s => (false, s)

/-- The exponent part of a numeral, which has to fill the text. -/
def readExponent? : List Char → Option Int
  | [] => some 0
  | c :: s =>
    let (negative, digits) := splitSign s
    if (c == 'e' || c == 'E') && !digits.isEmpty && digits.all Char.isDigit then
      some (if negative then -(digitsValue digits : Int) else digitsValue digits)
    else none

/-- An unsigned numeral : digits with at most one point among them, then an exponent. -/
def readMagnitude? (f : BinaryFormat) (s : List Char) : Option Nat :=
  let whole := s.takeWhile Char.isDigit
  let (fraction, rest) := match s.dropWhile Char.isDigit with
    | '.' :: t => (t.takeWhile Char.isDigit, t.dropWhile Char.isDigit)
    | t => ([], t)
  if whole.isEmpty && fraction.isEmpty then none
  else (readExponent? rest).map fun e =>
    ofScientific f (digitsValue (whole ++ fraction)) (e - fraction.length)

/-- The word of a format that a whole text stands for. -/
def read? (f : BinaryFormat) (s : List Char) : Option Nat :=
  let (negative, rest) := splitSign s
  let word := String.ofList (rest.map Char.toLower)
  if word == "inf" || word == "infinity" then some (f.withSign negative f.infinity)
  else if word == "nan" then some (f.withSign negative (f.infinity + Nat.pow 2 (f.fractionBits - 1)))
  else (readMagnitude? f rest).map (f.withSign negative)

end QueryGate.Decimal
