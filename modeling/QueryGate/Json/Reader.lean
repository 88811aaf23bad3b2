import QueryGate.Json.Value
import QueryGate.Text.Reader

/-!
# Reading JSON

`read?` reads a whole text as one value. Fields that share a key are all kept, in order, so that
a reader of records can refuse them; `readValue?` gives the value in the usual sense, in which
the last of them counts.

Numbers with fraction or exponent are read as a significand of 64 bits and a power of ten that
are then multiplied or divided in `binary64` (`scaled?`); digits that no longer fit are dropped.
-/

namespace QueryGate.Json

open Text Decimal

/-- Arrays and objects may nest this deep. -/
def maxDepth : Nat := 127

/-- Text without the blanks at its start. -/
def skipBlanks (s : List Char) : List Char :=
  s.dropWhile fun c => c == ' ' || c == '\n' || c == '\t' || c == '\r'

/-- A reader that passes over blanks first. -/
def afterBlanks {α : Type} (p : Reader α) : Reader α := fun s => p (skipBlanks s)

/-- The value of a hexadecimal digit. -/
def hexValue? (c : Char) : Option Nat :=
  if c.isDigit then some (c.toNat - 48)
  else if 'a' ≤ c && c ≤ 'f' then some (c.toNat - 87)
  else if 'A' ≤ c && c ≤ 'F' then some (c.toNat - 55)
  else none

/-- The value of four hexadecimal digits. -/
def hexUnit? (a b c d : Char) : Option Nat := do
  pure ((((← hexValue? a) * 16 + (← hexValue? b)) * 16 + (← hexValue? c)) * 16 + (← hexValue? d))

/-- The character a backslash and one letter stand for. -/
def simpleEscape? (c : Char) : Option Char :=
  if c == '"' then some '"'
  else if c == '\\' then some '\\'
  else if c == '/' then some '/'
  else if c == 'b' then some '\u0008'
  else if c == 'f' then some '\u000c'
  else if c == 'n' then some '\n'
  else if c == 'r' then some '\r'
  else if c == 't' then some '\t'
  else none

/-- The character of two units of UTF-16. -/
def surrogatePair? (high low : Nat) : Option Char :=
  if 0xDC00 ≤ low ∧ low ≤ 0xDFFF then
    some (Char.ofNat (0x10000 + (high - 0xD800) * 0x400 + (low - 0xDC00)))
  else none

/-- What stands between the quotes of a string, with the rest after the closing quote. -/
def readStringBody : Reader (List Char)
  | [] => none
  | '"' :: rest => some ([], rest)
  | '\\' :: 'u' :: a :: b :: c :: d :: rest =>
    match hexUnit? a b c d with
    | none => none
    | some n =>
      if 0xD800 ≤ n ∧ n ≤ 0xDBFF then
        match rest with
        | '\\' :: 'u' :: a' :: b' :: c' :: d' :: rest' =>
          ((hexUnit? a' b' c' d').bind (surrogatePair? n)).bind fun x =>
            (readStringBody rest').map fun (cs, last) => (x :: cs, last)
        | _ => none
      else if 0xDC00 ≤ n ∧ n ≤ 0xDFFF then none
      else (readStringBody rest).map fun (cs, last) => (Char.ofNat n :: cs, last)
  | '\\' :: c :: rest =>
    (simpleEscape? c).bind fun x => (readStringBody rest).map fun (cs, last) => (x :: cs, last)
  | c :: rest =>
    if c.toNat < 32 || c == '\\' then none
    else (readStringBody rest).map fun (cs, last) => (c :: cs, last)

/-- A string with its quotes. -/
def readString : Reader String := fun s =>
  (Reader.char '"' s).bind fun (_, rest) =>
    (readStringBody rest).map fun (cs, last) => (String.ofList cs, last)

/-- The largest integer of 64 bits. -/
def maxNat : Nat := Nat.pow 2 64 - 1

/-- Appends digits to a significand as long as it fits into 64 bits; the second part counts the
digits appended. -/
def appendDigits (significand : Nat) : List Char → Nat × Nat
  | [] => (significand, 0)
  | c :: cs =>
    let next := significand * 10 + (c.toNat - 48)
    if next ≤ maxNat then
      let (n, k) := appendDigits next cs
      (n, k + 1)
    else (significand, 0)

/-- The product or quotient of two magnitudes, rounded. -/
def combine (a b : Nat) (divide : Bool) : Nat :=
  let (n, d) := binary64.ratio a
  let (n', d') := binary64.ratio b
  if divide then binary64.roundRatio (n * d') (d * n') else binary64.roundRatio (n * n') (d * d')

/-- The `binary64` word of a power of ten. -/
def powerOfTen (k : Nat) : Nat := binary64.roundRatio (Nat.pow 10 k) 1

/-- A magnitude divided by `10 ^ k`, at most 308 powers at a time. -/
def divideByTen (bits k : Nat) : Nat :=
  if bits = 0 then 0
  else if k ≤ 308 then combine bits (powerOfTen k) true
  else divideByTen (combine bits (powerOfTen 308) true) (k - 308)
termination_by k

/-- The magnitude of `significand · 10 ^ exponent`; `none` past the largest number. -/
def scaled? (significand : Nat) (exponent : Int) : Option Nat :=
  let bits := binary64.roundRatio significand 1
  if exponent < 0 then some (divideByTen bits (-exponent).toNat)
  else if bits = 0 then some 0
  else if 308 < exponent then none
  else
    let product := combine bits (powerOfTen exponent.toNat) false
    if product = binary64.infinity then none else some product

/-- The digits of a whole part : a zero alone, or any run that begins with another digit. -/
def readWhole : Reader (List Char) := fun s =>
  match s.takeWhile Char.isDigit with
  | [] => none
  | ['0'] => some (['0'], s.drop 1)
  | '0' :: _ => none
  | digits => some (digits, s.dropWhile Char.isDigit)

/-- The fraction of a number, empty if there is none. A point asks for a digit. -/
def readFraction : Reader (List Char)
  | '.' :: s => Reader.run1 Char.isDigit s
  | s => some ([], s)

/-- The exponent of a number with its sign, if there is one. -/
def readPower : Reader (Option (Bool × List Char))
  | c :: s =>
    if c == 'e' || c == 'E' then
      let (negative, rest) := splitSign s
      (Reader.run1 Char.isDigit rest).map fun (digits, last) => (some (negative, digits), last)
    else some (none, c :: s)
  | [] => some (none, [])

/-- The magnitude of a number with fraction or exponent, or too large for an integer. -/
def magnitude? (whole fraction : List Char) (power : Option (Bool × List Char)) : Option Nat :=
  let (n, taken) := appendDigits 0 whole
  let (m, more) := appendDigits n fraction
  let exponent : Int := (whole.length - taken : Nat) - more
  match power with
  | none => scaled? m exponent
  | some (negative, digits) =>
    let e := digitsValue digits
    if Nat.pow 2 31 - 1 < e then
      if m ≠ 0 ∧ !negative then none else some 0
    else scaled? m (if negative then exponent - e else exponent + e)

/-- A number. -/
def readNumber : Reader Number := fun s => do
  let (negative, unsigned) := match s with
    | '-' :: rest => (true, rest)
    | _ => (false, s)
  let (whole, s1) ← readWhole unsigned
  let (fraction, s2) ← readFraction s1
  let (power, s3) ← readPower s2
  let n := digitsValue whole
  let exact := fraction.isEmpty && power.isNone
  if exact && !negative && n ≤ maxNat then some (.int n, s3)
  else if exact && negative && 0 < n && n ≤ Nat.pow 2 63 then some (.int (-n), s3)
  else (magnitude? whole fraction power).map fun bits =>
    (.float (binary64.withSign negative bits), s3)

/-- A bracketed list : the opening bracket has been read, `close` ends it. -/
def readListed {α : Type} (item : Reader α) (close : Char) : Reader (List α) := fun s =>
  match Reader.char close (skipBlanks s) with
  | some (_, rest) => some ([], rest)
  | none => (Reader.sepBy1 (afterBlanks (Reader.char ',')) (afterBlanks item) s).bind
      fun (items, rest) => (afterBlanks (Reader.char close) rest).map fun (_, last) =>
        (items, last)

/-- One field : a key, a colon and a value. -/
def readField (value : Reader Json) : Reader (String × Json) := fun s =>
  (readString s).bind fun (key, s1) => (afterBlanks (Reader.char ':') s1).bind fun (_, s2) =>
    (afterBlanks value s2).map fun (v, s3) => ((key, v), s3)

/-- A value that begins with the first character and nests at most `depth` deep. -/
def readAt : (depth : Nat) → Reader Json
  | depth, s =>
    match s with
    | '"' :: _ => (readString s).map fun (t, rest) => (string t, rest)
    | 't' :: _ => (Reader.word "true".toList s).map fun (_, rest) => (bool true, rest)
    | 'f' :: _ => (Reader.word "false".toList s).map fun (_, rest) => (bool false, rest)
    | 'n' :: _ => (Reader.word "null".toList s).map fun (_, rest) => (null, rest)
    | c :: rest =>
      match depth with
      | depth + 1 =>
        if c == '[' then (readListed (readAt depth) ']' rest).map
          fun (items, last) => (array items, last)
        else if c == '\x7b' then (readListed (readField (readAt depth)) '\x7d' rest).map
          fun (fields, last) => (object fields, last)
        else (readNumber s).map fun (n, last) => (number n, last)
      | 0 =>
        if c == '[' || c == '\x7b' then none
        else (readNumber s).map fun (n, last) => (number n, last)
    | [] => none

/-- The syntax of a whole text : one value with blanks around it, and all fields kept. -/
def read? (s : List Char) : Option Json :=
  match afterBlanks (readAt maxDepth) s with
  | some (v, rest) => if (skipBlanks rest).isEmpty then some v else none
  | none => none

/-- The value a whole text stands for. -/
def readValue? (s : List Char) : Option Json :=
  (read? s).map settle

end QueryGate.Json
