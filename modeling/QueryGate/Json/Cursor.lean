import QueryGate.Json.Fault
import QueryGate.Json.Reader
import QueryGate.Json.Writer
import QueryGate.Text.Quoted

/-!
# Reading JSON with an eye to faults

Readers that go through a text from left to right and stop at the first fault. A fault lies
before the next character (`fail`) or behind its first byte (`failNext`). `ignored` passes over a
value that nobody asks for, `stringOrNull` takes one that has to be a string or null, and `whole`
reads a text to its end.
-/

namespace QueryGate.Json

open Text

/-- How far a text has been read. -/
structure Cursor where
  /-- The bytes passed. -/
  offset : Nat
  rest : List Char
  deriving DecidableEq, Repr

/-- Reads on from a cursor, or finds a fault at an offset. -/
abbrev Scan := StateT Cursor (Except (Fault × Nat))

namespace Scan

/-- A fault before the next character. -/
def fail {α : Type} (f : Fault) : Scan α := do
  throw (f, (← get).offset)

/-- A fault behind the first byte of the next character. -/
def failNext {α : Type} (f : Fault) : Scan α := do
  let c ← get
  throw (f, if c.rest.isEmpty then c.offset else c.offset + 1)

/-- The next character. -/
def peek : Scan (Option Char) := return (← get).rest.head?

/-- Passes over the next character. -/
def skip : Scan Unit :=
  modify fun c => match c.rest with
    | d :: rest => ⟨c.offset + d.utf8Size, rest⟩
    | [] => c

/-- Passes over characters that satisfy a test, and gives their number. -/
def skipWhile (p : Char → Bool) : Scan Nat := do
  let c ← get
  let taken := c.rest.takeWhile p
  set (Cursor.mk (c.offset + byteLength taken) (c.rest.dropWhile p))
  return taken.length

/-- The next character behind blanks. -/
def peekPart : Scan (Option Char) := do
  let _ ← skipWhile fun c => c == ' ' || c == '\n' || c == '\t' || c == '\r'
  peek

/-- Passes over the letters of a word. -/
def word : List Char → Scan Unit
  | [] => return
  | c :: cs => do
    match ← peek with
    | none => fail .endInValue
    | some d => if d == c then do skip; word cs else failNext .badWord

/-- Four hexadecimal digits. -/
def hexUnit : Scan Nat := do
  let c ← get
  match c.rest with
  | a :: b :: d :: e :: rest =>
    if let some n := hexUnit? a b d e then
      set (Cursor.mk (c.offset + 4) rest)
      return n
  | _ => pure ()
  if byteLength c.rest < 4 then throw (.endInString, c.offset + byteLength c.rest)
  else throw (.badEscape, c.offset + 4)

/-- One character that has to follow the first half of a surrogate pair. -/
def surrogateMark (mark : Char) : Scan Unit := do
  match ← peek with
  | none => fail .endInString
  | some c => if c == mark then skip else failNext .cutSurrogate

/-- The character of an escape behind its `u`. -/
def unicodeEscape : Scan Char := do
  let n ← hexUnit
  if 0xDC00 ≤ n ∧ n ≤ 0xDFFF then fail .loneSurrogate
  else if 0xD800 ≤ n ∧ n ≤ 0xDBFF then
    surrogateMark '\\'
    surrogateMark 'u'
    match surrogatePair? n (← hexUnit) with
    | some c => return c
    | none => fail .loneSurrogate
  else return Char.ofNat n

/-- The character of an escape behind its backslash. -/
def escape : Scan Char := do
  match ← peek with
  | none => fail .endInString
  | some 'u' => do skip; unicodeEscape
  | some c => match simpleEscape? c with
    | some d => do skip; return d
    | none => failNext .badEscape

/-- Passes over an escape behind its backslash; surrogates may stand alone. -/
def ignoredEscape : Scan Unit := do
  match ← peek with
  | some 'u' => do skip; discard hexUnit
  | _ => discard escape

/-- Whether a character may not stand in a string. -/
def isControl (c : Char) : Bool := c.toNat < 32

/-- A string behind its opening quote; `fuel` is more than the text is long. -/
def stringBody : (fuel : Nat) → Scan (List Char)
  | 0 => fail .endInString
  | fuel + 1 => do
    match ← peek with
    | none => fail .endInString
    | some '"' => do skip; return []
    | some '\\' => do
      skip
      let c ← escape
      return c :: (← stringBody fuel)
    | some c =>
      if isControl c then failNext .controlCharacter
      else do
        skip
        return c :: (← stringBody fuel)

/-- A string behind its opening quote. -/
def string : Scan String := do
  return String.ofList (← stringBody ((← get).rest.length + 1))

/-- Passes over a string behind its opening quote. -/
def ignoredStringBody : (fuel : Nat) → Scan Unit
  | 0 => fail .endInString
  | fuel + 1 => do
    match ← peek with
    | none => fail .endInString
    | some '"' => skip
    | some '\\' => do skip; ignoredEscape; ignoredStringBody fuel
    | some c => if isControl c then fail .controlCharacter else do skip; ignoredStringBody fuel

/-- Passes over a string behind its opening quote. -/
def ignoredString : Scan Unit := do
  ignoredStringBody ((← get).rest.length + 1)

/-- The fault of a number that ends too early; a number that is looked at tells whether the text
ends there. -/
def badNumberEnd (looked : Bool) : Scan Fault := do
  return if looked && (← peek).isNone then .endInValue else .badNumber

/-- Passes over the exponent of a number. -/
def exponent (looked : Bool) : Scan Unit := do
  skip
  if (← peek).any fun c => c == '+' || c == '-' then skip
  if (← peek).any Char.isDigit then discard (skipWhile Char.isDigit)
  else failNext (← badNumberEnd looked)

/-- Passes over what may follow the whole part of a number. -/
def fraction (looked : Bool) : Scan Unit := do
  if (← peek) == some '.' then
    skip
    if (← skipWhile Char.isDigit) == 0 then failNext (← badNumberEnd looked)
  if (← peek).any fun c => c == 'e' || c == 'E' then exponent looked

/-- Passes over a number behind its sign. -/
def number (looked : Bool) : Scan Unit := do
  match ← peek with
  | some '0' => do
    skip
    if (← peek).any Char.isDigit then failNext .badNumber else fraction looked
  | some c =>
    if c.isDigit then do
      discard (skipWhile Char.isDigit)
      fraction looked
    else failNext .badNumber
  | none => failNext (← badNumberEnd looked)

/-- A number as it is named in a fault. -/
def numberName (n : Number) : String :=
  let mark := [Char.ofNat 96]
  (match n with
    | .int _ => "integer "
    | .float _ => "floating point ") ++ String.ofList (mark ++ numberText n ++ mark)

/-- The fault of a value of another kind than expected. -/
def mismatched {α : Type} (expected : String) : Scan α := do
  let found ← describe
  fail (.mismatch found expected)
where
  /-- Passes over a value as far as it has to be looked at, and names it. -/
  describe : Scan String := do
    let before := (← get).rest
    match ← peek with
    | some 'n' => do word "null".toList; return "null"
    | some 't' => do word "true".toList; return truthName "true"
    | some 'f' => do word "false".toList; return truthName "false"
    | some '"' => do skip; return "string " ++ showQuoted (← string)
    | some '[' => return "sequence"
    | some '\x7b' => return "map"
    | some c =>
      if c == '-' || c.isDigit then do
        if c == '-' then skip
        number true
        match readNumber before with
        | some (n, _) => return numberName n
        | none => fail .hugeNumber
      else failNext .noValue
    | none => failNext .noValue
  /-- A truth value as it is named in a fault. -/
  truthName (s : String) : String :=
    let mark := String.singleton (Char.ofNat 96)
    "boolean " ++ mark ++ s ++ mark

/-- A string, or null. -/
def stringOrNull : Scan (Option String) := do
  match ← peekPart with
  | some 'n' => do word "null".toList; return none
  | some '"' => do skip; return some (← string)
  | some _ => mismatched "a string"
  | none => failNext .endInValue

/-- A kind of bracket that is open. -/
inductive Bracket where
  | array
  | object
  deriving DecidableEq, Repr

/-- The character that closes a bracket. -/
def Bracket.close : Bracket → Char
  | array => ']'
  | object => '\x7d'

/-- The fault of a text that ends inside a bracket. -/
def Bracket.endFault : Bracket → Fault
  | array => .endInArray
  | object => .endInObject

/-- The fault of a bracket that does not go on as it should. -/
def Bracket.partFault : Bracket → Fault
  | array => .noArrayEnd
  | object => .noObjectEnd

/-- Passes over the colon behind a key. -/
def colon : Scan Unit := do
  match ← peekPart with
  | some ':' => skip
  | some _ => failNext .noColon
  | none => failNext .endInObject

/-- Passes over the key of a field in an object, and its colon. -/
def ignoredKey : Scan Unit := do
  match ← peekPart with
  | some '"' => do skip; ignoredString; colon
  | some _ => failNext .keyNotString
  | none => failNext .endInObject

/-- Passes over a value without items; none if it begins with a bracket. -/
def ignoredScalar : Scan (Option Bracket) := do
  match ← peekPart with
  | some 'n' => do word "null".toList; return none
  | some 't' => do word "true".toList; return none
  | some 'f' => do word "false".toList; return none
  | some '"' => do skip; ignoredString; return none
  | some '[' => do skip; return some .array
  | some '\x7b' => do skip; return some .object
  | some c =>
    if c == '-' then do skip; number false; return none
    else if c.isDigit then do number false; return none
    else failNext .noValue
  | none => failNext .endInValue

/-- Passes over what closes brackets, up to where the next item of an open one begins. The flag
says whether an item came before. The brackets that stay open are given, the innermost first. -/
def closeBrackets : (behindItem : Bool) → List Bracket → Scan (List Bracket)
  | _, [] => return []
  | behindItem, b :: outer => do
    match ← peekPart with
    | none => failNext b.endFault
    | some c =>
      if c == b.close then do skip; closeBrackets true outer
      else if behindItem then
        if c == ',' then do skip; return b :: outer else failNext b.partFault
      else return b :: outer

/-- Passes over a value and what follows it inside open brackets; `fuel` is more than the text is
long. -/
def ignoredWithin : (fuel : Nat) → List Bracket → Scan Unit
  | 0, _ => return
  | fuel + 1, brackets => do
    let opened ← ignoredScalar
    match ← closeBrackets opened.isNone (opened.toList ++ brackets) with
    | [] => return
    | .array :: outer => ignoredWithin fuel (.array :: outer)
    | .object :: outer => do ignoredKey; ignoredWithin fuel (.object :: outer)

/-- Passes over a value. -/
def ignored : Scan Unit := do
  ignoredWithin ((← get).rest.length + 1) []

/-- A value of a whole text, behind which only blanks may follow. -/
def whole {α : Type} (p : Scan α) (text : List Char) : Except PlacedFault α :=
  let toEnd : Scan α := do
    let a ← p
    if (← peekPart).isSome then failNext .trailingText
    return a
  match toEnd.run ⟨0, text⟩ with
  | .ok (a, _) => .ok a
  | .error (f, n) => .error (.ofOffset text f n)

end Scan

end QueryGate.Json
