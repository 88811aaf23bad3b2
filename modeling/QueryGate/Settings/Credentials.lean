import QueryGate.Json.Cursor

/-!
# Credentials

The file that host and token of the engine can stand in : an object, in which other keys are
passed over, or an array of the two. Either may be null, and be missing from an object
(`Credentials.read`).
-/

namespace QueryGate

/-- Host and token of the engine, as far as they are given. -/
structure Credentials where
  host : Option String
  token : Option String
  deriving DecidableEq, Repr

namespace Credentials

open Json Scan

/-- The keys of host and token, which is also their order in an array. -/
def keys : List String := ["host", "token"]

/-- What faults call the record. -/
def recordName : String := "struct TinybFile"

/-- Takes a bracket off, if it is the next thing. -/
def skipBracket (bracket : Char) : Scan Unit := do
  if (← peekPart) == some bracket then skip

/-- Passes over what stands in front of a field, and the quote its key begins with. No field is
left where the bracket follows. -/
def nextField (first : Bool) : Scan Bool := do
  match ← peekPart with
  | none => failNext .endInObject
  | some '\x7d' => return false
  | some c =>
    if first then
      if c == '"' then do skip; return true else failNext .keyNotString
    else if c == ',' then do
      skip
      match ← peekPart with
      | some '"' => do skip; return true
      | some '\x7d' => failNext .trailingComma
      | some _ => failNext .keyNotString
      | none => failNext .endInValue
    else failNext .noObjectEnd

/-- The values of the keys in an object behind its bracket; `fuel` is more than the text is
long. -/
def readFields : (fuel : Nat) → (found : List (String × Option String)) → (first : Bool) →
    Scan (List (String × Option String))
  | 0, found, _ => return found
  | fuel + 1, found, first => do
    if !(← nextField first) then return found
    let key ← string
    if !keys.contains key then
      colon
      ignored
      readFields fuel found false
    else if (found.lookup key).isSome then
      skipBracket '\x7d'
      fail (.repeated key)
    else
      colon
      let value ← stringOrNull
      readFields fuel ((key, value) :: found) false

/-- The items of an array behind its bracket, as many as there are keys. -/
def readItems : (left : List String) → (found : List (String × Option String)) →
    Scan (List (String × Option String))
  | [], found => return found
  | key :: left, found => do
    match ← peekPart with
    | none => failNext .endInArray
    | some ']' => do
      skip
      fail (.tooShort found.length (recordName ++ " with 2 elements"))
    | some c =>
      if !found.isEmpty then
        if c == ',' then
          skip
          match ← peekPart with
          | some ']' => failNext .trailingComma
          | some _ => pure ()
          | none => failNext .endInValue
        else failNext .noArrayEnd
      let value ← stringOrNull
      readItems left ((key, value) :: found)

/-- Takes the end of an array off. -/
def endArray : Scan Unit := do
  match ← peekPart with
  | some ']' => skip
  | some ',' => do
    skip
    if (← peekPart) == some ']' then failNext .trailingComma else failNext .trailingText
  | some _ => failNext .trailingText
  | none => failNext .endInArray

/-- The values of the keys in a record. -/
def readRecord : Scan (List (String × Option String)) := do
  match ← peekPart with
  | none => failNext .endInValue
  | some '\x7b' => do
    skip
    let found ← readFields ((← get).rest.length + 1) [] true
    skipBracket '\x7d'
    return found
  | some '[' => do
    skip
    let found ← readItems keys []
    endArray
    return found
  | some _ => mismatched recordName

/-- The credentials in a text. -/
def read (text : List Char) : Except PlacedFault Credentials :=
  (whole readRecord text).map fun found =>
    ⟨(found.lookup "host").join, (found.lookup "token").join⟩

end Credentials

end QueryGate
