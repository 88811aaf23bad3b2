import QueryGate.Text.WhiteSpace
import QueryGate.Text.Numeric

/-!
# Environments

The variables that settings come from, and the file that adds to them. A line of the file is a
name, an equals sign and a value; blank lines and lines that begin with a hash sign are passed
over, and the first line that is anything else ends the reading. A variable that is set keeps its
value (`Environment.define`).

A value may be quoted in part. Outside single quotes a backslash takes the next character as it
is, and a dollar sign puts in the value of another variable (`readValue?`).
-/

namespace QueryGate

/-- Variables with their values. -/
abbrev Environment := List (String × String)

namespace Environment

open Text

/-- The value of a variable. -/
def value? (env : Environment) (name : String) : Option String :=
  List.lookup name env

/-- The environment with one more variable, unless it is set. -/
def define (env : Environment) (name value : String) : Environment :=
  if (env.value? name).isSome then env else env ++ [(name, value)]

/-- Where in a value a character stands. -/
inductive Place where
  | text
  /-- Between single quotes. -/
  | quote
  /-- Behind a backslash. -/
  | escape
  /-- In the name of a variable, as far as it goes. -/
  | name (read : List Char)
  /-- In the name of a variable between braces. -/
  | braces (read : List Char)
  /-- Behind the value, where only blanks may follow. -/
  | behind
  /-- In a comment behind the value. -/
  | comment
  deriving DecidableEq, Repr

/-- How far a value has been read. -/
structure ValueReader where
  place : Place
  /-- Whether double quotes are open. -/
  quoted : Bool
  /-- The value so far. -/
  value : List Char
  deriving DecidableEq, Repr

namespace ValueReader

/-- Nothing is read yet. -/
def start : ValueReader := ⟨.text, false, []⟩

/-- The reader in another place. -/
def moveTo (r : ValueReader) (place : Place) : ValueReader :=
  { r with place := place }

/-- The reader with more of the value, in the text. -/
def push (r : ValueReader) (s : List Char) : ValueReader :=
  { r with place := .text, value := r.value ++ s }

/-- The reader with the value of a variable, which is empty if the variable is not set. -/
def insert (r : ValueReader) (env : Environment) (name : List Char) : ValueReader :=
  r.push ((env.value? (String.ofList name)).getD "").toList

/-- The character that a backslash and a character stand for. -/
def escape? (c : Char) : Option Char :=
  if c == 'n' then some '\n'
  else if ['\\', '\'', '"', '$', ' '].contains c then some c
  else none

/-- The reader behind a character in the text. -/
def stepText (r : ValueReader) (c : Char) : ValueReader :=
  if c == '$' then r.moveTo (.name [])
  else if c == '"' then { r with quoted := !r.quoted }
  else if c == '\\' then r.moveTo .escape
  else if r.quoted then r.push [c]
  else if c == '\'' then r.moveTo .quote
  else if c == ' ' || c == '\t' then r.moveTo .behind
  else r.push [c]

/-- The reader behind a character; none if it cannot stand there. A character that ends the name
of a variable is taken as it is. -/
def step? (env : Environment) (r : ValueReader) (c : Char) : Option ValueReader :=
  match r.place with
  | .text => some (r.stepText c)
  | .quote => some (if c == '\'' then r.moveTo .text else { r with value := r.value ++ [c] })
  | .escape => (escape? c).map fun d => r.push [d]
  | .name read =>
    if isAlphanumeric c then some (r.moveTo (.name (read ++ [c])))
    else if c == '\x7b' && read.isEmpty then some (r.moveTo (.braces []))
    else
      let r := r.insert env read
      some (if c == '$' then r.moveTo (.name []) else r.push [c])
  | .braces read =>
    some (if isAlphanumeric c || c != '\x7d' then r.moveTo (.braces (read ++ [c]))
      else r.insert env read)
  | .behind =>
    if c == ' ' || c == '\t' then some r
    else if c == '#' then some (r.moveTo .comment)
    else none
  | .comment => some r

/-- The value once its text ends; none if a quote or a brace is open. -/
def finish? (env : Environment) (r : ValueReader) : Option (List Char) :=
  if r.quoted then none
  else match r.place with
    | .quote | .braces _ => none
    | .name read => some (r.insert env read).value
    | _ => some r.value

end ValueReader

/-- The value that a text stands for. -/
def readValue? (env : Environment) (s : List Char) : Option (List Char) :=
  (s.foldlM (ValueReader.step? env) ValueReader.start).bind (ValueReader.finish? env)

/-- Whether a name can begin with a character. -/
def isNameStart (c : Char) : Bool := c.isAlpha || c == '_'

/-- Whether a character can stand in a name. -/
def isNameChar (c : Char) : Bool := c.isAlphanum || c == '_' || c == '.'

/-- A name at the start of a text, and the text behind it and the blanks that follow it. -/
def readName? (s : List Char) : Option (List Char × List Char) :=
  if s.head?.any isNameStart then
    some (s.takeWhile isNameChar, trimStart (s.dropWhile isNameChar))
  else none

/-- The text behind an equals sign. -/
def afterEquals? : List Char → Option (List Char)
  | '=' :: s => some s
  | _ => none

/-- Name and text of the value in a line. The word for exports may stand in front, and is a name
itself if an equals sign follows it. -/
def readAssignment? (s : List Char) : Option (List Char × List Char) := do
  let (name, rest) ← readName? s
  match afterEquals? rest with
  | some value => return (name, trimStart value)
  | none =>
    if name == "export".toList then
      let (name, rest) ← readName? rest
      return (name, trimStart (← afterEquals? rest))
    else none

/-- Whether there is nothing in a text but perhaps a comment. -/
def isVacant (s : List Char) : Bool :=
  s.isEmpty || s.head? == some '#'

/-- The environment behind a line; none if the line cannot be read. -/
def readLine? (env : Environment) (line : List Char) : Option Environment :=
  let s := trim line
  if isVacant s then some env
  else do
    let (name, text) ← readAssignment? s
    let value ← if isVacant text then pure [] else readValue? env text
    return env.define (String.ofList name) (String.ofList value)

/-- The environment behind lines, up to the first one that cannot be read. -/
def readLines (env : Environment) : List (List Char) → Environment
  | [] => env
  | line :: rest =>
    match readLine? env line with
    | some env => readLines env rest
    | none => env

/-- The names that stand in the text of a file. -/
def namesIn (text : List Char) : List String :=
  ((text.splitBy fun a b => isNameChar a == isNameChar b).filter (·.all isNameChar)).map
    String.ofList

/-- The environment with what a file adds to it. -/
def readFile (env : Environment) (text : List Char) : Environment :=
  readLines env (lines text)

end Environment

end QueryGate
