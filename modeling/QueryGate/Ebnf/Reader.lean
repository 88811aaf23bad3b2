import QueryGate.Ebnf.Expr
import QueryGate.Text.Reader
import QueryGate.Text.WhiteSpace

/-!
# Reading definitions

Readers for the parts of a definition, from strings and regular expressions up to the
alternatives of a right-hand side. Groups nest, so the reader of expressions is a function of
the depth it may descend to; a text nests no deeper than it is long.
-/

namespace QueryGate.Ebnf

open Text

/-- The characters that separate the parts of a definition. -/
def isBlankChar (c : Char) : Bool :=
  c == ' ' || c == '\t' || c == '\r' || c == '\n'

/-- A text from its first part on. -/
def skipBlanks (s : List Char) : List Char :=
  s.dropWhile isBlankChar

/-- A part with blanks on both sides. -/
def spaced {α : Type} (p : Reader α) : Reader α := fun s =>
  (p (skipBlanks s)).map fun (a, rest) => (a, skipBlanks rest)

/-- First characters of names. -/
def isNameStart (c : Char) : Bool :=
  c.isAlpha || c == '_'

/-- Characters of names. -/
def isNameChar (c : Char) : Bool :=
  c.isAlphanum || c == '_'

/-- The characters of a name. -/
def readNameChars : Reader (List Char)
  | c :: s =>
    if isNameStart c then some (c :: s.takeWhile isNameChar, s.dropWhile isNameChar) else none
  | [] => none

/-- A name. -/
def readName : Reader String := fun s =>
  (readNameChars s).map fun (cs, rest) => (String.ofList cs, rest)

/-- Names joined by points. -/
def readDotted : Reader (List (List Char)) :=
  Reader.sepBy1 (Reader.char '.') readNameChars

/-- The largest number a bound of a repetition can have. -/
def maxBound : Nat := Nat.pow 2 64 - 1

/-- A bound of a repetition. -/
def readBound : Reader Nat := fun s =>
  (Reader.run1 Char.isDigit s).bind fun (digits, rest) =>
    let n := digits.foldl (fun n c => n * 10 + (c.toNat - 48)) 0
    if n ≤ maxBound then some (n, rest) else none

/-- The character that a backslash and a letter stand for in a string. -/
def unescape (c : Char) : Char :=
  if c == 'n' then '\n' else if c == 't' then '\t' else if c == 'r' then '\r' else c

/-- A string from behind its opening quote on. -/
def readStringBody : Reader (List Char)
  | [] => none
  | c :: s =>
    if c == '"' then some ([], s)
    else if c == '\\' then
      match s with
      | [] => none
      | e :: s => (readStringBody s).map fun (cs, rest) => (unescape e :: cs, rest)
    else (readStringBody s).map fun (cs, rest) => (c :: cs, rest)

/-- A string in double quotes. -/
def readString : Reader (List Char)
  | '"' :: s => readStringBody s
  | _ => none

/-- The flag of a literal : an `i` that is not the start of a longer word. -/
def readCaseFlag (s : List Char) : Bool × List Char :=
  match s with
  | 'i' :: rest => if (rest.head?.map isNameChar).getD false then (false, s) else (true, rest)
  | _ => (false, s)

/-- A quoted text with its flag. -/
def readLiteral : Reader Expr := fun s =>
  (readString s).map fun (cs, rest) =>
    let (anyCase, rest) := readCaseFlag rest
    (.literal (String.ofList cs) anyCase, rest)

/-- Two quoted characters in order, with two points between them. -/
def readRange : Reader Expr := fun s =>
  (readString s).bind fun (a, s1) => (spaced (Reader.word ['.', '.']) s1).bind fun (_, s2) =>
    (readString s2).bind fun (b, rest) =>
      match a, b with
      | [first], [last] => if first ≤ last then some (.range first last, rest) else none
      | _, _ => none

/-- A regular expression from behind its opening slash on. Escapes stay as they are, but a slash
needs one only here. -/
def readPatternBody : Reader (List Char)
  | [] => none
  | c :: s =>
    if c == '/' then some ([], s)
    else if c == '\\' then
      match s with
      | [] => none
      | e :: s => (readPatternBody s).map fun (cs, rest) =>
          (if e == '/' then e :: cs else c :: e :: cs, rest)
    else (readPatternBody s).map fun (cs, rest) => (c :: cs, rest)

/-- The flags of a regular expression. -/
def isFlag (c : Char) : Bool :=
  ['i', 'm', 's', 'x', 'l', 'u'].contains c

/-- A regular expression between slashes, which may not be empty, with its flags. -/
def readPattern : Reader Expr := fun s =>
  (Reader.char '/' s).bind fun (_, body) => (readPatternBody body).bind fun (cs, rest) =>
    if cs.isEmpty then none
    else some (.pattern (String.ofList cs) (String.ofList (rest.takeWhile isFlag)),
      rest.dropWhile isFlag)

/-- A name that does not begin the next definition. -/
def readReference : Reader Expr := fun s =>
  (readName s).bind fun (n, rest) =>
    if (skipBlanks rest).head? == some ':' then none else some (.name n, rest)

/-- The number of repetitions behind an expression : `?`, `*`, `+`, `~n` or `~n..m`. -/
def readRepetition : Reader (Nat × Option Nat)
  | '?' :: s => some ((0, some 1), s)
  | '*' :: s => some ((0, none), s)
  | '+' :: s => some ((1, none), s)
  | s => (spaced (Reader.char '~') s).bind fun (_, s1) => (readBound s1).map fun (n, s2) =>
      match (spaced (Reader.word ['.', '.']) s2).bind fun (_, s3) => readBound s3 with
      | some (m, rest) => ((n, some m), rest)
      | none => ((n, some n), s2)

/-- An expression in brackets of one kind. -/
def readEnclosed (inner : Reader Expr) (opening closing : Char) : Reader Expr := fun s =>
  (Reader.char opening s).bind fun (_, s1) => (spaced inner s1).bind fun (e, s2) =>
    (Reader.char closing s2).map fun (_, rest) => (e, rest)

/-- The smallest expressions; those in brackets are read with `inner`. -/
def readAtom (inner : Reader Expr) : Reader Expr :=
  (readEnclosed inner '(' ')').orElse <|
    Reader.orElse (fun s => (readEnclosed inner '[' ']' s).map fun (e, rest) =>
      (.rep e 0 (some 1), rest)) <|
    readRange.orElse <| readLiteral.orElse <| readPattern.orElse readReference

/-- A smallest expression with its repetition. -/
def readItem (inner : Reader Expr) : Reader Expr := fun s =>
  (readAtom inner s).map fun (e, rest) =>
    match readRepetition rest with
    | some ((least, most), last) => (.rep e least most, last)
    | none => (e, rest)

/-- A sequence of items; one alone stands for itself. -/
def sequenceOf : List Expr → Expr
  | [e] => e
  | es => .seq es

/-- A choice between sequences; one alone stands for itself. -/
def choiceOf : List Expr → Expr
  | [e] => e
  | es => .alt es

/-- Items one after the other, and an arrow with a name, which has no meaning here. -/
def readAlternative (inner : Reader Expr) : Reader Expr := fun s =>
  let (items, rest) := Reader.many (fun t => readItem inner (skipBlanks t)) s
  match (spaced (Reader.word ['-', '>']) rest).bind fun (_, t) => readName t with
  | some (_, last) => some (sequenceOf items, last)
  | none => some (sequenceOf items, rest)

/-- Alternatives with bars between them. -/
def readChoice (inner : Reader Expr) : Reader Expr := fun s =>
  (Reader.sepBy1 (spaced (Reader.char '|')) (readAlternative inner) s).map
    fun (options, rest) => (choiceOf options, rest)

/-- An expression whose brackets nest less than `depth` deep. -/
def readExprAt : (depth : Nat) → Reader Expr
  | 0 => fun _ => none
  | depth + 1 => readChoice (readExprAt depth)

/-- An expression. -/
def readExpr : Reader Expr := fun s =>
  readExprAt (s.length + 1) s

/-- The name of a definition with the marks around it that have no meaning here : a `?` or `!`
in front, a point and a priority behind. -/
def readHead (s : List Char) : Except (List Char) (String × List Char) :=
  let unmarked := match s with
    | c :: rest => if c == '?' || c == '!' then rest else s
    | [] => s
  match readName unmarked with
  | none => .error unmarked
  | some (name, rest) =>
    let priority : Option (List Char × List Char) := (Reader.char '.' rest).bind fun (_, t) =>
      Reader.run1 Char.isDigit (if t.head? == some '-' then t.drop 1 else t)
    .ok (name, (priority.map (·.2)).getD rest)

/-- A rule or a terminal; a failure gives the rest it stopped at. -/
def readNamed (s : List Char) : Except (List Char) (Definition × List Char) := do
  let (name, rest) ← readHead s
  match spaced (Reader.char ':') rest with
  | none => .error (skipBlanks rest)
  | some (_, body) =>
    match readExpr body with
    | none => .error body
    | some (e, last) =>
      .ok (if isTerminalName name then .terminal name e else .rule name e, last)

/-- `%import module (A, B)`, from behind the keyword on. -/
def readImportList : Reader Definition := fun s =>
  (readDotted s).bind fun (path, s1) => (spaced (Reader.char '(') s1).bind fun (_, s2) =>
    (Reader.sepBy1 (spaced (Reader.char ',')) readName s2).bind fun (names, s3) =>
      (spaced (Reader.char ')') s3).map fun (_, rest) =>
        (.imports (String.ofList (joinWith ['.'] path)) (names.map fun n => (n, n)), rest)

/-- `%import module.NAME -> ALIAS`, from behind the keyword on. -/
def readImportOne : Reader Definition := fun s =>
  (readDotted s).map fun (path, s1) =>
    let imported := String.ofList (path.getLast?.getD [])
    let module := String.ofList (joinWith ['.'] path.dropLast)
    match (spaced (Reader.word ['-', '>']) s1).bind fun (_, t) => readName t with
    | some (own, rest) => (.imports module [(own, imported)], rest)
    | none => (.imports module [(imported, imported)], s1)

/-- An import or an ignored expression. -/
def readDirective : Reader Definition :=
  Reader.orElse
    (fun s => (Reader.word "%import".toList s).bind fun (_, t) =>
      (readImportList.orElse readImportOne) (skipBlanks t))
    (fun s => (Reader.word "%ignore".toList s).bind fun (_, t) =>
      (readExpr (skipBlanks t)).map fun (e, rest) => (.ignore e, rest))

/-- A whole definition; a failure gives the rest it stopped at. -/
def readDefinition (text : List Char) : Except (List Char) Definition := do
  let s := skipBlanks text
  let (d, rest) ←
    if (text.dropWhile isWhite).head? == some '%' then
      match readDirective s with
      | some found => .ok found
      | none => .error s
    else readNamed s
  let rest := skipBlanks rest
  if rest.isEmpty then .ok d else .error rest

end QueryGate.Ebnf
