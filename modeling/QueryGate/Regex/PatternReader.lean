import QueryGate.Regex.Pattern
import QueryGate.Regex.Category
import QueryGate.Text.Numeric
import QueryGate.Text.WhiteSpace

/-!
# Reading patterns

`readPattern` reads the written form of a regular expression. The reader carries a `Cursor` :
the rest of the text, whether blanks and comments are passed over (the flag `x`), and the names
of groups given so far. Every step takes at least one character, which is what bounds the
recursion.
-/

namespace QueryGate.Regex

open Text

/-- Where the reader of patterns stands. -/
structure Cursor where
  rest : List Char
  freeSpacing : Bool
  names : List (List Char)
  deriving Repr

/-- A step of the reader : a value and where it stands afterwards, or a fault. -/
abbrev Step (α : Type) := Cursor → Except PatternFault (α × Cursor)

namespace Cursor

/-- The cursor at another rest. -/
def moveTo (k : Cursor) (rest : List Char) : Cursor := { k with rest }

end Cursor

/-- Text behind white space and comments; a comment runs from `#` to the end of the line. -/
def skipFree : (inComment : Bool) → List Char → List Char
  | _, [] => []
  | true, c :: s => skipFree (c != '\n') s
  | false, c :: s =>
    if isWhite c then skipFree false s
    else if c == '#' then skipFree true s
    else c :: s

/-- Passes over blanks and comments where the flag `x` is set. -/
def Cursor.skip (k : Cursor) : Cursor :=
  if k.freeSpacing then k.moveTo (skipFree false k.rest) else k

/-- Passes over one character and the blanks behind it. -/
def Cursor.next (k : Cursor) : Cursor :=
  (k.moveTo (k.rest.drop 1)).skip

/-! ## Flags -/

/-- The flag of a letter. -/
def flagOf? (c : Char) : Option Flag :=
  if c == 'i' then some .anyCase
  else if c == 'm' then some .multiLine
  else if c == 's' then some .dotAll
  else if c == 'U' then some .swapGreed
  else if c == 'u' then some .unicode
  else if c == 'R' then some .returns
  else if c == 'x' then some .freeSpacing
  else none

/-- Flag letters up to a colon or a closing parenthesis, which is given back with the rest.
`minus` tells whether a minus sign has been read, `dangling` whether it was the last character. -/
def readFlags (minus dangling : Bool) (seen : FlagChange) :
    List Char → Except PatternFault (FlagChange × List Char)
  | [] => .error .flagsUnclosed
  | c :: s =>
    if c == ':' || c == ')' then
      if dangling then .error .flagDangling else .ok (seen.reverse, c :: s)
    else if c == '-' then
      if minus then .error .flagTwice else readFlags true true seen s
    else match flagOf? c with
      | none => .error .flagUnknown
      | some f =>
        if seen.any fun e => e.1 == f then .error .flagTwice
        else readFlags minus false ((f, !minus) :: seen) s

/-- The value a change gives to the flag `x`. -/
def freeSpacingAfter (change : FlagChange) (before : Bool) : Bool :=
  (change.lookup .freeSpacing).getD before

/-! ## Escapes -/

/-- Characters with a meaning of their own, which a backslash takes away. -/
def isMeta (c : Char) : Bool :=
  "\\.+*?()|[]\x7b\x7d^$#&-~".toList.contains c

/-- ASCII characters that may stand behind a backslash without need. -/
def isEscapable (c : Char) : Bool :=
  c.val < 128 && !c.isAlphanum && c != '<' && c != '>'

/-- The character of a code point. -/
def charOf? (n : Nat) : Option Char :=
  if h : n.isValidChar then some (Char.ofNatAux n h) else none

/-- Whether a character is a hexadecimal digit. -/
def isHexDigit (c : Char) : Bool :=
  c.isDigit || ('a' ≤ c && c ≤ 'f') || ('A' ≤ c && c ≤ 'F')

/-- A given number of hexadecimal digits, blanks passed over between and behind them. -/
def readHexDigits : (count : Nat) → Step (List Char)
  | 0, k => .ok ([], k)
  | count + 1, k =>
    match k.rest with
    | [] => .error .escapeUnclosed
    | c :: _ =>
      if isHexDigit c then do
        let (cs, k) ← readHexDigits count k.next
        .ok (c :: cs, k)
      else .error .escapeInvalid

/-- Hexadecimal digits up to a closing brace, with the steps the text allows as fuel. -/
def readHexBraced : (fuel : Nat) → Step (List Char)
  | 0, _ => .error .escapeUnclosed
  | fuel + 1, k =>
    match k.rest with
    | [] => .error .escapeUnclosed
    | c :: _ =>
      if c == '\x7d' then .ok ([], k.next)
      else if isHexDigit c then do
        let (cs, k) ← readHexBraced fuel k.next
        .ok (c :: cs, k)
      else .error .escapeInvalid

/-- A character given by its number, from behind the letter `x`, `u` or `U` on. -/
def readHex (count : Nat) : Step Written := fun k => do
  let (digits, k') ←
    if k.rest.head? == some '\x7b' then readHexBraced k.rest.length k.next
    else readHexDigits count k
  if digits.isEmpty then .error .escapeInvalid
  else match charOf? (hexValue digits) with
    | some c => .ok (⟨c, count == 2 && k.rest.head? != some '\x7b'⟩, k')
    | none => .error .escapeInvalid

/-- Characters up to a closing brace, with the steps the text allows as fuel. -/
def readBraced : (fuel : Nat) → Step (List Char)
  | 0, _ => .error .escapeUnclosed
  | fuel + 1, k =>
    match k.rest with
    | [] => .error .escapeUnclosed
    | c :: _ =>
      if c == '\x7d' then .ok ([], k.moveTo (k.rest.drop 1))
      else do
        let (cs, k) ← readBraced fuel k.next
        .ok (c :: cs, k)

/-- The two sides of a text around the first occurrence of a separator. -/
def splitAround? (sep : List Char) : List Char → Option (List Char × List Char)
  | [] => none
  | c :: s =>
    if sep.isPrefixOf (c :: s) then some ([], (c :: s).drop sep.length)
    else (splitAround? sep s).map fun (a, b) => (c :: a, b)

/-- The query between the braces of a property. -/
def propertyQuery (negated : Bool) (text : List Char) : PropertyQuery :=
  let named (negated : Bool) (parts : List Char × List Char) : PropertyQuery :=
    ⟨String.ofList parts.1, some (String.ofList parts.2), negated⟩
  match splitAround? ['!', '='] text with
  | some parts => named (!negated) parts
  | none =>
    match splitAround? [':'] text with
    | some parts => named negated parts
    | none =>
      match splitAround? ['='] text with
      | some parts => named negated parts
      | none => ⟨String.ofList text, none, negated⟩

/-- A property, from behind the letter `p` or `P` on. -/
def readProperty (negated : Bool) : Step PropertyQuery := fun k =>
  match k.rest with
  | [] => .error .escapeUnclosed
  | c :: _ =>
    if c == '\x7b' then do
      let (text, k) ← readBraced k.rest.length k.next
      .ok (propertyQuery negated text, k)
    else if c == '\\' then .error .propertyUnknown
    else .ok (⟨String.singleton c, none, negated⟩, k.next)

/-- The letters of a word boundary in braces. -/
def isBoundaryChar (c : Char) : Bool :=
  c.isAlpha || c == '-'

/-- Letters of a word boundary, blanks passed over. -/
def readBoundaryName : (fuel : Nat) → Cursor → List Char × Cursor
  | 0, k => ([], k)
  | fuel + 1, k =>
    match k.rest with
    | c :: _ =>
      if isBoundaryChar c then
        let (cs, k) := readBoundaryName fuel k.next
        (c :: cs, k)
      else ([], k)
    | [] => ([], k)

/-- The word boundary behind `\b`, which may have its kind in braces. -/
def readBoundary : Step Anchor := fun k =>
  match k.rest with
  | '\x7b' :: _ =>
    let inside := k.next
    match inside.rest with
    | [] => .error .countUnclosed
    | c :: _ =>
      if isBoundaryChar c then
        let (name, after) := readBoundaryName inside.rest.length inside
        match after.rest with
        | '\x7d' :: rest =>
          let name := String.ofList name
          if name == "start" then .ok (.wordStart, after.moveTo rest)
          else if name == "end" then .ok (.wordEnd, after.moveTo rest)
          else if name == "start-half" then .ok (.wordStartHalf, after.moveTo rest)
          else if name == "end-half" then .ok (.wordEndHalf, after.moveTo rest)
          else .error .escapeUnknown
        | _ => .error .escapeUnclosed
      else .ok (.wordBoundary, k)
  | _ => .ok (.wordBoundary, k)

/-- What a backslash and the characters behind it stand for, from behind the backslash on. -/
def readEscape : Step Pattern := fun k =>
  match k.rest with
  | [] => .error .escapeUnclosed
  | c :: rest =>
    let plain (x : Char) : Except PatternFault (Pattern × Cursor) :=
      .ok (.single ⟨x, false⟩, k.moveTo rest)
    let anchor (a : Anchor) : Except PatternFault (Pattern × Cursor) :=
      .ok (.anchor a, k.moveTo rest)
    let shorthand (kind : Shorthand) (negated : Bool) : Except PatternFault (Pattern × Cursor) :=
      .ok (.shorthand kind negated, k.moveTo rest)
    let hex (count : Nat) : Except PatternFault (Pattern × Cursor) :=
      if k.next.rest.isEmpty then .error .escapeUnclosed
      else do
        let (w, k) ← readHex count k.next
        .ok (.single w, k)
    if c.isDigit then .error .backreference
    else if c == 'x' then hex 2
    else if c == 'u' then hex 4
    else if c == 'U' then hex 8
    else if c == 'p' || c == 'P' then do
      let (q, k) ← readProperty (c == 'P') k.next
      .ok (.property q, k)
    else if c == 'd' || c == 'D' then shorthand .digit (c == 'D')
    else if c == 's' || c == 'S' then shorthand .space (c == 'S')
    else if c == 'w' || c == 'W' then shorthand .word (c == 'W')
    else if isMeta c || isEscapable c then plain c
    else if c == 'a' then plain '\x07'
    else if c == 'f' then plain '\x0c'
    else if c == 't' then plain '\t'
    else if c == 'n' then plain '\n'
    else if c == 'r' then plain '\r'
    else if c == 'v' then plain '\x0b'
    else if c == 'A' then anchor .textStart
    else if c == 'z' then anchor .textEnd
    else if c == 'b' then do
      let (a, k) ← readBoundary (k.moveTo rest)
      .ok (.anchor a, k)
    else if c == 'B' then anchor .noWordBoundary
    else if c == '<' then anchor .wordStart
    else if c == '>' then anchor .wordEnd
    else .error .escapeUnknown

/-! ## Classes -/

/-- The names of ASCII classes. -/
def asciiClassNames : List String :=
  ["alnum", "alpha", "ascii", "blank", "cntrl", "digit", "graph", "lower", "print", "punct",
    "space", "upper", "word", "xdigit"]

/-- A class of ASCII characters, from its bracket on; anything else there is left alone. -/
def readAsciiClass? (s : List Char) : Option (SetPattern × List Char) :=
  match s with
  | '[' :: ':' :: t =>
    let negated := t.head? == some '^'
    let body := if negated then t.drop 1 else t
    let name := String.ofList (body.takeWhile (· != ':'))
    match body.dropWhile (· != ':') with
    | ':' :: ']' :: rest =>
      if asciiClassNames.contains name then some (.ascii name negated, rest) else none
    | _ => none
  | _ => none

/-- One character or escape in brackets. -/
def readSetItem : Step Pattern := fun k =>
  match k.rest with
  | [] => .error .classUnclosed
  | '\\' :: rest => readEscape (k.moveTo rest)
  | c :: rest => .ok (.single ⟨c, false⟩, k.moveTo rest)

/-- The set of an item that is not part of a range. -/
def setOfItem : Pattern → Except PatternFault SetPattern
  | .single c => .ok (.single c)
  | .shorthand kind negated => .ok (.shorthand kind negated)
  | .property q => .ok (.property q)
  | _ => .error .classEscapeInvalid

/-- The character of an item that is a bound of a range. -/
def boundOfItem : Pattern → Except PatternFault Written
  | .single c => .ok c
  | _ => .error .classRangeInvalid

/-- A range or a single item in brackets. -/
def readSetRange : Step SetPattern := fun k => do
  let (first, k) ← readSetItem k
  let k := k.skip
  match k.rest with
  | [] => .error .classUnclosed
  | '-' :: _ =>
    let behind := k.next.rest.head?
    if behind == some ']' || behind == some '-' then
      .ok (← setOfItem first, k)
    else if behind.isNone then .error .classUnclosed
    else
      let (last, k) ← readSetItem k.next
      let a ← boundOfItem first
      let b ← boundOfItem last
      if a.char ≤ b.char then .ok (.range a b, k) else .error .classRangeInvalid
  | _ => .ok (← setOfItem first, k)

/-- The union of items, which come last first. -/
def unionOf (items : List SetPattern) : SetPattern :=
  match items with
  | [] => .empty
  | [p] => p
  | ps => .union ps.reverse

/-- Applies a pending operation to the items behind it. -/
def applyPending (pending : Option (SetOp × SetPattern)) (right : SetPattern) : SetPattern :=
  match pending with
  | none => right
  | some (kind, left) => .op kind left right

/-- The operation two equal characters stand for. -/
def setOp? : List Char → Option SetOp
  | '&' :: '&' :: _ => some .inter
  | '-' :: '-' :: _ => some .diff
  | '~' :: '~' :: _ => some .symmDiff
  | _ => none

/-- Minus signs at the start of brackets stand for themselves. -/
def readLeadingMinus : (fuel : Nat) → (items : List SetPattern) → Cursor →
    List SetPattern × Cursor
  | 0, items, k => (items, k)
  | fuel + 1, items, k =>
    if k.rest.head? == some '-' then
      readLeadingMinus fuel (.single ⟨'-', false⟩ :: items) k.next
    else (items, k)

/-- The opening of brackets, from behind the bracket on : whether they are negated, and the
items that stand for themselves only there. -/
def openSet (k : Cursor) : Bool × List SetPattern × Cursor :=
  let negated := k.rest.head? == some '^'
  let k := if negated then k.next else k
  let (items, k) := readLeadingMinus k.rest.length [] k
  if items.isEmpty && k.rest.head? == some ']' then
    (negated, [.single ⟨']', false⟩], k.next)
  else (negated, items, k)

/-- What stands in brackets up to the closing one, with the steps the text allows as fuel. -/
def readSet : (fuel : Nat) → (pending : Option (SetOp × SetPattern)) →
    (items : List SetPattern) → Step SetPattern
  | 0, _, _, _ => .error .classUnclosed
  | fuel + 1, pending, items, k =>
    let k := k.skip
    match k.rest with
    | [] => .error .classUnclosed
    | c :: rest =>
      if c == '[' then
        match readAsciiClass? k.rest with
        | some (p, rest) => readSet fuel pending (p :: items) (k.moveTo rest)
        | none => do
          let (negated, inner, opened) := openSet k.next
          let (p, k) ← readSet fuel none inner opened
          readSet fuel pending (.bracketed negated p :: items) k
      else if c == ']' then .ok (applyPending pending (unionOf items), k.moveTo rest)
      else match setOp? k.rest with
        | some kind =>
          readSet fuel (some (kind, applyPending pending (unionOf items))) []
            (k.moveTo (k.rest.drop 2))
        | none => do
          let (p, k) ← readSetRange k
          readSet fuel pending (p :: items) k

/-- Brackets, from behind the opening one on. -/
def readBrackets : Step Pattern := fun k => do
  let (negated, items, opened) := openSet k.skip
  let (p, k) ← readSet (k.rest.length + 1) none items opened
  .ok (.set negated p, k)

/-! ## Repetition -/

/-- A decimal number with white space around it; the largest that is allowed has 32 bits. -/
def readCount : Step Nat := fun k =>
  let s := trimStart k.rest
  let rec digits : (fuel : Nat) → Cursor → List Char × Cursor
    | 0, k => ([], k)
    | fuel + 1, k =>
      match k.rest with
      | c :: _ =>
        if c.isDigit then
          let (cs, k) := digits fuel k.next
          (c :: cs, k)
        else ([], k)
      | [] => ([], k)
  let (cs, k) := digits s.length (k.moveTo s)
  let k := k.moveTo (trimStart k.rest)
  if cs.isEmpty then .error .countEmpty
  else
    let n := cs.foldl (fun n c => n * 10 + (c.toNat - 48)) 0
    if n < Nat.pow 2 32 then .ok (n, k) else .error .countInvalid

/-- The bounds between braces, from behind the opening one on, and whether the repetition is
greedy. -/
def readCounts : Step (Nat × Option Nat × Bool) := fun k => do
  if k.rest.isEmpty then .error .countUnclosed
  let (least, k) ← readCount k
  let (most, k) ←
    match k.rest with
    | ',' :: _ =>
      let k := k.next
      if k.rest.isEmpty then .error .countUnclosed
      else if k.rest.head? == some '\x7d' then .ok (none, k)
      else (readCount k).map fun (n, k) => (some n, k)
    | _ => .ok (some least, k)
  match k.rest with
  | '\x7d' :: _ =>
    let k := k.next
    let lazily := k.rest.head? == some '?'
    let k := if lazily then k.moveTo (k.rest.drop 1) else k
    if (most.map fun n => decide (n < least)).getD false then .error .countOutOfOrder
    else .ok ((least, most, !lazily), k)
  | _ => .error .countUnclosed

/-- The last item read, if it can be repeated, and the items before it. -/
def repeatable (items : List Pattern) : Except PatternFault (Pattern × List Pattern) :=
  match items with
  | [] => .error .nothingToRepeat
  | .empty :: _ => .error .nothingToRepeat
  | .flags _ :: _ => .error .nothingToRepeat
  | p :: earlier => .ok (p, earlier)

/-! ## Groups -/

/-- Characters of group names. -/
def isGroupNameChar (first : Bool) (c : Char) : Bool :=
  if first then c == '_' || isAlphabetic c
  else c == '_' || c == '.' || c == '[' || c == ']' || isAlphanumeric c

/-- The name of a group, up to and past its closing bracket. -/
def readGroupName (k : Cursor) : Except PatternFault Cursor :=
  let name := k.rest.takeWhile (· != '>')
  match k.rest.dropWhile (· != '>') with
  | [] => .error .groupNameInvalid
  | _ :: rest =>
    match name with
    | [] => .error .groupNameInvalid
    | c :: cs =>
      if isGroupNameChar true c && cs.all (isGroupNameChar false) then
        if k.names.contains name then .error .groupNameTwice
        else .ok { k with rest, names := name :: k.names }
      else .error .groupNameInvalid

/-- The opening of a group, from behind its parenthesis on : flags for the rest of the group
around it, or the change of flags for a group of its own. -/
def openGroup : Step (FlagChange × Bool) := fun k =>
  let k := k.skip
  match k.rest with
  | '?' :: '=' :: _ => .error .lookAround
  | '?' :: '!' :: _ => .error .lookAround
  | '?' :: '<' :: '=' :: _ => .error .lookAround
  | '?' :: '<' :: '!' :: _ => .error .lookAround
  | '?' :: 'P' :: '<' :: rest => (readGroupName (k.moveTo rest)).map fun k => (([], true), k)
  | '?' :: '<' :: rest => (readGroupName (k.moveTo rest)).map fun k => (([], true), k)
  | ['?'] => .error .groupUnclosed
  | '?' :: rest => do
    let (change, rest) ← readFlags false false [] rest
    match rest with
    | ')' :: rest =>
      if change.isEmpty then .error .nothingToRepeat else .ok ((change, false), k.moveTo rest)
    | _ => .ok ((change, true), k.moveTo (rest.drop 1))
  | _ => .ok (([], true), k)

/-! ## Patterns -/

/-- Items one after the other, which come last first. -/
def concatOf (items : List Pattern) : Pattern :=
  match items with
  | [] => .empty
  | [p] => p
  | ps => .concat ps.reverse

/-- Alternatives, which come last first. -/
def altOf (options : List Pattern) : Pattern :=
  match options with
  | [] => .empty
  | [p] => p
  | ps => .alt ps.reverse

/-- Items and alternatives up to a closing parenthesis or the end of the text, neither of which
is taken, with the steps the text allows as fuel. -/
def readBody : (fuel : Nat) → (options items : List Pattern) → Step Pattern
  | 0, _, _, _ => .error .tooDeep
  | fuel + 1, options, items, k =>
    let k := k.skip
    let repeatedBy (least : Nat) (most : Option Nat) (rest : List Char) :
        Except PatternFault (Pattern × Cursor) := do
      let (p, earlier) ← repeatable items
      let lazily := rest.head? == some '?'
      readBody fuel options (.rep p least most (!lazily) :: earlier)
        (k.moveTo (if lazily then rest.drop 1 else rest))
    match k.rest with
    | [] => .ok (altOf (concatOf items :: options), k)
    | ')' :: _ => .ok (altOf (concatOf items :: options), k)
    | '|' :: rest => readBody fuel (concatOf items :: options) [] (k.moveTo rest)
    | '(' :: rest => do
      let ((change, isGroup), opened) ← openGroup (k.moveTo rest)
      if isGroup then
        let free := freeSpacingAfter change k.freeSpacing
        let (inner, closing) ← readBody fuel [] [] { opened with freeSpacing := free }
        match closing.rest with
        | ')' :: rest =>
          readBody fuel options (.group change inner :: items)
            { closing with rest, freeSpacing := k.freeSpacing }
        | _ => .error .groupUnclosed
      else
        readBody fuel options (.flags change :: items)
          { opened with freeSpacing := freeSpacingAfter change k.freeSpacing }
    | '[' :: rest => do
      let (p, k) ← readBrackets (k.moveTo rest)
      readBody fuel options (p :: items) k
    | '?' :: rest => repeatedBy 0 (some 1) rest
    | '*' :: rest => repeatedBy 0 none rest
    | '+' :: rest => repeatedBy 1 none rest
    | '\x7b' :: _ => do
      let (p, earlier) ← repeatable items
      let ((least, most, greedy), k) ← readCounts k.next
      readBody fuel options (.rep p least most greedy :: earlier) k
    | '\\' :: rest => do
      let (p, k) ← readEscape (k.moveTo rest)
      readBody fuel options (p :: items) k
    | '.' :: rest => readBody fuel options (.dot :: items) (k.moveTo rest)
    | '^' :: rest => readBody fuel options (.anchor .caret :: items) (k.moveTo rest)
    | '$' :: rest => readBody fuel options (.anchor .dollar :: items) (k.moveTo rest)
    | c :: rest => readBody fuel options (.single ⟨c, false⟩ :: items) (k.moveTo rest)

/-- Patterns nest at most this deep. -/
def nestLimit : Nat := 250

/-- The pattern a whole text stands for. -/
def readPattern (s : List Char) : Except PatternFault Pattern := do
  let (p, k) ← readBody (s.length + 1) [] [] ⟨s, false, []⟩
  if !k.rest.isEmpty then .error .groupUnopened
  else if nestLimit < p.depth then .error .tooDeep
  else .ok p

end QueryGate.Regex
