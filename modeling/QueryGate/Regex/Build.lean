import QueryGate.Regex.PatternReader
import QueryGate.Regex.Match
import QueryGate.Regex.Term

/-!
# From patterns to expressions

Applies the flags of a pattern and looks up the properties it names. A change of flags holds for
the rest of its group, across alternatives (`build`). `compile` reads a text, builds the term it
stands for, refuses terms that are too large, and writes out the expression of others.
-/

namespace QueryGate.Regex

/-- The flags in force at a place of a pattern. -/
structure Flags where
  anyCase : Bool := false
  multiLine : Bool := false
  dotAll : Bool := false
  swapGreed : Bool := false
  unicode : Bool := true
  returns : Bool := false
  deriving DecidableEq, Repr

/-- Sets one flag; blanks concern the reader of patterns only. -/
def Flags.set (f : Flags) : Flag × Bool → Flags
  | (.anyCase, v) => { f with anyCase := v }
  | (.multiLine, v) => { f with multiLine := v }
  | (.dotAll, v) => { f with dotAll := v }
  | (.swapGreed, v) => { f with swapGreed := v }
  | (.unicode, v) => { f with unicode := v }
  | (.returns, v) => { f with returns := v }
  | (.freeSpacing, _) => f

/-- The flags after a change. -/
def Flags.apply (f : Flags) (change : FlagChange) : Flags :=
  change.foldl Flags.set f

/-! ## Properties -/

/-- A name of a property or of one of its values without case, blanks, hyphens, low lines and a
leading `is`. -/
def looseName (name : String) : String :=
  let cs := name.toList.map Char.toLower
  let cs := if ['i', 's'].isPrefixOf cs then cs.drop 2 else cs
  String.ofList (cs.filter fun c => c.val < 128 && c != ' ' && c != '-' && c != '_')

/-- The category or group of categories of a name. -/
def categoryProperty? (name : String) : Option Property :=
  if name == "any" then some .any
  else if name == "ascii" then some .ascii
  else if name == "assigned" then none
  else (categoriesNamed? name).map .category

/-- The property a name alone stands for. -/
def propertyNamed? (name : String) : Option CharClass :=
  if ["alpha", "alphabetic"].contains name then some (.property .alphabetic)
  else if ["space", "whitespace", "wspace"].contains name then some (.property .space)
  else if name == "assigned" then some (.compl (.property (.category ["Cn"])))
  else match binaryProperty? name with
    | some ranges => some (.property (.table ranges))
    | none => ((categoryProperty? name).or ((scriptNamed? name).map .script)).map .property

/-- The set a query stands for, before it is negated. -/
def PropertyQuery.resolve? (q : PropertyQuery) : Option CharClass :=
  match q.value with
  | none => propertyNamed? (looseName q.name)
  | some value =>
    let name := looseName q.name
    let value := looseName value
    if ["gc", "generalcategory"].contains name then
      if value == "assigned" then propertyNamed? value
      else (categoryProperty? value).map .property
    else if ["sc", "script", "scx", "scriptextensions"].contains name then
      (scriptNamed? value).map fun code => .property (.script code)
    else none

/-! ## Sets -/

/-- Closes a set under change of case where the flag asks for it. -/
def foldCase (f : Flags) (a : CharClass) : CharClass :=
  if f.anyCase then (if f.unicode then .folded a else .foldedAscii a) else a

/-- The complement, where it is asked for. -/
def negateIf (negated : Bool) (a : CharClass) : CharClass :=
  if negated then .compl a else a

/-- The ASCII characters of a class in brackets and colons. -/
def asciiClass (name : String) : CharClass :=
  let lower := CharClass.range 'a' 'z'
  let upper := CharClass.range 'A' 'Z'
  let digit := CharClass.range '0' '9'
  if name == "alnum" then .unions [digit, upper, lower]
  else if name == "alpha" then .union upper lower
  else if name == "ascii" then .range '\x00' '\x7f'
  else if name == "blank" then .ofList ['\t', ' ']
  else if name == "cntrl" then .union (.range '\x00' '\x1f') (.single '\x7f')
  else if name == "digit" then digit
  else if name == "graph" then .range '!' '~'
  else if name == "lower" then lower
  else if name == "print" then .range ' ' '~'
  else if name == "punct" then
    .unions [.range '!' '/', .range ':' '@', .range '[' (Char.ofNat 96), .range '\x7b' '~']
  else if name == "space" then .union (.range '\t' '\r') (.single ' ')
  else if name == "upper" then upper
  else if name == "word" then .unions [digit, upper, lower, .single '_']
  else .unions [digit, .range 'A' 'F', .range 'a' 'f']

/-- The set of a shorthand; in ASCII only where words of every script are not allowed. -/
def shorthandClass (unicode : Bool) (kind : Shorthand) : CharClass :=
  match kind with
  | .digit => if unicode then .property .digit else asciiClass "digit"
  | .space => if unicode then .property .space else asciiClass "space"
  | .word => if unicode then .property .word else asciiClass "word"

/-- Without Unicode a set is one of bytes, and only those of ASCII are characters. -/
def wholeChars (f : Flags) (a : CharClass) : Except PatternFault CharClass :=
  if !f.unicode && a.hasHighByte then .error .invalidBytes else .ok a

/-- Folds the case of a set and then negates it, where that is asked for. -/
def foldAndNegate (f : Flags) (negated : Bool) (a : CharClass) : Except PatternFault CharClass :=
  wholeChars f (negateIf negated (foldCase f a))

/-- The set of a shorthand, which is closed under change of case. -/
def buildShorthand (f : Flags) (kind : Shorthand) (negated : Bool) :
    Except PatternFault CharClass :=
  wholeChars f (negateIf negated (shorthandClass f.unicode kind))

/-- The set of a property. -/
def buildProperty (f : Flags) (q : PropertyQuery) : Except PatternFault CharClass :=
  if !f.unicode then .error .unicodeNotAllowed
  else match q.resolve? with
    | none => .error .propertyUnknown
    | some a => foldAndNegate f q.negated a

/-- Whether a character is a byte beyond ASCII that stands for itself. -/
def Written.isHighByte (w : Written) : Bool :=
  w.isByte && 128 ≤ w.char.toNat

/-- A character that stands for itself in brackets. -/
def buildMember (f : Flags) (w : Written) : Except PatternFault Char :=
  if f.unicode then .ok w.char
  else if w.isHighByte then .error .invalidBytes
  else if 128 ≤ w.char.toNat then .error .unicodeNotAllowed
  else .ok w.char

mutual

/-- The set of what stands in brackets. -/
def buildSet (f : Flags) : SetPattern → Except PatternFault CharClass
  | .empty => .ok .empty
  | .single w => (buildMember f w).map .single
  | .range a b => do
    let first ← buildMember f a
    let last ← buildMember f b
    .ok (.range first last)
  | .ascii name negated => foldAndNegate f negated (asciiClass name)
  | .property q => buildProperty f q
  | .shorthand kind negated => buildShorthand f kind negated
  | .bracketed negated inner => do foldAndNegate f negated (← buildSet f inner)
  | .union parts => buildSets f parts
  | .op kind a b => do
    let a := foldCase f (← buildSet f a)
    let b := foldCase f (← buildSet f b)
    .ok (match kind with
      | .inter => .inter a b
      | .diff => .diff a b
      | .symmDiff => .symmDiff a b)

/-- The union of sets in brackets. -/
def buildSets (f : Flags) : List SetPattern → Except PatternFault CharClass
  | [] => .ok .empty
  | p :: ps => do .ok (.union (← buildSet f p) (← buildSets f ps))

end

/-! ## Terms -/

/-- The term of a character that stands for itself. -/
def buildSingle (f : Flags) (w : Written) : Except PatternFault Term :=
  if !f.unicode && w.isHighByte then .error .invalidBytes
  else if !f.anyCase then .ok (.chars (.single w.char))
  else if f.unicode then .ok (.chars (.ofList (caseOrbit w.char)))
  else if w.char.isAlpha then .ok (.chars (.ofList [w.char, swapCase w.char]))
  else .ok (.chars (.single w.char))

/-- The condition of an anchor. -/
def buildAnchor (f : Flags) : Anchor → Term
  | .caret => .look (if f.multiLine then (if f.returns then .returnStart else .lineStart)
      else .start) false
  | .dollar => .look (if f.multiLine then (if f.returns then .returnEnd else .lineEnd)
      else .finish) false
  | .textStart => .look .start false
  | .textEnd => .look .finish false
  | .wordBoundary => .look .wordBoundary (!f.unicode)
  | .noWordBoundary => .look .noWordBoundary (!f.unicode)
  | .wordStart => .look .wordStart (!f.unicode)
  | .wordEnd => .look .wordEnd (!f.unicode)
  | .wordStartHalf => .look .wordStartHalf (!f.unicode)
  | .wordEndHalf => .look .wordEndHalf (!f.unicode)

/-- The characters a point stands for. -/
def dotClass (f : Flags) : CharClass :=
  if f.dotAll then .property .any
  else if f.returns then .compl (.ofList ['\n', '\r'])
  else .compl (.single '\n')

mutual

/-- The term of a pattern under flags, and the flags in force behind it. -/
def build (f : Flags) : Pattern → Except PatternFault (Term × Flags)
  | .empty => .ok (.empty, f)
  | .flags change => .ok (.empty, f.apply change)
  | .single w => do .ok (← buildSingle f w, f)
  | .dot => if f.unicode then .ok (.chars (dotClass f), f) else .error .invalidBytes
  | .anchor a => .ok (buildAnchor f a, f)
  | .shorthand kind negated => do .ok (.chars (← buildShorthand f kind negated), f)
  | .property q => do .ok (.chars (← buildProperty f q), f)
  | .set negated inner => do .ok (.chars (← foldAndNegate f negated (← buildSet f inner)), f)
  | .group change inner => do
    let (t, _) ← build (f.apply change) inner
    .ok (t, f)
  | .rep inner least most greedy => do
    let (t, _) ← build f inner
    .ok (.rep (greedy != f.swapGreed) least most t, f)
  | .concat parts => do
    let (ts, f) ← buildAll f parts
    .ok (.sequence ts, f)
  | .alt options => do
    let (ts, f) ← buildAll f options
    .ok (.choice ts, f)

/-- The terms of patterns one after the other. -/
def buildAll (f : Flags) : List Pattern → Except PatternFault (List Term × Flags)
  | [] => .ok ([], f)
  | p :: ps => do
    let (t, f) ← build f p
    let (ts, f) ← buildAll f ps
    .ok (t :: ts, f)

end

/-- Terms may take this many bytes in an automaton. -/
def sizeLimit : Nat := 10 * Nat.pow 2 20

/-- The expression a text stands for. -/
def compile (s : List Char) : Except PatternFault Regex := do
  let (t, _) ← build {} (← readPattern s)
  if sizeLimit < t.size then .error .tooLarge else .ok t.expand

end QueryGate.Regex
