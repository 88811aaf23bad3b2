import QueryGate.Ebnf.Reader

/-!
# Writing definitions

The text of a definition on one line, for definitions as the reader gives them. Strings and regular
expressions are escaped where they have to be, and sequences and choices inside others stand in
brackets.

* `Expr.isNormal`, `Definition.isNormal` : the definitions that can be written. A sequence of one
  part is that part, and so is a choice; a choice of nothing has no notation.
* `Expr.text`, `Definition.text` : what is written for them.
* `Row`, `sourceText` : definitions, one to a line, with blank lines and comments between them.
-/

namespace QueryGate.Ebnf

open Text

/-! ## Tokens -/

/-- A character between double quotes. -/
def escape (c : Char) : List Char :=
  if c == '"' || c == '\\' then ['\\', c]
  else if c == '\n' then ['\\', 'n']
  else if c == '\t' then ['\\', 't']
  else if c == '\r' then ['\\', 'r']
  else [c]

/-- A text between double quotes. -/
def quotedText (s : List Char) : List Char :=
  '"' :: (s.flatMap escape ++ ['"'])

/-- A character between slashes. Escapes are part of the expression already. -/
def escapeSlash (c : Char) : List Char :=
  if c == '/' then ['\\', '/'] else [c]

/-- A regular expression between slashes. -/
def patternText (s : List Char) : List Char :=
  '/' :: (s.flatMap escapeSlash ++ ['/'])

/-- Whether every backslash stands in front of a character that is no slash. -/
def isUnescaped : List Char → Bool
  | [] => true
  | c :: s =>
    if c == '\\' then
      match s with
      | [] => false
      | e :: s => e != '/' && isUnescaped s
    else isUnescaped s

theorem escapeSlash_of_ne {c : Char} (h : c ≠ '/') : escapeSlash c = [c] := by
  simp [escapeSlash, h]

/-- Texts of escapes of other characters than slashes, and of characters that begin no escape. -/
inductive Unescaped : List Char → Prop
  | nil : Unescaped []
  | escape {e : Char} {s : List Char} (he : e ≠ '/') (hs : Unescaped s) : Unescaped ('\\' :: e :: s)
  | cons {c : Char} {s : List Char} (hc : c ≠ '\\') (hs : Unescaped s) : Unescaped (c :: s)

theorem unescaped_of_isUnescaped {s : List Char} (hs : isUnescaped s = true) : Unescaped s := by
  induction s using isUnescaped.induct with
  | case1 => exact .nil
  | case2 c hc => simp [isUnescaped, hc] at hs
  | case3 c hc e s ih =>
    obtain rfl := beq_iff_eq.mp hc
    simp only [isUnescaped, beq_self_eq_true, if_true, Bool.and_eq_true, bne_iff_ne] at hs
    exact .escape hs.1 (ih hs.2)
  | case4 c s hc ih =>
    rw [isUnescaped.eq_def] at hs
    simp only [hc] at hs
    exact .cons (by simpa using hc) (ih hs)

/-- Whether a text is a name. -/
def isName : List Char → Bool
  | [] => false
  | c :: s => isNameStart c && s.all isNameChar

/-- Names joined by points. -/
def isDotted (s : List Char) : Bool :=
  (splitAt '.' s).all isName

/-- A number of repetitions. -/
def repetitionText : Nat → Option Nat → List Char
  | 0, some 1 => ['?']
  | 0, none => ['*']
  | _, none => ['+']
  | least, some most => '~' :: (Nat.toDigits 10 least ++
      if most = least then [] else '.' :: '.' :: Nat.toDigits 10 most)

/-- Whether a number of repetitions can be written. -/
def isRepetition (least : Nat) (most : Option Nat) : Bool :=
  decide (least ≤ maxBound) && (match most with
    | some most => decide (most ≤ maxBound)
    | none => decide (least ≤ 1))

/-! ## Expressions -/

namespace Expr

/-- Sequences and choices. -/
def isGroup : Expr → Bool
  | .seq _ => true
  | .alt _ => true
  | _ => false

/-- Expressions with a repetition at their end. -/
def isRepeated : Expr → Bool
  | .rep _ _ _ => true
  | _ => false

mutual

/-- Whether an expression is as the reader gives it. -/
def isNormal : Expr → Bool
  | .literal _ _ => true
  | .pattern source flags => !source.toList.isEmpty && isUnescaped source.toList &&
      source.toList.all (· != '\n') && flags.toList.all isFlag
  | .range first last => decide (first ≤ last)
  | .name symbol => isName symbol.toList
  | .seq parts => parts.length != 1 && areNormal parts
  | .alt options => decide (2 ≤ options.length) && areNormal options
  | .rep body least most => isRepetition least most && isNormal body

/-- Whether expressions are as the reader gives them. -/
def areNormal : List Expr → Bool
  | [] => true
  | e :: es => isNormal e && areNormal es

end

/-- A text in round brackets. -/
def bracketed (s : List Char) : List Char :=
  '(' :: (s ++ [')'])

mutual

/-- What is written for an expression. -/
def text : Expr → List Char
  | .literal value anyCase => quotedText value.toList ++ if anyCase then ['i'] else []
  | .pattern source flags => patternText source.toList ++ flags.toList
  | .range first last => quotedText [first] ++ '.' :: '.' :: quotedText [last]
  | .name symbol => symbol.toList
  | .seq parts => joinWith [' '] (itemTexts parts)
  | .alt options => joinWith [' ', '|', ' '] (itemTexts options)
  | .rep body least most =>
    (if isGroup body || isRepeated body then bracketed (text body) else text body) ++
      repetitionText least most

/-- What is written for expressions inside others. -/
def itemTexts : List Expr → List (List Char)
  | [] => []
  | e :: es => (if isGroup e then bracketed (text e) else text e) :: itemTexts es

end

/-- What is written for an expression inside others. -/
def itemText (e : Expr) : List Char :=
  if isGroup e then bracketed (text e) else text e

/-- What is written for an expression that is repeated. -/
def atomText (e : Expr) : List Char :=
  if isGroup e || isRepeated e then bracketed (text e) else text e

theorem itemTexts_eq (es : List Expr) : itemTexts es = es.map itemText := by
  induction es with
  | nil => rfl
  | cons e es ih => rw [itemTexts, ih, List.map_cons, itemText]

theorem areNormal_iff {es : List Expr} : areNormal es = true ↔ ∀ e ∈ es, e.isNormal = true := by
  induction es with
  | nil => simp [areNormal]
  | cons e es ih => simp [areNormal, ih]

theorem itemText_of_isGroup {e : Expr} (h : e.isGroup = true) : e.itemText = bracketed e.text := by
  rw [itemText, if_pos h]

theorem itemText_of_not_isGroup {e : Expr} (h : e.isGroup = false) : e.itemText = e.text := by
  rw [itemText, h]
  rfl

end Expr

/-! ## Definitions -/

namespace Definition

/-- Whether the names of an import can be written : one name of a module under any name, or names
of a module under their own names. -/
def isImport (module : String) : List (String × String) → Bool
  | [(own, imported)] => (module.toList.isEmpty || isDotted module.toList) &&
      isName own.toList && isName imported.toList
  | names => isDotted module.toList && !names.isEmpty &&
      names.all fun (own, imported) => own == imported && isName imported.toList

/-- Whether a definition is as the reader gives it. -/
def isNormal : Definition → Bool
  | .rule name body => isName name.toList && !isTerminalName name && body.isNormal
  | .terminal name body => isName name.toList && isTerminalName name && body.isNormal
  | .imports module names => isImport module names
  | .ignore body => body.isNormal

/-- What is written for the names of an import. -/
def importText (module : List Char) : List (String × String) → List Char
  | [(own, imported)] => (if module.isEmpty then [] else module ++ ['.']) ++ imported.toList ++
      if own = imported then [] else [' ', '-', '>', ' '] ++ own.toList
  | names => module ++ [' ', '('] ++ joinWith [',', ' '] (names.map (·.2.toList)) ++ [')']

/-- An import of no single name is one of names under their own names. -/
theorem exists_names_of_isImport {module : String} {names : List (String × String)}
    (h : isImport module names = true) (hmany : names.length ≠ 1) :
    ∃ own : List String, own ≠ [] ∧ (∀ n ∈ own, isName n.toList = true) ∧
      names = own.map (fun n => (n, n)) ∧ isDotted module.toList = true ∧
      importText module.toList names =
        module.toList ++ [' ', '('] ++ joinWith [',', ' '] (own.map (·.toList)) ++ [')'] := by
  have hsplit : (isDotted module.toList = true ∧ names ≠ [] ∧
      ∀ x ∈ names, x.1 = x.2 ∧ isName x.2.toList = true) ∧
      importText module.toList names =
        module.toList ++ [' ', '('] ++ joinWith [',', ' '] (names.map (·.2.toList)) ++ [')'] := by
    rcases names with - | ⟨first, - | ⟨second, names⟩⟩
    · simp [isImport] at h
    · exact absurd rfl hmany
    · exact ⟨by simpa [isImport, and_assoc] using h, rfl⟩
  obtain ⟨⟨hdotted, hne, hall⟩, htext⟩ := hsplit
  refine ⟨names.map (·.2), by simpa using hne, ?_, ?_, hdotted, by rw [htext, List.map_map]; rfl⟩
  · simpa using fun own imported hmem => (hall (imported, own) hmem).2
  · rw [List.map_map]
    refine (List.map_id names).symm.trans (List.map_congr_left fun x hx => ?_)
    exact Prod.ext (hall x hx).1 rfl

/-- A directive with its keyword. -/
def directiveText (keyword : String) (body : List Char) : List Char :=
  keyword.toList ++ ' ' :: body

/-- What is written for a definition. -/
def text : Definition → List Char
  | .rule name body => name.toList ++ [':', ' '] ++ body.text
  | .terminal name body => name.toList ++ [':', ' '] ++ body.text
  | .imports module names => directiveText "%import" (importText module.toList names)
  | .ignore body => directiveText "%ignore" body.text

end Definition

/-! ## Sources -/

/-- A line of a source : a definition or none, white space behind it, and a comment. -/
structure Row where
  definition : Option Definition
  space : List Char
  comment : Option (List Char)
  deriving Repr

namespace Row

/-- What stands on a line. -/
def text (row : Row) : List Char :=
  (row.definition.map Definition.text).getD [] ++
    (row.space ++ (row.comment.map ('/' :: '/' :: ·)).getD [])

/-- Whether a line can stand in a source. Behind a definition only some white space is passed
over. -/
def isNormal (row : Row) : Bool :=
  row.definition.all Definition.isNormal &&
    row.space.all (fun c =>
      c != '\n' && if row.definition.isSome then isBlankChar c else isWhite c) &&
    (row.comment.getD []).all (· != '\n')

/-- The definition of a line, with the number of the line. -/
def located (row : Row) (line : Nat) : Option Located :=
  row.definition.map (Located.mk line)

end Row

/-- Lines one below the other. -/
def sourceText (rows : List Row) : String :=
  String.ofList (joinWith ['\n'] (rows.map Row.text))

/-- The definitions of lines, each with the number of its line, counted from one. -/
def located (rows : List Row) : List Located :=
  (rows.zipIdx 1).filterMap fun numbered => numbered.1.located numbered.2

end QueryGate.Ebnf
