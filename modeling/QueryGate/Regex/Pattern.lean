/-!
# Patterns

The written form of regular expressions as a tree (`Pattern`), with its flags not yet applied,
and what can be wrong with it (`PatternFault`).
-/

namespace QueryGate.Regex

/-- Why a pattern is refused. -/
inductive PatternFault where
  | groupUnclosed
  | groupUnopened
  | groupNameInvalid
  | groupNameTwice
  | lookAround
  | backreference
  | nothingToRepeat
  | countUnclosed
  | countEmpty
  | countInvalid
  | countOutOfOrder
  | flagUnknown
  | flagTwice
  | flagDangling
  | flagsUnclosed
  | escapeUnclosed
  | escapeUnknown
  | escapeInvalid
  | classUnclosed
  | classRangeInvalid
  | classEscapeInvalid
  | propertyUnknown
  | unicodeNotAllowed
  | invalidBytes
  | tooDeep
  | tooLarge
  deriving DecidableEq, Repr

/-- The wording of a fault. -/
def PatternFault.message : PatternFault → String
  | groupUnclosed => "unclosed group"
  | groupUnopened => "unopened group"
  | groupNameInvalid => "invalid capture group name"
  | groupNameTwice => "duplicate capture group name"
  | lookAround => "look-around, including look-ahead and look-behind, is not supported"
  | backreference => "backreferences are not supported"
  | nothingToRepeat => "repetition operator missing expression"
  | countUnclosed => "unclosed counted repetition"
  | countEmpty => "repetition quantifier expects a valid decimal"
  | countInvalid => "decimal literal invalid"
  | countOutOfOrder => "invalid repetition count range, the start must be <= the end"
  | flagUnknown => "unrecognized flag"
  | flagTwice => "duplicate flag"
  | flagDangling => "dangling flag negation operator"
  | flagsUnclosed => "expected flag but got end of regex"
  | escapeUnclosed => "incomplete escape sequence, reached end of pattern prematurely"
  | escapeUnknown => "unrecognized escape sequence"
  | escapeInvalid => "hexadecimal literal is not a Unicode scalar value"
  | classUnclosed => "unclosed character class"
  | classRangeInvalid => "invalid character class range, the start must be <= the end"
  | classEscapeInvalid => "invalid escape sequence found in character class"
  | propertyUnknown => "Unicode property not found"
  | unicodeNotAllowed => "Unicode not allowed here"
  | invalidBytes => "pattern can match invalid UTF-8"
  | tooDeep => "exceeds the nest limit"
  | tooLarge => "Compiled regex exceeds size limit of 10485760 bytes."

/-- What a flag letter switches. -/
inductive Flag where
  | anyCase
  | multiLine
  | dotAll
  | swapGreed
  | unicode
  | returns
  | freeSpacing
  deriving DecidableEq, Repr

/-- Flags with the value they get, in the order written. -/
abbrev FlagChange := List (Flag × Bool)

/-- The classes with a letter of their own. -/
inductive Shorthand where
  | digit
  | space
  | word
  deriving DecidableEq, Repr

/-- The positions a pattern can ask for. -/
inductive Anchor where
  | caret
  | dollar
  | textStart
  | textEnd
  | wordBoundary
  | noWordBoundary
  | wordStart
  | wordEnd
  | wordStartHalf
  | wordEndHalf
  deriving DecidableEq, Repr

/-- A character as it was written; `isByte` if it was given by two hexadecimal digits. -/
structure Written where
  char : Char
  isByte : Bool
  deriving DecidableEq, Repr

/-- A property asked for by name, as `\p{name}` or `\p{name=value}`. -/
structure PropertyQuery where
  name : String
  value : Option String
  negated : Bool
  deriving DecidableEq, Repr

/-- Operations on sets in brackets. -/
inductive SetOp where
  | inter
  | diff
  | symmDiff
  deriving DecidableEq, Repr

/-- What stands in brackets. -/
inductive SetPattern where
  | empty
  | single (c : Written)
  | range (first last : Written)
  /-- A class of ASCII characters such as `[:alpha:]`. -/
  | ascii (name : String) (negated : Bool)
  | property (query : PropertyQuery)
  | shorthand (kind : Shorthand) (negated : Bool)
  | bracketed (negated : Bool) (inner : SetPattern)
  | union (parts : List SetPattern)
  | op (kind : SetOp) (a b : SetPattern)
  deriving Repr

/-- A pattern. -/
inductive Pattern where
  | empty
  /-- Changes flags for the rest of the group. -/
  | flags (change : FlagChange)
  | single (c : Written)
  | dot
  | anchor (a : Anchor)
  | shorthand (kind : Shorthand) (negated : Bool)
  | property (query : PropertyQuery)
  | set (negated : Bool) (inner : SetPattern)
  | group (change : FlagChange) (inner : Pattern)
  | rep (inner : Pattern) (least : Nat) (most : Option Nat) (greedy : Bool)
  | concat (parts : List Pattern)
  | alt (options : List Pattern)
  deriving Repr

mutual

/-- How deep what stands in brackets nests. -/
def SetPattern.depth : SetPattern → Nat
  | .bracketed _ inner => inner.depth + 1
  | .union parts => depthOfSets parts + 1
  | .op _ a b => max a.depth b.depth + 1
  | _ => 0

/-- The depth of the deepest. -/
def depthOfSets : List SetPattern → Nat
  | [] => 0
  | p :: ps => max p.depth (depthOfSets ps)

end

mutual

/-- How deep a pattern nests. -/
def Pattern.depth : Pattern → Nat
  | .set _ inner => inner.depth + 1
  | .group _ inner => inner.depth + 1
  | .rep inner _ _ _ => inner.depth + 1
  | .concat parts => depthOfPatterns parts + 1
  | .alt options => depthOfPatterns options + 1
  | _ => 0

/-- The depth of the deepest. -/
def depthOfPatterns : List Pattern → Nat
  | [] => 0
  | p :: ps => max p.depth (depthOfPatterns ps)

end

end QueryGate.Regex
