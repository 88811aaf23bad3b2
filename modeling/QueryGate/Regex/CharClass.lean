import QueryGate.Regex.Script
import QueryGate.Regex.BinaryProperty
import QueryGate.Regex.CaseOrbit
import QueryGate.Text.WhiteSpace

/-!
# Character classes

Sets of characters as they are written in brackets : ranges and named properties, put together
by the operations on sets and closed under change of case. `CharClass.mem` is membership.
-/

namespace QueryGate.Regex

/-- A named property of characters. -/
inductive Property where
  /-- Every character. -/
  | any
  /-- Code points below 128. -/
  | ascii
  /-- Letters, marks, decimal digits, connectors and the two joiners. -/
  | word
  /-- Decimal digits of every script. -/
  | digit
  /-- White space. -/
  | space
  /-- The property Alphabetic. -/
  | alphabetic
  /-- Characters of one of the categories. -/
  | category (codes : List String)
  /-- Characters of a script. -/
  | script (code : String)
  /-- Characters in one of the ranges of code points. -/
  | table (ranges : List (Nat × Nat))
  deriving DecidableEq, Repr

/-- Whether a character belongs to a word in the sense of `\w`. -/
def isWordMember (c : Char) : Bool :=
  if c.val < 128 then c.isAlphanum || c == '_'
  else Text.isAlphabetic c || ["Mn", "Mc", "Me", "Nd", "Pc"].contains (categoryOf c) ||
    c == '\u200c' || c == '\u200d'

/-- Whether a character is a decimal digit. -/
def isDecimalDigit (c : Char) : Bool :=
  if c.val < 128 then c.isDigit else categoryOf c == "Nd"

/-- Whether a character has the property. -/
def Property.holds : Property → Char → Bool
  | any, _ => true
  | ascii, c => c.val < 128
  | word, c => isWordMember c
  | digit, c => isDecimalDigit c
  | space, c => Text.isWhite c
  | alphabetic, c => Text.isAlphabetic c
  | category codes, c => codes.contains (categoryOf c)
  | script code, c => scriptOf c == code
  | table ranges, c => Text.inRanges ranges c.toNat

/-- A set of characters. -/
inductive CharClass where
  | empty
  | range (first last : Char)
  | property (p : Property)
  | compl (a : CharClass)
  | union (a b : CharClass)
  | inter (a b : CharClass)
  | diff (a b : CharClass)
  | symmDiff (a b : CharClass)
  /-- The characters whose orbit under change of case meets the set. -/
  | folded (a : CharClass)
  /-- The same with ASCII letters only. -/
  | foldedAscii (a : CharClass)
  deriving DecidableEq, Repr

/-- The other case of an ASCII letter. -/
def swapCase (c : Char) : Char :=
  if c.isUpper then c.toLower else c.toUpper

namespace CharClass

/-- Membership. -/
def mem : CharClass → Char → Bool
  | empty, _ => false
  | range first last, c => first ≤ c && c ≤ last
  | property p, c => p.holds c
  | compl a, c => !(a.mem c)
  | union a b, c => a.mem c || b.mem c
  | inter a b, c => a.mem c && b.mem c
  | diff a b, c => a.mem c && !(b.mem c)
  | symmDiff a b, c => a.mem c != b.mem c
  | folded a, c => (caseOrbit c).any a.mem
  | foldedAscii a, c => a.mem c || a.mem (swapCase c)

/-- The set of one character. -/
def single (c : Char) : CharClass := range c c

/-- The set of some characters. -/
def ofList : List Char → CharClass
  | [] => empty
  | [c] => single c
  | c :: cs => union (single c) (ofList cs)

/-- The union of some sets. -/
def unions : List CharClass → CharClass
  | [] => empty
  | [a] => a
  | a :: as => union a (unions as)

@[simp] theorem mem_single (c d : Char) : (single c).mem d = true ↔ d = c := by
  simp only [single, mem, Bool.and_eq_true, decide_eq_true_eq]
  exact ⟨fun h => Char.le_antisymm h.2 h.1, fun h => h ▸ ⟨Char.le_refl _, Char.le_refl _⟩⟩

@[simp] theorem mem_ofList (cs : List Char) (d : Char) : (ofList cs).mem d = true ↔ d ∈ cs := by
  induction cs using ofList.induct with
  | case1 => simp [ofList, mem]
  | case2 c => simp [ofList]
  | case3 c cs _ ih => simp [ofList, mem, ih]

/-- Bytes from 128 on that belong to the set, when it is read as a set of bytes. -/
def hasHighByte (a : CharClass) : Bool :=
  (List.range 128).any fun n => a.mem (Char.ofNat (128 + n))

end CharClass

end QueryGate.Regex
