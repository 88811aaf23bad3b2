import QueryGate.Regex.CharClass

/-!
# Regular expressions

An expression `Regex` is built from sets of characters and assertions by sequence, ordered
choice and repetition. Repetition is greedy or lazy; where two ways to match exist, the order of
the alternatives decides.
-/

namespace QueryGate

namespace Regex

/-- A condition on the characters before and after a position. -/
inductive Look where
  | start
  | finish
  | lineStart
  | lineEnd
  /-- The same with carriage returns as line ends too. -/
  | returnStart
  | returnEnd
  /-- Between a word and what is no word. -/
  | wordBoundary
  | noWordBoundary
  | wordStart
  | wordEnd
  | wordStartHalf
  | wordEndHalf
  deriving DecidableEq, Repr

/-- Whether the condition holds between two characters, either of which may be missing. Words
are made of the characters that satisfy `isWord`. -/
def Look.holds (isWord : Char → Bool) (before after : Option Char) : Look → Bool
  | start => before.isNone
  | finish => after.isNone
  | lineStart => before.isNone || before == some '\n'
  | lineEnd => after.isNone || after == some '\n'
  | returnStart =>
    before.isNone || before == some '\n' || (before == some '\r' && after != some '\n')
  | returnEnd =>
    after.isNone || after == some '\r' || (after == some '\n' && before != some '\r')
  | wordBoundary => before.any isWord != after.any isWord
  | noWordBoundary => before.any isWord == after.any isWord
  | wordStart => !before.any isWord && after.any isWord
  | wordEnd => before.any isWord && !after.any isWord
  | wordStartHalf => !before.any isWord
  | wordEndHalf => !after.any isWord

end Regex

/-- A regular expression. -/
inductive Regex where
  /-- The empty text. -/
  | empty
  /-- One character of a set. -/
  | chars (cls : Regex.CharClass)
  /-- The empty text where a condition holds; words are those of ASCII or of every script. -/
  | look (cond : Regex.Look) (asciiWords : Bool)
  | seq (a b : Regex)
  /-- The first alternative is preferred. -/
  | alt (a b : Regex)
  /-- Any number of further repetitions, as many or as few as possible, none of them empty. -/
  | more (greedy : Bool) (a : Regex)
  /-- One repetition, which may be empty, and more of them if it is not. -/
  | plus (greedy : Bool) (a : Regex)
  deriving DecidableEq, Repr

namespace Regex

/-- Sequence without a leading empty part. -/
def andThen : Regex → Regex → Regex
  | empty, b => b
  | a, b => seq a b

/-- A choice between matching and the empty text. -/
def optional (greedy : Bool) (a : Regex) : Regex :=
  if greedy then alt a empty else alt empty a

/-- Whether the expression can match the empty text, conditions aside. -/
def isNullable : Regex → Bool
  | empty => true
  | chars _ => false
  | look _ _ => true
  | seq a b => a.isNullable && b.isNullable
  | alt a b => a.isNullable || b.isNullable
  | more _ _ => true
  | plus _ a => a.isNullable

/-- Any number of repetitions. An expression that can match the empty text may do so once. -/
def star (greedy : Bool) (a : Regex) : Regex :=
  if a.isNullable then optional greedy (plus greedy a) else more greedy a

/-- `n` times `a` and then `b`. -/
def times (a : Regex) (b : Regex) : Nat → Regex
  | 0 => b
  | n + 1 => andThen a (times a b n)

/-- At most `n` times `a`, each further one only after the one before. -/
def atMost (greedy : Bool) (a : Regex) : Nat → Regex
  | 0 => empty
  | 1 => optional greedy a
  | n + 1 => optional greedy (andThen a (atMost greedy a n))

/-- Repetition between two bounds. -/
def repeated (greedy : Bool) (a : Regex) (least : Nat) : Option Nat → Regex
  | none => if least = 0 then star greedy a else times a (plus greedy a) (least - 1)
  | some most => times a (atMost greedy a (most - least)) least

/-- One text after the other. -/
def sequence : List Regex → Regex
  | [] => empty
  | [a] => a
  | a :: as => andThen a (sequence as)

/-- The first of the alternatives that matches. -/
def choice : List Regex → Regex
  | [] => empty
  | [a] => a
  | a :: as => alt a (choice as)

end Regex

end QueryGate
