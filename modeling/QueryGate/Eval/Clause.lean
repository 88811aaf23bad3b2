import QueryGate.Regex.CharClass
import QueryGate.Decimal.Natural

/-!
# Clauses

Where a query speaks of a limit, of groups and of joins. Keywords are looked for as words in any
case, wherever they stand.

* `limitValue? sql` : the number behind the first LIMIT;
* `groupClause? sql` : what follows the first GROUP BY, up to the next clause;
* `hasJoin sql` : whether there is a JOIN.
-/

namespace QueryGate.Eval

open Text

/-- The text behind a word that begins at a place behind `prev` and ends where words end. -/
def keyword? (word : List Char) (prev : Option Char) (s : List Char) : Option (List Char) :=
  let rest := s.drop word.length
  if !prev.any Regex.isWordMember && sameLetters (s.take word.length) word &&
    !rest.head?.any Regex.isWordMember then some rest else none

/-- The text behind two words with white space between them. -/
def phrase? (first second : List Char) (prev : Option Char) (s : List Char) :
    Option (List Char) :=
  (keyword? first prev s).bind fun rest =>
    if rest.head?.any isWhite then keyword? second none (trimStart rest) else none

/-- What `f` finds at the first place of a text where it finds something. A place is given by the
character before it and the text behind it. -/
def firstAt? {α : Type} (f : Option Char → List Char → Option α) :
    Option Char → List Char → Option α
  | prev, [] => f prev []
  | prev, c :: s => (f prev (c :: s)).or (firstAt? f (some c) s)

/-- A text up to the first place that satisfies `p`. -/
def upTo (p : Option Char → List Char → Bool) : Option Char → List Char → List Char
  | _, [] => []
  | prev, c :: s => if p prev (c :: s) then [] else c :: upTo p (some c) s

/-- The digits behind LIMIT. -/
def limitDigits? (prev : Option Char) (s : List Char) : Option (List Char) :=
  (keyword? "LIMIT".toList prev s).bind fun rest =>
    let digits := (trimStart rest).takeWhile Regex.isDecimalDigit
    if rest.head?.any isWhite && !digits.isEmpty then some digits else none

/-- The number behind the first LIMIT. -/
def limitValue? (sql : List Char) : Option Nat :=
  (firstAt? limitDigits? none sql).bind fun digits =>
    (Decimal.readNatural Decimal.maxWord digits).toOption

/-- Whether a clause that follows the groups begins here, or the part of the query that the
groups belong to ends. -/
def endsGroups (prev : Option Char) (s : List Char) : Bool :=
  s.head? == some ')' ||
    ["HAVING", "LIMIT", "FORMAT"].any (fun w => (keyword? w.toList prev s).isSome) ||
    (phrase? "ORDER".toList "BY".toList prev s).isSome

/-- What follows the first GROUP BY, up to the next clause, in lower case. -/
def groupClause? (sql : List Char) : Option (List Char) :=
  (firstAt? (phrase? "GROUP".toList "BY".toList) none sql).map fun rest =>
    lower (upTo endsGroups (some 'Y') rest)

/-- Whether there is a JOIN. -/
def hasJoin (sql : List Char) : Bool :=
  (firstAt? (keyword? "JOIN".toList) none sql).isSome

end QueryGate.Eval
