import QueryGate.Regex.Tree

/-!
# Matching

The matcher reads a text character by character and keeps the expressions that are left to
match, the preferred one first. `fronts` splits an expression into what it can do next : match
the empty text (`Front.pass`), or take a character and leave another expression. The order of
the fronts is the order of preference, so everything after a pass is given up.

* `matchLength? r before s` : the number of characters of the preferred match at the start
  of `s`;
* `find? r s` : the first place where there is a match.
-/

namespace QueryGate.Regex

/-- One thing an expression can do next. -/
inductive Front where
  /-- Match the empty text here. -/
  | pass
  /-- Take a character of the set and go on with `rest`. -/
  | take (cls : CharClass) (rest : Regex)
  deriving DecidableEq, Repr

/-- Whether the front is a pass. -/
def Front.isPass : Front → Bool
  | pass => true
  | take .. => false

/-- Goes on with `b` after the character of a front. -/
def Front.followedBy (b : Regex) : Front → Front
  | pass => pass
  | take cls rest => take cls (andThen rest b)

/-- What an expression can do next between two characters, in order of preference. -/
def fronts (before after : Option Char) : Regex → List Front
  | empty => [.pass]
  | chars cls => [.take cls .empty]
  | look cond asciiWords =>
    let isWord := if asciiWords then fun c => c.isAlphanum || c == '_' else isWordMember
    if cond.holds isWord before after then [.pass] else []
  | seq a b => (fronts before after a).flatMap fun
    | .pass => fronts before after b
    | .take cls rest => [.take cls (andThen rest b)]
  | alt a b => fronts before after a ++ fronts before after b
  | more greedy a =>
    let again := ((fronts before after a).filter (!·.isPass)).map (Front.followedBy (more greedy a))
    if greedy then again ++ [.pass] else .pass :: again
  | plus greedy a => (fronts before after a).map (Front.followedBy (more greedy a))

/-- What is left of a front after a character. -/
def Front.after? (c : Char) : Front → Option Regex
  | pass => none
  | take cls rest => if cls.mem c then some rest else none

/-- The number of characters of the preferred match of one of the expressions, which stand in
order of preference; `taken` characters have been read and `best` is the match found so far. -/
def matchFrom : (left : List Regex) → (before : Option Char) → (taken : Nat) →
    (best : Option Nat) → List Char → Option Nat
  | left, before, taken, best, s =>
    let next := left.flatMap (fronts before s.head?)
    let best := if next.any Front.isPass then some taken else best
    match s with
    | [] => best
    | c :: s =>
      let left := ((next.takeWhile (!·.isPass)).filterMap (Front.after? c)).eraseDups
      if left.isEmpty then best else matchFrom left (some c) (taken + 1) best s

/-- The length of the preferred match at the start of a text, which stands behind `before`. -/
def matchLength? (r : Regex) (before : Option Char) (s : List Char) : Option Nat :=
  matchFrom [r] before 0 none s

theorem le_of_mem_best {met : Bool} {taken m : Nat} {best : Option Nat}
    (hbest : ∀ m ∈ best, m ≤ taken) (hm : m ∈ if met = true then some taken else best) :
    m ≤ taken := by
  cases met with
  | true => exact Nat.le_of_eq (Option.some.inj hm).symm
  | false => exact hbest m hm

theorem matchFrom_le {left : List Regex} {before : Option Char} {taken n : Nat}
    {best : Option Nat} {s : List Char} (hbest : ∀ m ∈ best, m ≤ taken)
    (h : matchFrom left before taken best s = some n) : n ≤ taken + s.length := by
  induction s generalizing left before taken best with
  | nil => exact le_of_mem_best hbest h
  | cons c s ih =>
    rw [matchFrom] at h
    rw [List.length_cons]
    split at h
    · exact Nat.le_trans (le_of_mem_best hbest h) (Nat.le_add_right ..)
    · have hn := ih (fun m hm => Nat.le_succ_of_le (le_of_mem_best hbest hm)) h
      omega

/-- A match is a part of the text. -/
theorem matchLength?_le {r : Regex} {before : Option Char} {s : List Char} {n : Nat}
    (h : r.matchLength? before s = some n) : n ≤ s.length := by
  simpa using matchFrom_le (by simp) h

/-- A match inside a text. -/
structure Occurrence where
  /-- The text in front of it. -/
  before : List Char
  /-- The text that matches. -/
  matched : List Char
  /-- The text behind it. -/
  after : List Char
  deriving DecidableEq, Repr

/-- The first match in a text that stands behind the character `prev`. -/
def findFrom? (r : Regex) (prev : Option Char) (s : List Char) : Option Occurrence :=
  match matchLength? r prev s with
  | some n => some ⟨[], s.take n, s.drop n⟩
  | none =>
    match s with
    | [] => none
    | c :: rest => (findFrom? r (some c) rest).map fun o => { o with before := c :: o.before }

/-- The first match in a text. -/
def find? (r : Regex) (s : List Char) : Option Occurrence :=
  findFrom? r none s

end QueryGate.Regex
