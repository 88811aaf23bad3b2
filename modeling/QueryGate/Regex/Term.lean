import QueryGate.Regex.ClassSize
import QueryGate.Regex.Tree

/-!
# Terms

A pattern whose flags have been applied, with repetitions that are still counted. Its size is known
before they are written out (`Term.size`, `Term.expand`).
-/

namespace QueryGate.Regex

/-- A pattern without flags. -/
inductive Term where
  /-- The empty text. -/
  | empty
  | chars (cls : CharClass)
  | look (cond : Look) (asciiWords : Bool)
  | rep (greedy : Bool) (least : Nat) (most : Option Nat) (a : Term)
  | concat (parts : List Term)
  /-- Earlier alternatives are preferred. -/
  | alt (options : List Term)
  deriving Repr

namespace Term

/-- One term after the other. -/
def sequence : List Term → Term
  | [] => empty
  | [a] => a
  | parts => concat parts

/-- The first of the alternatives that matches. -/
def choice : List Term → Term
  | [] => empty
  | [a] => a
  | options => alt options

mutual

/-- The expression of a term, with every repetition written out. -/
def expand : Term → Regex
  | empty => .empty
  | chars cls => .chars cls
  | look cond asciiWords => .look cond asciiWords
  | rep greedy least most a => repeated greedy a.expand least most
  | concat parts => Regex.sequence (expandAll parts)
  | alt options => Regex.choice (expandAll options)

/-- The expressions of terms. -/
def expandAll : List Term → List Regex
  | [] => []
  | a :: as => a.expand :: expandAll as

end

theorem expandAll_eq_map (as : List Term) : expandAll as = as.map expand := by
  induction as with
  | nil => rfl
  | cons a as ih => rw [expandAll, ih, List.map_cons]

@[simp] theorem expand_sequence (as : List Term) :
    (sequence as).expand = Regex.sequence (as.map expand) := by
  rw [← expandAll_eq_map]
  match as with
  | [] | [_] | _ :: _ :: _ => rfl

@[simp] theorem expand_choice (as : List Term) :
    (choice as).expand = Regex.choice (as.map expand) := by
  rw [← expandAll_eq_map]
  match as with
  | [] | [_] | _ :: _ :: _ => rfl

mutual

/-- Whether the term can match the empty text, conditions aside. -/
def isNullable : Term → Bool
  | empty => true
  | chars _ => false
  | look _ _ => true
  | rep _ least _ a => least == 0 || a.isNullable
  | concat parts => allNullable parts
  | alt options => anyNullable options

/-- Whether all of the terms can. -/
def allNullable : List Term → Bool
  | [] => true
  | a :: as => a.isNullable && allNullable as

/-- Whether one of the terms can. -/
def anyNullable : List Term → Bool
  | [] => false
  | a :: as => a.isNullable || anyNullable as

end

mutual

/-- The bytes a term takes in an automaton : 32 for a state, and 4 more for each way to go on where
there are several. -/
def size : Term → Nat
  | empty => 32
  | chars cls => cls.size
  | look _ _ => 32
  | rep _ least none a =>
    a.size * max least 1 + (if least == 0 && a.isNullable then 112 else 40)
  | rep _ least (some most) a =>
    a.size * max least most + (if least < most then 32 + 40 * (most - least) else 0)
  | concat parts => sizeOfParts parts
  | alt options => 64 + 4 * options.length + sizeOfOptions options

/-- The size of terms one after the other, where the empty text takes nothing. -/
def sizeOfParts : List Term → Nat
  | [] => 0
  | empty :: as => sizeOfParts as
  | a :: as => a.size + sizeOfParts as

/-- The sum of the sizes of alternatives. -/
def sizeOfOptions : List Term → Nat
  | [] => 0
  | a :: as => a.size + sizeOfOptions as

end

@[simp] theorem sizeOfParts_sequence (as : List Term) :
    sizeOfParts [sequence as] = sizeOfParts as := by
  match as with
  | [] | [_] => rfl
  | a :: b :: as =>
    change (concat (a :: b :: as)).size + 0 = _
    rw [size, Nat.add_zero]

end Term

end QueryGate.Regex
