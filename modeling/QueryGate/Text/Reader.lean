import QueryGate.Text.Basic

/-!
# Readers

A reader takes something off the front of a text and gives it with the rest, or fails. The two
repeating readers end because they stop at the first part that takes nothing.
-/

namespace QueryGate.Text

/-- Takes a value off the front of a text. -/
abbrev Reader (α : Type) := List Char → Option (α × List Char)

namespace Reader

variable {α β : Type}

/-- One given character. -/
def char (c : Char) : Reader Unit
  | d :: s => if d == c then some ((), s) else none
  | [] => none

/-- A given text. -/
def word : List Char → Reader Unit
  | [], s => some ((), s)
  | c :: cs, d :: s => if d == c then word cs s else none
  | _ :: _, [] => none

/-- The value of the first reader that succeeds. -/
def orElse (p q : Reader α) : Reader α := fun s => (p s).or (q s)

/-- The longest run of characters that satisfy a test, which may not be empty. -/
def run1 (p : Char → Bool) : Reader (List Char) := fun s =>
  match s.takeWhile p with
  | [] => none
  | cs => some (cs, s.dropWhile p)

/-- As many as there are, one after the other. -/
def many (p : Reader α) (s : List Char) : List α × List Char :=
  match p s with
  | some (a, rest) =>
    if rest.length < s.length then
      let (as, last) := many p rest
      (a :: as, last)
    else ([], s)
  | none => ([], s)
termination_by s.length

/-- One or more with a separator between them. A separator that nothing follows is not taken. -/
def sepBy1 (sep : Reader Unit) (p : Reader α) : Reader (List α) := fun s =>
  (p s).map fun (a, rest) =>
    let (as, last) := many (fun t => (sep t).bind fun (_, u) => p u) rest
    (a :: as, last)

end Reader

end QueryGate.Text
