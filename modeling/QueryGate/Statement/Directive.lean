import QueryGate.Text.WhiteSpace

/-!
# Trailing directives

A statement may end in semicolons, white space and directives `FORMAT name`, in any number and
order. `withoutTail` takes them all off. The cut before the name of a directive is made one byte
behind the first byte of the last character that is no part of a name; behind a character of
several bytes there is no such place, and the text is `broken`.
-/

namespace QueryGate.Statement

open Text

/-- ASCII letters, digits and low lines. -/
def isIdentChar (c : Char) : Bool :=
  c.isAlphanum || c == '_'

/-- The keyword of a directive. -/
def formatKeyword : List Char := "FORMAT".toList

/-- How a text ends. -/
inductive Ending where
  /-- In a directive, behind the given text. -/
  | directive (before : List Char)
  | other
  /-- In a place where it cannot be cut. -/
  | broken
  deriving DecidableEq, Repr

/-- The text in front of a directive whose name has been taken off. -/
def beforeKeyword? (head : List Char) : Option (List Char) :=
  let trimmed := trimEnd head
  if trimmed.length = head.length || trimmed.length < formatKeyword.length then none
  else
    let n := trimmed.length - formatKeyword.length
    if !sameLetters (trimmed.drop n) formatKeyword then none
    else if ((trimmed.take n).getLast?.map isIdentChar).getD false then none
    else some (trimEnd (trimmed.take n))

/-- How a text ends. -/
def endingOf (s : List Char) : Ending :=
  let head := dropEndWhile isIdentChar s
  match head.getLast? with
  | none => .other
  | some c =>
    if 1 < c.utf8Size then .broken
    else if head.length = s.length then .other
    else match beforeKeyword? head with
      | some before => .directive before
      | none => .other

/-- A text without semicolons and white space at its end. -/
def trimSeparators (s : List Char) : List Char :=
  dropEndWhile (fun c => c == ';' || isWhite c) s

theorem dropEndWhile_length_le (p : Char → Bool) (s : List Char) :
    (dropEndWhile p s).length ≤ s.length := by
  rw [dropEndWhile, List.length_reverse]
  exact Nat.le_trans (List.dropWhile_sublist p).length_le (by simp)

theorem beforeKeyword?_length_lt {head before : List Char} (h : beforeKeyword? head = some before) :
    before.length < head.length := by
  simp only [beforeKeyword?] at h
  split at h
  · cases h
  · next hlen =>
    simp only [Bool.or_eq_true, decide_eq_true_eq, not_or] at hlen
    split at h
    · cases h
    split at h
    · cases h
    obtain rfl := Option.some.inj h
    have h1 : (trimEnd head).length ≤ head.length := dropEndWhile_length_le _ _
    have h2 := dropEndWhile_length_le isWhite
      ((trimEnd head).take ((trimEnd head).length - formatKeyword.length))
    have h3 := List.length_take_le ((trimEnd head).length - formatKeyword.length) (trimEnd head)
    rw [trimEnd]
    omega

theorem endingOf_length_lt {s before : List Char} (h : endingOf s = .directive before) :
    before.length < s.length := by
  simp only [endingOf] at h
  split at h
  · cases h
  split at h
  · cases h
  split at h
  · cases h
  split at h
  · next hb =>
    obtain rfl := Ending.directive.inj h
    exact Nat.lt_of_lt_of_le (beforeKeyword?_length_lt hb) (dropEndWhile_length_le _ _)
  · cases h

/-- Takes separators and directives off the end until there are none; `none` if the text is
broken on the way. -/
def stripTail (s : List Char) : Option (List Char) :=
  let trimmed := trimSeparators s
  match _h : endingOf trimmed with
  | .broken => none
  | .directive before => stripTail before
  | .other => if trimmed.length < s.length then stripTail trimmed else some trimmed
termination_by s.length
decreasing_by
  · exact Nat.lt_of_lt_of_le (endingOf_length_lt _h) (dropEndWhile_length_le _ _)
  · assumption

/-- A statement without what may stand behind it; `none` if it is broken. -/
def withoutTail (s : List Char) : Option (List Char) :=
  stripTail (trim s)

end QueryGate.Statement
