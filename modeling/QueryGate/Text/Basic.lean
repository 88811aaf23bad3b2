/-!
# Texts and their offsets

A text is a list of characters. Positions inside it are offsets in bytes of its UTF-8 form :
`byteLength` measures a text, `dropBytes?` cuts it at an offset and fails inside a character.

* `dropBytes?_byteLength_append` : an offset between two parts of a text cuts it there;
* `eq_append_of_dropBytes?` : a cut loses nothing.
-/

namespace QueryGate.Text

/-- Number of bytes of a text in UTF-8. -/
def byteLength (s : List Char) : Nat :=
  (s.map Char.utf8Size).foldr (· + ·) 0

@[simp] theorem byteLength_nil : byteLength [] = 0 :=
  rfl

@[simp] theorem byteLength_cons (c : Char) (s : List Char) :
    byteLength (c :: s) = c.utf8Size + byteLength s := by
  simp [byteLength]

@[simp] theorem byteLength_append (s t : List Char) :
    byteLength (s ++ t) = byteLength s + byteLength t := by
  induction s with
  | nil => simp
  | cons c s ih => rw [List.cons_append, byteLength_cons, ih, byteLength_cons, Nat.add_assoc]

/-- What is left of a text from a byte offset on; `none` inside a character or past the end. -/
def dropBytes? : List Char → Nat → Option (List Char)
  | s, 0 => some s
  | [], _ + 1 => none
  | c :: s, n + 1 =>
    if c.utf8Size ≤ n + 1 then dropBytes? s (n + 1 - c.utf8Size) else none

@[simp] theorem dropBytes?_zero (s : List Char) : dropBytes? s 0 = some s := by
  cases s <;> rfl

theorem dropBytes?_byteLength_append (u s : List Char) :
    dropBytes? (u ++ s) (byteLength u) = some s := by
  induction u with
  | nil => simp
  | cons c u ih =>
    have hc := c.utf8Size_pos
    obtain ⟨n, hn⟩ : ∃ n, byteLength (c :: u) = n + 1 := ⟨c.utf8Size + byteLength u - 1, by
      simp only [byteLength_cons]; omega⟩
    rw [hn, List.cons_append, dropBytes?, ← hn, byteLength_cons, if_pos (Nat.le_add_right _ _),
      Nat.add_sub_cancel_left, ih]

theorem eq_append_of_dropBytes? {s t : List Char} {n : Nat} (h : dropBytes? s n = some t) :
    ∃ u, s = u ++ t ∧ byteLength u = n := by
  induction s, n using dropBytes?.induct with
  | case1 s => exact ⟨[], by simpa using h, rfl⟩
  | case2 n => simp [dropBytes?] at h
  | case3 c s n hc ih =>
    rw [dropBytes?, if_pos hc] at h
    obtain ⟨u, hu, hn⟩ := ih h
    exact ⟨c :: u, by rw [hu, List.cons_append], by rw [byteLength_cons, hn]; omega⟩
  | case4 c s n hc => simp [dropBytes?, hc] at h

/-- A text without its longest tail of characters that satisfy `p`. -/
def dropEndWhile (p : Char → Bool) (s : List Char) : List Char :=
  (s.reverse.dropWhile p).reverse

/-- Whether `part` occurs somewhere in `s`. -/
def isInfix (part : List Char) : List Char → Bool
  | [] => part.isEmpty
  | c :: s => part.isPrefixOf (c :: s) || isInfix part s

/-- ASCII letters in upper case, all else unchanged. -/
def upper (s : List Char) : List Char :=
  s.map Char.toUpper

/-- ASCII letters in lower case, all else unchanged. -/
def lower (s : List Char) : List Char :=
  s.map Char.toLower

/-- Equality up to the case of ASCII letters. -/
def sameLetters (s t : List Char) : Bool :=
  lower s == lower t

/-- The pieces of a text between the occurrences of a separator; one more than there are
separators. -/
def splitAt (sep : Char) : List Char → List (List Char)
  | [] => [[]]
  | c :: s =>
    if c == sep then [] :: splitAt sep s
    else match splitAt sep s with
      | [] => [[c]]
      | piece :: pieces => (c :: piece) :: pieces

/-- What stands before and after the first occurrence of a separator. -/
def splitFirst? (sep : Char) (s : List Char) : Option (List Char × List Char) :=
  match s.dropWhile (· != sep) with
  | [] => none
  | _ :: rest => some (s.takeWhile (· != sep), rest)

/-- A line without the carriage return that stood before its line feed. -/
def dropReturn (s : List Char) : List Char :=
  if s.getLast? == some '\r' then s.dropLast else s

/-- The lines of a text : pieces ended by a line feed, or by a carriage return and a line feed.
What follows the last line feed is a line if it is not empty, and keeps its carriage return. -/
def lines (s : List Char) : List (List Char) :=
  let pieces := splitAt '\n' s
  pieces.dropLast.map dropReturn ++ (pieces.getLast?.toList.filter (!·.isEmpty))

/-- The pieces joined with a separator between them. -/
def joinWith (sep : List Char) (pieces : List (List Char)) : List Char :=
  (pieces.intersperse sep).flatten

end QueryGate.Text
