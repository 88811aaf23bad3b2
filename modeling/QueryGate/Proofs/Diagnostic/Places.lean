import Mathlib.Data.List.DropRight
import Mathlib.Data.Prod.Lex
import Mathlib.Order.Bounds.Basic
import QueryGate.Diagnostic

/-!
# Places in a text

A diagnostic stands at the last boundary of characters up to the offset it is made for, counts the
lines and the characters in front of it, and names the token behind it (`Diagnostic.StandsBetween`).
Further on in the text it tells a later line, or a later column of the same line, so line and column
tell the boundaries of a text apart (`Diagnostic.exists_standsBetween_locate`).
-/

namespace QueryGate

/-! ## Bytes in front of a place -/

namespace Text

variable {s u v w : List Char} {n : Nat}

theorem splitBytes_zero (s : List Char) : splitBytes s 0 = ([], s) := by
  cases s with
  | nil => rfl
  | cons c s => rw [splitBytes, if_neg (Nat.not_le_of_lt c.utf8Size_pos)]

theorem splitBytes_append (u s : List Char) (n : Nat) :
    splitBytes (u ++ s) (byteLength u + n) = (u ++ (splitBytes s n).1, (splitBytes s n).2) := by
  induction u with
  | nil => simp
  | cons c u ih =>
    have hrest : byteLength (c :: u) + n - c.utf8Size = byteLength u + n := by
      rw [byteLength_cons]
      omega
    rw [List.cons_append, splitBytes, if_pos (by rw [byteLength_cons]; omega), hrest, ih]
    rfl

theorem splitBytes_byteLength_append (u v : List Char) :
    splitBytes (u ++ v) (byteLength u) = (u, v) := by
  simpa [splitBytes_zero] using splitBytes_append u v 0

theorem append_splitBytes (s : List Char) (n : Nat) :
    (splitBytes s n).1 ++ (splitBytes s n).2 = s := by
  fun_induction splitBytes s n with
  | case1 => rfl
  | case2 c s n hc before rest hsplit ih =>
    rw [hsplit] at ih
    exact congrArg (c :: ·) ih
  | case3 => rfl

theorem byteLength_splitBytes_le (s : List Char) (n : Nat) : byteLength (splitBytes s n).1 ≤ n := by
  fun_induction splitBytes s n with
  | case1 => exact Nat.zero_le _
  | case2 c s n hc before rest hsplit ih =>
    have hle : byteLength before ≤ n - c.utf8Size := by rwa [hsplit] at ih
    rw [byteLength_cons]
    omega
  | case3 => exact Nat.zero_le _

theorem byteLength_le_of_isPrefix (h : u <+: s) : byteLength u ≤ byteLength s := by
  obtain ⟨v, rfl⟩ := h
  rw [byteLength_append]
  exact Nat.le_add_right _ _

/-- An offset of a text that lies inside no character. -/
def IsBoundary (s : List Char) (n : Nat) : Prop :=
  ∃ u, u <+: s ∧ byteLength u = n

/-- A text is cut at its last boundary up to the given number of bytes. -/
theorem isGreatest_byteLength_splitBytes (s : List Char) (n : Nat) :
    IsGreatest {b | IsBoundary s b ∧ b ≤ min n (byteLength s)} (byteLength (splitBytes s n).1) := by
  have hprefix : (splitBytes s n).1 <+: s := ⟨_, append_splitBytes s n⟩
  refine ⟨⟨⟨_, hprefix, rfl⟩, Nat.le_min.mpr ⟨byteLength_splitBytes_le s n,
    byteLength_le_of_isPrefix hprefix⟩⟩, ?_⟩
  rintro b ⟨⟨u, ⟨v, rfl⟩, rfl⟩, hb⟩
  obtain ⟨k, rfl⟩ := Nat.exists_eq_add_of_le (hb.trans (Nat.min_le_left _ _))
  rw [splitBytes_append, byteLength_append]
  exact Nat.le_add_right _ _

/-- Of two parts at the start of a text the one with more bytes goes on behind the other. -/
theorem exists_append_of_byteLength_lt (hu : u <+: s) (hv : v <+: s)
    (h : byteLength u < byteLength v) : ∃ w, w ≠ [] ∧ v = u ++ w := by
  rcases List.prefix_or_prefix_of_prefix hu hv with ⟨w, rfl⟩ | hvu
  · refine ⟨w, fun hw => ?_, rfl⟩
    rw [hw, List.append_nil] at h
    exact Nat.lt_irrefl _ h
  · exact absurd (byteLength_le_of_isPrefix hvu) (Nat.not_le_of_lt h)

/-! ## Lines and columns -/

/-- What stands behind the last line feed of a text. -/
def lastLine (s : List Char) : List Char :=
  s.rtakeWhile (· != '\n')

theorem newline_not_mem_lastLine (s : List Char) : '\n' ∉ lastLine s := by
  intro h
  rw [lastLine, List.rtakeWhile, List.mem_reverse] at h
  simpa using List.mem_takeWhile_imp h

/-- In front of the last line there is nothing, or a line feed. -/
theorem exists_append_lastLine (s : List Char) :
    ∃ front, s = front ++ lastLine s ∧ ∀ c ∈ front.getLast?, c = '\n' := by
  refine ⟨s.rdropWhile (· != '\n'), List.rdropWhile_append_rtakeWhile.symm, fun c hc => ?_⟩
  obtain ⟨hne, rfl⟩ := List.mem_getLast?_eq_getLast hc
  simpa using List.rdropWhile_last_not (p := (· != '\n')) s hne

theorem lastLine_append (s : List Char) (hw : '\n' ∉ w) : lastLine (s ++ w) = lastLine s ++ w := by
  have hall : ∀ c ∈ w.reverse, (c != '\n') = true := fun c hc =>
    bne_iff_ne.mpr fun h => hw (h ▸ List.mem_reverse.mp hc)
  rw [lastLine, lastLine, List.rtakeWhile, List.rtakeWhile, List.reverse_append,
    List.takeWhile_append_of_pos hall, List.reverse_append, List.reverse_reverse]

end Text

namespace Diagnostic

open Text

/-- Line and column, the line counting first. -/
def place (d : Diagnostic) : Nat ×ₗ Nat :=
  toLex (d.line, d.column)

theorem place_locate (u v : List Char) (expected : List String) :
    (locate (u ++ v) (byteLength u) expected).place =
      toLex (u.count '\n' + 1, (lastLine u).length + 1) := by
  simp [place, locate, splitBytes_byteLength_append, lastLine, List.rtakeWhile]

/-- Behind more characters there are more lines, or more characters on the last line. -/
theorem place_lt_of_ne_nil (u : List Char) {w : List Char} (hw : w ≠ []) :
    toLex (u.count '\n' + 1, (lastLine u).length + 1) <
      toLex ((u ++ w).count '\n' + 1, (lastLine (u ++ w)).length + 1) := by
  have hpos := List.length_pos_of_ne_nil hw
  rw [Prod.Lex.toLex_lt_toLex, List.count_append]
  by_cases hfeed : '\n' ∈ w
  · have hcount := List.count_pos_iff.mpr hfeed
    exact Or.inl (by omega)
  · rw [List.count_eq_zero.mpr hfeed, lastLine_append u hfeed, List.length_append]
    exact Or.inr ⟨rfl, by omega⟩

theorem strictMonoOn_place_locate (text : List Char) (expected : List String) :
    StrictMonoOn (fun n => (locate text n expected).place) {n | IsBoundary text n} := by
  rintro _ ⟨u, hu, rfl⟩ _ ⟨u', hu', rfl⟩ hlt
  obtain ⟨w, hw, rfl⟩ := exists_append_of_byteLength_lt hu hu' hlt
  obtain ⟨v, rfl⟩ := hu'
  have hplace := place_lt_of_ne_nil u hw
  rwa [← place_locate u (w ++ v) expected, ← place_locate (u ++ w) v expected,
    ← List.append_assoc] at hplace

/-! ## What is found -/

/-- How a text begins : it is at its end, or has a word there, as long as possible, or one other
character. -/
inductive BeginsWith : List Char → String → Prop
  | atEnd : BeginsWith [] "end of input"
  | word {w rest : List Char} (hne : w ≠ []) (hword : ∀ c ∈ w, isWordChar c = true)
      (hrest : ∀ c ∈ rest.head?, isWordChar c = false) : BeginsWith (w ++ rest) (String.ofList w)
  | other {c : Char} {rest : List Char} (hc : isWordChar c = false) :
      BeginsWith (c :: rest) (String.singleton c)

theorem beginsWith_tokenOf (s : List Char) : BeginsWith s (tokenOf s) := by
  cases s with
  | nil => exact .atEnd
  | cons c s =>
    cases hc : isWordChar c with
    | false =>
      have htoken : tokenOf (c :: s) = String.singleton c := by simp [tokenOf, hc]
      exact htoken ▸ .other hc
    | true =>
      have htoken : tokenOf (c :: s) = String.ofList ((c :: s).takeWhile isWordChar) := by
        simp [tokenOf, hc]
      have hrest : ∀ d ∈ ((c :: s).dropWhile isWordChar).head?, isWordChar d = false := by
        intro d hd
        simpa [Option.mem_def.mp hd] using List.head?_dropWhile_not isWordChar (c :: s)
      have hword : BeginsWith ((c :: s).takeWhile isWordChar ++ (c :: s).dropWhile isWordChar)
          (String.ofList ((c :: s).takeWhile isWordChar)) :=
        .word (by simp [hc]) (fun _ hd => List.mem_takeWhile_imp hd) hrest
      rwa [List.takeWhile_append_dropWhile, ← htoken] at hword

/-- A diagnostic tells of the place between two parts of a text. -/
structure StandsBetween (d : Diagnostic) (before rest : List Char) : Prop where
  offset : d.offset = byteLength before
  line : d.line = 1 + before.count '\n'
  /-- The column counts the characters behind the last line feed. -/
  column : ∃ front line, before = front ++ line ∧ '\n' ∉ line ∧
    (∀ c ∈ front.getLast?, c = '\n') ∧ d.column = 1 + line.length
  found : BeginsWith rest d.found

theorem standsBetween_locate (text : List Char) (offset : Nat) (expected : List String) :
    (locate text offset expected).StandsBetween (splitBytes text offset).1
      (splitBytes text offset).2 where
  offset := rfl
  line := Nat.add_comm _ _
  column := by
    obtain ⟨front, hfront, hlast⟩ := exists_append_lastLine (splitBytes text offset).1
    refine ⟨front, _, hfront, newline_not_mem_lastLine _, hlast, ?_⟩
    rw [lastLine, List.rtakeWhile, List.length_reverse, Nat.add_comm]
    rfl
  found := beginsWith_tokenOf _

/-- A diagnostic stands at the last boundary up to the offset it is made for and tells line, column
and token of that place; the places of the boundaries of a text are in their order. -/
theorem exists_standsBetween_locate (text : List Char) (expected : List String) :
    (∀ offset,
      IsGreatest {n | IsBoundary text n ∧ n ≤ min offset (byteLength text)}
        (locate text offset expected).offset ∧
      (∃ before rest, text = before ++ rest ∧
        (locate text offset expected).StandsBetween before rest) ∧
      (locate text offset expected).expected = expected) ∧
    StrictMonoOn (fun offset => (locate text offset expected).place) {n | IsBoundary text n} ∧
    Set.InjOn (fun offset => (locate text offset expected).place) {n | IsBoundary text n} := by
  have hmono := strictMonoOn_place_locate text expected
  refine ⟨fun offset => ⟨?_, ?_, rfl⟩, hmono, hmono.injOn⟩
  · exact isGreatest_byteLength_splitBytes text offset
  · exact ⟨_, _, (append_splitBytes text offset).symm, standsBetween_locate text offset expected⟩

example : locate "ab\n(é".toList 5 [] = ⟨4, 2, 2, "é", []⟩ := by decide

end Diagnostic

end QueryGate
