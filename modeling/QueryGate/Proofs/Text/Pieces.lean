import Mathlib.Data.List.Basic
import QueryGate.Text.Basic

/-!
# Texts in pieces

Joining pieces with a separator and splitting at a separator undo each other
(`joinWith_splitAt`, `splitAt_joinWith`), so the lines of a text of rows are the rows
(`lines_joinWith`).
-/

namespace QueryGate.Text

variable {sep : List Char} {c : Char} {s t : List Char} {pieces : List (List Char)}

@[simp] theorem joinWith_nil (sep : List Char) : joinWith sep [] = [] :=
  rfl

/-- Every piece but the first stands behind a separator. -/
theorem joinWith_cons (sep s : List Char) (pieces : List (List Char)) :
    joinWith sep (s :: pieces) = s ++ pieces.flatMap (sep ++ ·) := by
  induction pieces generalizing s with
  | nil => simp [joinWith]
  | cons t pieces ih =>
    have hcons : joinWith sep (s :: t :: pieces) = s ++ (sep ++ joinWith sep (t :: pieces)) := by
      simp [joinWith, List.intersperse]
    rw [hcons, ih t, List.flatMap_cons, List.append_assoc]

theorem joinWith_append_singleton (hne : pieces ≠ []) (s : List Char) :
    joinWith sep (pieces ++ [s]) = joinWith sep pieces ++ sep ++ s := by
  obtain ⟨t, pieces, rfl⟩ := List.exists_cons_of_ne_nil hne
  rw [List.cons_append, joinWith_cons, joinWith_cons, List.flatMap_append]
  simp

/-- A piece is no longer than the whole. -/
theorem length_le_length_joinWith (h : s ∈ pieces) : s.length ≤ (joinWith sep pieces).length := by
  cases pieces with
  | nil => cases h
  | cons t pieces =>
    rw [joinWith_cons, List.length_append]
    rcases List.mem_cons.mp h with rfl | hmem
    · exact Nat.le_add_right _ _
    · have hpart := List.sublist_flatten_of_mem (List.mem_map_of_mem (f := (sep ++ ·)) hmem)
      have hle := hpart.length_le
      rw [List.length_append] at hle
      rw [List.flatMap_def]
      omega

theorem splitAt_ne_nil (c : Char) (s : List Char) : splitAt c s ≠ [] := by
  cases s with
  | nil => simp [splitAt]
  | cons d s =>
    rw [splitAt]
    split_ifs
    · simp
    · split <;> simp

theorem joinWith_splitAt (c : Char) (s : List Char) : joinWith [c] (splitAt c s) = s := by
  induction s with
  | nil => rfl
  | cons d s ih =>
    obtain ⟨t, pieces, hpieces⟩ := List.exists_cons_of_ne_nil (splitAt_ne_nil c s)
    rw [splitAt, hpieces]
    rw [hpieces, joinWith_cons] at ih
    split_ifs with hd
    · obtain rfl := beq_iff_eq.mp hd
      rw [joinWith_cons, List.flatMap_cons, List.nil_append, List.append_assoc, ih]
      rfl
    · rw [joinWith_cons, List.cons_append, ih]

theorem splitAt_append (hs : c ∉ s) (t : List Char) :
    splitAt c (s ++ c :: t) = s :: splitAt c t := by
  induction s with
  | nil => simp [splitAt]
  | cons d s ih =>
    rw [List.mem_cons, not_or] at hs
    rw [List.cons_append, splitAt, if_neg (by simpa using Ne.symm hs.1), ih hs.2]

theorem splitAt_eq_singleton (hs : c ∉ s) : splitAt c s = [s] := by
  induction s with
  | nil => rfl
  | cons d s ih =>
    rw [List.mem_cons, not_or] at hs
    rw [splitAt, if_neg (by simpa using Ne.symm hs.1), ih hs.2]

/-- Pieces without the separator in them are found again. -/
theorem splitAt_joinWith (hne : pieces ≠ []) (h : ∀ s ∈ pieces, c ∉ s) :
    splitAt c (joinWith [c] pieces) = pieces := by
  induction pieces with
  | nil => exact absurd rfl hne
  | cons s pieces ih =>
    rw [List.forall_mem_cons] at h
    rw [joinWith_cons]
    cases pieces with
    | nil => rw [List.flatMap_nil, List.append_nil, splitAt_eq_singleton h.1]
    | cons t pieces =>
      have hrest := ih (List.cons_ne_nil t pieces) h.2
      rw [joinWith_cons] at hrest
      rw [List.flatMap_cons, List.append_assoc, List.singleton_append, splitAt_append h.1, hrest]

theorem dropReturn_append (hs : s.getLast? ≠ some '\r') (t : List Char) :
    dropReturn (s ++ t) = s ++ dropReturn t := by
  rcases eq_or_ne t [] with rfl | ht
  · rw [List.append_nil, dropReturn, if_neg (by simpa using hs)]
    exact (List.append_nil s).symm
  · rw [dropReturn, dropReturn, List.getLast?_append_of_ne_nil _ ht]
    split_ifs
    · exact List.dropLast_append_of_ne_nil ht
    · rfl

theorem mem_of_mem_dropReturn (h : c ∈ dropReturn s) : c ∈ s := by
  rw [dropReturn] at h
  split_ifs at h
  · exact (List.dropLast_subset _) h
  · exact h

/-- The lines of rows, the last of which may be missing its end. -/
theorem lines_joinWith (hne : pieces ≠ []) (h : ∀ s ∈ pieces, '\n' ∉ s) :
    lines (joinWith ['\n'] pieces) =
      pieces.dropLast.map dropReturn ++ pieces.getLast?.toList.filter (!·.isEmpty) := by
  rw [lines, splitAt_joinWith hne h]

end QueryGate.Text
