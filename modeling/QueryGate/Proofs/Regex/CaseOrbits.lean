import Mathlib.Data.List.TakeWhile
import Mathlib.Tactic.SplitIfs
import QueryGate.Regex.CaseOrbit
import QueryGate.Text.Numeric

/-!
# Case folding and words

* `isWordChar_of_mem_caseOrbit` : case folding does not lead out of the characters of words;
* `toUpper_eq_of_mem_caseOrbit` : among ASCII characters it is the comparison in upper case.

Both are read off the table of orbits. Looking up each of its members among the ranges of letters
would go through them thousands of times, so the members are taken in an order in which the two can
be walked through side by side (`coveredFrom`).
-/

namespace QueryGate.Regex

open Text

variable {c d : Char} {n : Nat}

/-! ## Ranges -/

/-- Whether numbers lie in ranges. The walk through the ranges goes on where the number before lay,
and begins again where a number is too small for that. -/
def coveredFrom (ranges : List (Nat × Nat)) : List (Nat × Nat) → List Nat → Bool
  | _, [] => true
  | rest, n :: ns =>
    match (if rest.head?.any fun r => Nat.ble r.1 n then rest else ranges).dropWhile
        fun r => Nat.blt r.2 n with
    | [] => false
    | r :: rs => Nat.ble r.1 n && coveredFrom ranges (r :: rs) ns

theorem inRanges_of_coveredFrom {ranges rest : List (Nat × Nat)} {ns : List Nat}
    (h : coveredFrom ranges rest ns = true) (hrest : rest ⊆ ranges) :
    ∀ n ∈ ns, inRanges ranges n = true := by
  induction ns generalizing rest with
  | nil => simp
  | cons n ns ih =>
    rw [coveredFrom] at h
    have hsub : (if rest.head?.any fun r => Nat.ble r.1 n then rest else ranges) ⊆ ranges := by
      split_ifs
      · exact hrest
      · exact List.Subset.refl _
    split at h
    next => cases h
    next r rs hdrop =>
      rw [Bool.and_eq_true, Nat.ble_eq] at h
      have hmem : r :: rs ⊆ ranges :=
        hdrop ▸ List.Subset.trans (List.dropWhile_sublist _).subset hsub
      refine List.forall_mem_cons.mpr ⟨?_, ih h.2 hmem⟩
      have hkept := List.head?_dropWhile_not (fun r : Nat × Nat => Nat.blt r.2 n)
        (if rest.head?.any fun r => Nat.ble r.1 n then rest else ranges)
      rw [hdrop] at hkept
      have hle : n ≤ r.2 := Nat.le_of_not_lt fun hlt =>
        Bool.false_ne_true (Eq.symm hkept |>.trans (Nat.blt_eq.mpr hlt))
      exact List.any_eq_true.mpr ⟨r, hmem (List.mem_cons_self ..), by simp [h.1, hle]⟩

/-! ## The table of orbits -/

/-- The members of orbits, first those in the first place, then those in the second, and so on. -/
def orbitColumns (rows : List (List Nat)) : List Nat :=
  (List.range 4).flatMap fun k => rows.filterMap (·[k]?)

theorem mem_orbitColumns {rows : List (List Nat)} {row : List Nat} (hrow : row ∈ rows)
    (hlen : row.length ≤ 4) (hn : n ∈ row) : n ∈ orbitColumns rows := by
  obtain ⟨k, hk, rfl⟩ := List.mem_iff_getElem.mp hn
  exact List.mem_flatMap.mpr ⟨k, List.mem_range.mpr (by omega),
    List.mem_filterMap.mpr ⟨row, hrow, List.getElem?_eq_getElem hk⟩⟩

theorem coveredFrom_caseOrbitTable : coveredFrom alphabeticRanges []
    ((orbitColumns caseOrbitTable).filter fun n => !Nat.blt n 128) = true := by
  decide +kernel

/-- The table speaks of characters, at most four in an orbit; those of ASCII are letters. -/
theorem all_caseOrbitTable : (caseOrbitTable.all fun row => Nat.ble row.length 4 && row.all fun n =>
    decide n.isValidChar && (!Nat.blt n 128 || (Char.ofNat n).isAlpha)) = true := by
  decide +kernel

theorem isAlphabetic_of_mem_row {row : List Nat} (hrow : row ∈ caseOrbitTable) (hn : n ∈ row) :
    isAlphabetic (Char.ofNat n) = true := by
  have hall := List.all_eq_true.mp all_caseOrbitTable row hrow
  rw [Bool.and_eq_true, Nat.ble_eq] at hall
  have hmember := List.all_eq_true.mp hall.2 n hn
  rw [Bool.and_eq_true, decide_eq_true_eq, Bool.or_eq_true, Bool.not_eq_true'] at hmember
  have htoNat : (Char.ofNat n).toNat = n := by rw [Char.ofNat, dif_pos hmember.1]; rfl
  rcases hmember.2 with hbeyond | halpha
  · have hascii : ¬(Char.ofNat n).val < 128 := by
      rw [UInt32.lt_iff_toNat_lt]
      change ¬(Char.ofNat n).toNat < 128
      simpa [htoNat, Nat.blt_eq, ← Bool.not_eq_true] using hbeyond
    rw [isAlphabetic, if_neg hascii, htoNat]
    exact inRanges_of_coveredFrom coveredFrom_caseOrbitTable (List.nil_subset _) n
      (List.mem_filter.mpr ⟨mem_orbitColumns hrow hall.1 hn, by simp [hbeyond]⟩)
  · exact isAlphabetic_of_isAlpha halpha

/-! ## Orbits -/

theorem isAlphabetic_of_mem_tableCaseOrbit (h : c ∈ tableCaseOrbit d) : isAlphabetic c = true := by
  rw [tableCaseOrbit] at h
  obtain ⟨n, hn, rfl⟩ := List.mem_map.mp h
  generalize hfound : (caseOrbitTable.find? fun row => row.contains d.toNat) = found at hn
  cases found with
  | none => simp at hn
  | some row => exact isAlphabetic_of_mem_row (List.mem_of_find?_eq_some hfound) hn

theorem isAlphabetic_of_mem_asciiCaseOrbit (hd : d.toNat < 128) (h : c ∈ asciiCaseOrbit d) :
    isAlphabetic c = true := by
  have hall : ((List.range 128).all fun n =>
      (asciiCaseOrbit (Char.ofNat n)).all isAlphabetic) = true := by decide +kernel
  have hof := List.all_eq_true.mp hall d.toNat (List.mem_range.mpr hd)
  rw [Char.ofNat_toNat] at hof
  exact List.all_eq_true.mp hof c h

/-- Case folding does not lead out of the characters of words. -/
theorem isWordChar_of_mem_caseOrbit (h : c ∈ caseOrbit d) (hd : isWordChar d = true) :
    isWordChar c = true := by
  rcases List.mem_cons.mp h with rfl | h
  · exact hd
  have halphabetic : isAlphabetic c = true := by
    have hmem := (List.mem_filter.mp h).1
    split at hmem
    next hascii => exact isAlphabetic_of_mem_asciiCaseOrbit (UInt32.lt_iff_toNat_lt.mp hascii) hmem
    next => exact isAlphabetic_of_mem_tableCaseOrbit hmem
  simp [isWordChar, isAlphanumeric, halphabetic]

/-- Among ASCII characters, case folding is the comparison in upper case. -/
theorem toUpper_eq_of_mem_caseOrbit (h : c ∈ caseOrbit d) (hc : c.toNat < 128)
    (hd : d.toNat < 128) : c.toUpper = d.toUpper := by
  have hall : ((List.range 128).all fun n => (caseOrbit (Char.ofNat n)).all fun c =>
      c.toNat < 128 → c.toUpper = (Char.ofNat n).toUpper) = true := by decide +kernel
  have hof := List.all_eq_true.mp hall d.toNat (List.mem_range.mpr hd)
  rw [Char.ofNat_toNat] at hof
  exact of_decide_eq_true (List.all_eq_true.mp hof c h) hc

end QueryGate.Regex
