import QueryGate.Proofs.Text.Trim
import QueryGate.Statement.Directive
import QueryGate.Statement.Quote

/-!
# Classes of characters by code point

Bounds on the code points of white space, quotes and the characters of identifiers, from which
the classes are seen to be disjoint, and how upper and lower case move them.
-/

namespace QueryGate

open Text

variable {c : Char} {s t : List Char}

namespace Text

theorem toNat_toUpper (c : Char) :
    c.toUpper.toNat = if 97 ≤ c.toNat ∧ c.toNat ≤ 122 then c.toNat - 32 else c.toNat := by
  unfold Char.toUpper
  simp only [UInt32.le_iff_toNat_le]
  split_ifs with h h' h'
  · change 97 ≤ c.val.toNat ∧ c.val.toNat ≤ 122 at h
    change (c.val + ('A'.val - 'a'.val)).toNat = c.val.toNat - 32
    rw [UInt32.toNat_add]
    change (c.val.toNat + 4294967264) % 4294967296 = _
    omega
  · exact absurd h h'
  · exact absurd h' h
  · rfl

theorem toUpper_eq_self (h : c.toNat < 97) : c.toUpper = c := by
  rw [Char.ext_iff, ← UInt32.toNat_inj]
  change c.toUpper.toNat = c.toNat
  rw [toNat_toUpper, if_neg (by omega)]

theorem upper_eq_self (h : ∀ c ∈ s, c.toNat < 97) : upper s = s := by
  calc upper s = s.map id := List.map_congr_left fun c hc => toUpper_eq_self (h c hc)
    _ = s := List.map_id s

theorem toNat_toLower (c : Char) :
    c.toLower.toNat = if 65 ≤ c.toNat ∧ c.toNat ≤ 90 then c.toNat + 32 else c.toNat := by
  unfold Char.toLower
  simp only [UInt32.le_iff_toNat_le, ge_iff_le]
  split_ifs with h h' h'
  · change 65 ≤ c.val.toNat ∧ c.val.toNat ≤ 90 at h
    change (c.val + ('a'.val - 'A'.val)).toNat = c.val.toNat + 32
    rw [UInt32.toNat_add]
    change (c.val.toNat + 32) % 4294967296 = _
    omega
  · exact absurd h h'
  · exact absurd h' h
  · rfl

theorem val_mem_range_iff {a b : UInt32} :
    (c.val ≥ a ∧ c.val ≤ b) ↔ a.toNat ≤ c.toNat ∧ c.toNat ≤ b.toNat :=
  and_congr UInt32.le_iff_toNat_le UInt32.le_iff_toNat_le

theorem isUpper_iff : c.isUpper = true ↔ 65 ≤ c.toNat ∧ c.toNat ≤ 90 :=
  decide_eq_true_iff.trans val_mem_range_iff

theorem isLower_iff : c.isLower = true ↔ 97 ≤ c.toNat ∧ c.toNat ≤ 122 := by
  change (decide (c.val ≥ 'a'.val) && decide (c.val ≤ 'z'.val)) = true ↔ _
  rw [Bool.and_eq_true, decide_eq_true_iff, decide_eq_true_iff]
  exact val_mem_range_iff

theorem isDigit_iff : c.isDigit = true ↔ 48 ≤ c.toNat ∧ c.toNat ≤ 57 := by
  change (decide (c.val ≥ '0'.val) && decide (c.val ≤ '9'.val)) = true ↔ _
  rw [Bool.and_eq_true, decide_eq_true_iff, decide_eq_true_iff]
  exact val_mem_range_iff

theorem toNat_lt_of_isUpper_or_isDigit (h : c.isUpper = true ∨ c.isDigit = true ∨ c = '_') :
    c.toNat < 97 := by
  rw [isUpper_iff, isDigit_iff] at h
  rcases h with h | h | rfl
  · omega
  · omega
  · decide

theorem toNat_of_isWhite (h : isWhite c = true) : c.toNat ≤ 32 ∨ 133 ≤ c.toNat := by
  have hval : c.toNat = c.val.toNat := rfl
  simp only [isWhite, Bool.or_eq_true, Bool.and_eq_true, decide_eq_true_eq, beq_iff_eq,
    Char.le_def, UInt32.le_iff_toNat_le] at h
  rcases h with (((((((((rfl | h) | rfl) | rfl) | rfl) | h) | rfl) | rfl) | rfl) | rfl) | rfl
  case inl.inl.inl.inl.inl.inl.inl.inl.inl.inr =>
    change 9 ≤ c.val.toNat ∧ c.val.toNat ≤ 13 at h
    omega
  case inl.inl.inl.inl.inl.inr =>
    change 8192 ≤ c.val.toNat ∧ c.val.toNat ≤ 8202 at h
    omega
  all_goals decide

theorem toUpper_eq_of_toLower_eq {d : Char} (h : c.toLower = d.toLower) :
    c.toUpper = d.toUpper := by
  have hlower := congrArg Char.toNat h
  rw [toNat_toLower, toNat_toLower] at hlower
  rw [Char.ext_iff, ← UInt32.toNat_inj]
  change c.toUpper.toNat = d.toUpper.toNat
  rw [toNat_toUpper, toNat_toUpper]
  split_ifs at hlower ⊢ <;> omega

theorem upper_eq_of_sameLetters (h : sameLetters s t = true) : upper s = upper t := by
  have hlower : s.map Char.toLower = t.map Char.toLower := beq_iff_eq.mp h
  clear h
  induction s generalizing t with
  | nil => rw [List.map_eq_nil_iff.mp hlower.symm]
  | cons c s ih =>
    cases t with
    | nil => cases hlower
    | cons d t =>
      obtain ⟨hhead, htail⟩ := List.cons.inj hlower
      exact congrArg₂ List.cons (toUpper_eq_of_toLower_eq hhead) (ih htail)

theorem length_of_sameLetters (h : sameLetters s t = true) : s.length = t.length := by
  simpa [sameLetters, lower] using congrArg List.length (beq_iff_eq.mp h)

theorem isAlpha_of_toLower (h : c.toLower.isLower = true) : c.isAlpha = true := by
  have hcase := toNat_toLower c
  have hbounds := isLower_iff.mp h
  refine Bool.or_eq_true_iff.mpr ?_
  rw [isUpper_iff, isLower_iff]
  split_ifs at hcase <;> omega

/-- What has the letters of a word consists of letters. -/
theorem isAlpha_of_sameLetters (ht : (lower t).all Char.isLower = true)
    (h : sameLetters s t = true) : ∀ c ∈ s, c.isAlpha = true := by
  intro c hc
  have hmem : c.toLower ∈ lower t := by
    rw [← beq_iff_eq.mp h]
    exact List.mem_map_of_mem hc
  exact isAlpha_of_toLower (List.all_eq_true.mp ht _ hmem)

end Text

namespace Statement

theorem isIdentChar_iff : isIdentChar c = true ↔ (48 ≤ c.toNat ∧ c.toNat ≤ 57) ∨
    (65 ≤ c.toNat ∧ c.toNat ≤ 90) ∨ c.toNat = 95 ∨ (97 ≤ c.toNat ∧ c.toNat ≤ 122) := by
  have hlow : c = '_' ↔ c.toNat = 95 := by
    rw [Char.ext_iff, ← UInt32.toNat_inj]
    rfl
  change ((c.isUpper || c.isLower || c.isDigit) || c == '_') = true ↔ _
  rw [Bool.or_eq_true, Bool.or_eq_true, Bool.or_eq_true, beq_iff_eq, isUpper_iff, isLower_iff,
    isDigit_iff, hlow]
  omega

theorem isIdentChar_of_isUpper_or_isDigit (h : c.isUpper = true ∨ c.isDigit = true ∨ c = '_') :
    isIdentChar c = true := by
  rcases h with h | h | rfl
  · exact isIdentChar_iff.mpr (Or.inr (Or.inl (isUpper_iff.mp h)))
  · exact isIdentChar_iff.mpr (Or.inl (isDigit_iff.mp h))
  · decide

theorem isIdentChar_toUpper (h : isIdentChar c = true) : isIdentChar c.toUpper = true := by
  rw [isIdentChar_iff] at h ⊢
  have := toNat_toUpper c
  split_ifs at this <;> omega

theorem isIdentChar_of_isIdentChar_toLower (h : isIdentChar c.toLower = true) :
    isIdentChar c = true := by
  rw [isIdentChar_iff] at h ⊢
  have := toNat_toLower c
  split_ifs at this <;> omega

theorem not_isWhite_of_isIdentChar (h : isIdentChar c = true) : isWhite c = false := by
  by_contra hw
  have h1 := isIdentChar_iff.mp h
  have h2 := toNat_of_isWhite (by simpa using hw)
  omega

theorem not_isIdentChar_of_isWhite (h : isWhite c = true) : isIdentChar c = false := by
  by_contra hi
  simp [not_isWhite_of_isIdentChar (by simpa using hi)] at h

theorem toNat_of_isQuoteMark (h : isQuoteMark c = true) :
    c.toNat = 39 ∨ c.toNat = 34 ∨ c.toNat = 96 := by
  simp only [isQuoteMark, Bool.or_eq_true, beq_iff_eq] at h
  rcases h with (rfl | rfl) | rfl <;> decide

theorem not_isQuoteMark_of_isWhite (h : isWhite c = true) : isQuoteMark c = false := by
  by_contra hq
  have h1 := toNat_of_isWhite h
  have h2 := toNat_of_isQuoteMark (by simpa using hq)
  omega

theorem not_isQuoteMark_of_isIdentChar (h : isIdentChar c = true) : isQuoteMark c = false := by
  by_contra hq
  have h1 := isIdentChar_iff.mp h
  have h2 := toNat_of_isQuoteMark (by simpa using hq)
  omega

/-- A text that has the letters of the keyword of directives consists of identifier characters. -/
theorem isIdentChar_of_sameLetters_formatKeyword (h : sameLetters s formatKeyword = true) :
    ∀ c ∈ s, isIdentChar c = true := by
  intro c hc
  have hlower : c.toLower ∈ lower formatKeyword := by
    rw [← beq_iff_eq.mp h]
    exact List.mem_map_of_mem hc
  have hident : (lower formatKeyword).all isIdentChar = true := by decide
  exact isIdentChar_of_isIdentChar_toLower (List.all_eq_true.mp hident _ hlower)

end Statement

end QueryGate
