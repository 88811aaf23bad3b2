import Mathlib.Tactic.SplitIfs
import QueryGate.Decimal.Natural
import QueryGate.Proofs.Text.Readers

/-!
# Natural numbers that are read

Digits are read up to a limit (`toOption_readNatural`), so a number within the limit is read back
from its digits (`toOption_readNatural_toDigits`).
-/

namespace QueryGate.Decimal

open Text

variable {s : List Char} {limit m n : Nat}

theorem le_foldl_digits (s : List Char) (n : Nat) :
    n ≤ s.foldl (fun n c => n * 10 + (c.toNat - 48)) n := by
  induction s generalizing n with
  | nil => exact Nat.le_refl n
  | cons c s ih =>
    have hstep : n ≤ n * 10 + (c.toNat - 48) := by omega
    exact Nat.le_trans hstep (ih _)

/-- Digits are read up to the limit. -/
theorem toOption_readDigits (hs : ∀ c ∈ s, c.isDigit = true) (hn : n ≤ limit)
    (hm : m ≤ limit) : (readDigits limit m s).toOption = some n ↔
      s.foldl (fun n c => n * 10 + (c.toNat - 48)) m = n := by
  induction s generalizing m with
  | nil => simp [readDigits, Except.toOption]
  | cons c s ih =>
    obtain ⟨hc, hs⟩ := List.forall_mem_cons.mp hs
    rw [readDigits, List.foldl_cons]
    simp only [hc, Bool.not_true, Bool.false_eq_true, if_false]
    split_ifs with hlarge
    · have hle := le_foldl_digits s (m * 10 + (c.toNat - 48))
      constructor
      · intro h
        cases h
      · rintro rfl
        omega
    · exact ih hs (Nat.le_of_not_lt hlarge)

theorem toOption_readNatural (hne : s ≠ []) (hs : ∀ c ∈ s, c.isDigit = true) (hn : n ≤ limit) :
    (readNatural limit s).toOption = some n ↔ digitsValue s = n := by
  have hread : readNatural limit s = readDigits limit 0 s := by
    obtain ⟨c, s, rfl⟩ := List.exists_cons_of_ne_nil hne
    have hplus : c ≠ '+' := by
      rintro rfl
      exact absurd (hs '+' (List.mem_cons_self ..)) (by decide)
    unfold readNatural
    split
    all_goals simp_all
  rw [hread]
  exact toOption_readDigits hs hn (Nat.zero_le _)

/-- A number is read back from its digits. -/
theorem toOption_readNatural_toDigits (hn : n ≤ limit) :
    (readNatural limit (Nat.toDigits 10 n)).toOption = some n :=
  (toOption_readNatural Nat.toDigits_ne_nil (fun _ hc => isDigit_of_mem_toDigits hc) hn).mpr
    (foldl_toDigits n)

end QueryGate.Decimal
