import Mathlib.Data.List.Forall2
import QueryGate.Proofs.Regex.Language

/-!
# Runs of characters

The matches of the simplest expressions, computed : sets of characters one after the other
(`matchFrom_chars`), and a set repeated as often as it goes (`matchFrom_more`,
`matchFrom_plus`).
-/

namespace QueryGate.Regex

variable {r rest : Regex} {before : Option Char} {cls : CharClass} {c : Char} {s : List Char}
  {taken : Nat} {best : Option Nat}

/-- The anchor of a terminal holds where it is tried. -/
theorem matchLength?_anchored {asciiWords : Bool} :
    matchLength? (.seq (.look .start asciiWords) r) none s = matchLength? r none s := by
  have hfronts : ∀ after, fronts none after (.seq (.look .start asciiWords) r) =
      fronts none after r := fun after => by
    simp [fronts, Look.holds]
  cases s <;> simp only [matchLength?, matchFrom, List.flatMap_cons, List.flatMap_nil, hfronts]

theorem matchFrom_empty : matchFrom [.empty] before taken best s = some taken := by
  cases s <;> rfl

/-! ## One character -/

theorem eraseDups_singleton (r : Regex) : [r].eraseDups = [r] := rfl

/-- What is left behind a character of an expression that takes it first. -/
theorem leftBehind_of_take {tail : List Front}
    (h : ∀ after, fronts before after r = .take cls rest :: tail)
    (htail : tail.takeWhile (!·.isPass) = []) (c : Char) :
    leftBehind [r] before c = if cls.mem c then [rest] else [] := by
  rw [leftBehind, List.flatMap_singleton, h, List.takeWhile_cons_of_pos rfl, htail]
  by_cases hc : cls.mem c = true
  · simpa [Front.after?, hc] using eraseDups_singleton rest
  · simp [Front.after?, hc]

/-- An expression that has to take a character. -/
theorem matchFrom_of_take (h : ∀ after, fronts before after r = [.take cls rest]) :
    matchFrom [r] before taken best [] = best ∧ ∀ c s, matchFrom [r] before taken best (c :: s) =
      if cls.mem c then matchFrom [rest] (some c) (taken + 1) best s else best := by
  have hbest : ∀ after, bestHere [r] before after taken best = best := fun after => by
    rw [bestHere, passes, List.flatMap_singleton, h]
    rfl
  refine ⟨by rw [matchFrom_nil, hbest], fun c s => ?_⟩
  rw [matchFrom_cons, hbest, leftBehind_of_take h rfl]
  split_ifs <;> simp_all

/-- An expression that may take a character, and passes otherwise. -/
theorem matchFrom_of_take_or_pass (h : ∀ after, fronts before after r = [.take cls rest, .pass]) :
    matchFrom [r] before taken best [] = some taken ∧
      ∀ c s, matchFrom [r] before taken best (c :: s) =
        if cls.mem c then matchFrom [rest] (some c) (taken + 1) (some taken) s
        else some taken := by
  have hbest : ∀ after, bestHere [r] before after taken best = some taken := fun after => by
    rw [bestHere, passes, List.flatMap_singleton, h]
    rfl
  refine ⟨by rw [matchFrom_nil, hbest], fun c s => ?_⟩
  rw [matchFrom_cons, hbest, leftBehind_of_take h rfl]
  split_ifs <;> simp_all

/-! ## Sets one after the other -/

/-- Whether the characters of a text belong to sets, one by one. -/
def fits : List CharClass → List Char → Bool
  | [], _ => true
  | _ :: _, [] => false
  | cls :: clss, c :: s => cls.mem c && fits clss s

theorem fits_append_iff {clss : List CharClass} {s t : List Char} :
    fits clss (s ++ t) = true ∧ clss.length = s.length ↔
      List.Forall₂ (fun cls c => cls.mem c = true) clss s := by
  induction clss generalizing s with
  | nil => cases s <;> simp [fits]
  | cons cls clss ih =>
    cases s with
    | nil => simp
    | cons c s =>
      rw [List.forall₂_cons, ← ih, List.cons_append, fits, Bool.and_eq_true, List.length_cons,
        List.length_cons, Nat.succ_inj, and_assoc]

theorem exists_of_fits {clss : List CharClass} (h : fits clss s = true) : ∃ t u, s = t ++ u ∧
    List.Forall₂ (fun cls c => cls.mem c = true) clss t := by
  induction clss generalizing s with
  | nil => exact ⟨[], s, rfl, .nil⟩
  | cons cls clss ih =>
    cases s with
    | nil => cases h
    | cons c s =>
      rw [fits, Bool.and_eq_true] at h
      obtain ⟨t, u, rfl, ht⟩ := ih h.2
      exact ⟨c :: t, u, rfl, .cons h.1 ht⟩

theorem fronts_sequence_chars (cls : CharClass) (clss : List CharClass) (after : Option Char) :
    fronts before after (sequence ((cls :: clss).map .chars)) =
      [.take cls (sequence (clss.map .chars))] := by
  cases clss with
  | nil => rfl
  | cons cls' clss => rfl

theorem matchFrom_chars (clss : List CharClass) :
    matchFrom [sequence (clss.map .chars)] before taken best s =
      if fits clss s then some (taken + clss.length) else best := by
  induction clss generalizing before taken s with
  | nil => exact matchFrom_empty
  | cons cls clss ih =>
    have hfronts : ∀ after, fronts before after (sequence ((cls :: clss).map .chars)) =
        [.take cls (sequence (clss.map .chars))] := fronts_sequence_chars cls clss
    cases s with
    | nil => exact (matchFrom_of_take hfronts).1
    | cons c s =>
      rw [(matchFrom_of_take hfronts).2, ih, List.length_cons, fits]
      by_cases hc : cls.mem c = true
      · simp only [hc, if_true, Bool.true_and]
        rw [Nat.add_assoc, Nat.add_comm 1]
      · simp [hc]

theorem isPlain_sequence_chars (clss : List CharClass) :
    (sequence (clss.map .chars)).isPlain = true := by
  induction clss with
  | nil => rfl
  | cons cls clss ih =>
    cases clss with
    | nil => rfl
    | cons cls' clss => exact isPlain_andThen rfl ih

/-! ## A set as often as it goes -/

theorem matchFrom_more : matchFrom [.more true (.chars cls)] before taken best s =
    some (taken + (s.takeWhile cls.mem).length) := by
  induction s generalizing before taken best with
  | nil => exact (matchFrom_of_take_or_pass fun _ => rfl).1
  | cons c s ih =>
    rw [(matchFrom_of_take_or_pass fun _ => rfl).2, List.takeWhile_cons]
    by_cases hc : cls.mem c = true
    · rw [if_pos hc, if_pos hc, List.length_cons]
      exact ih.trans (by rw [Nat.add_assoc, Nat.add_comm 1])
    · rw [if_neg hc, if_neg hc]
      rfl

theorem matchFrom_plus : matchFrom [.plus true (.chars cls)] before taken best s =
    if (s.takeWhile cls.mem).length = 0 then best
    else some (taken + (s.takeWhile cls.mem).length) := by
  cases s with
  | nil => exact (matchFrom_of_take fun _ => rfl).1
  | cons c s =>
    rw [(matchFrom_of_take fun _ => rfl).2, List.takeWhile_cons]
    by_cases hc : cls.mem c = true
    · rw [if_pos hc, if_pos hc, List.length_cons, if_neg (Nat.succ_ne_zero _)]
      exact matchFrom_more.trans (by rw [Nat.add_assoc, Nat.add_comm 1])
    · rw [if_neg hc, if_neg hc]
      rfl

/-! ## A choice by the first character -/

theorem matchFrom_alt_chars {a b : CharClass} {x y : Regex} (ha : a.mem c = true)
    (hb : b.mem c = false) :
    matchFrom [.alt (.seq (.chars a) x) (.seq (.chars b) y)] before taken best (c :: s) =
      matchFrom [x] (some c) (taken + 1) best s := by
  have hnext : ∀ after, [Regex.alt (.seq (.chars a) x) (.seq (.chars b) y)].flatMap
      (fronts before after) = [.take a x, .take b y] := fun after => by
    simp [fronts, andThen]
  have hleft : leftBehind [.alt (.seq (.chars a) x) (.seq (.chars b) y)] before c = [x] := by
    rw [leftBehind, hnext]
    simpa [Front.isPass, Front.after?, ha, hb] using eraseDups_singleton x
  have hbest : ∀ after, bestHere [.alt (.seq (.chars a) x) (.seq (.chars b) y)] before after taken
      best = best := fun after => by
    rw [bestHere, passes, hnext]
    rfl
  rw [matchFrom_cons, hleft, hbest]
  rfl

end QueryGate.Regex
