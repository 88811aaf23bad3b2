import Mathlib.Data.List.Basic
import QueryGate.Grammar.Compile
import QueryGate.Proofs.Grammar.Derivation

/-!
# Rules that derive the empty text

`marked_nullableRules_iff` : the marks of `nullableRules` are on the rules that vanish and on no
other. A pass keeps the marks it finds and marks what they show to vanish (`Marked.nullablePass`,
`marked_nullablePass`), so marks that a pass leaves alone are complete, and there are as many passes
as rules that could be marked.
-/

namespace QueryGate

variable {productions : Array Production} {marks marks' : Array Bool} {ss : List Symbol}
  {p : Production} {r n fuel : Nat}

/-- The mark of a rule is set. -/
def Marked (marks : Array Bool) (r : Nat) : Prop :=
  marks[r]?.getD false = true

/-- Whether a symbol is a rule with its mark set. -/
theorem allNullable_iff : allNullable marks ss = true ↔
    ∀ s ∈ ss, ∃ r, s = .rule r ∧ Marked marks r := by
  unfold allNullable Marked
  rw [List.all_eq_true]
  refine forall₂_congr fun s _ => ?_
  cases s <;> simp

theorem marked_setIfInBounds_iff {l : Nat} : Marked (marks.setIfInBounds l true) r ↔
    r = l ∧ l < marks.size ∨ Marked marks r := by
  unfold Marked
  rw [Array.getElem?_setIfInBounds]
  by_cases hr : l = r
  · subst hr
    by_cases hl : l < marks.size <;> simp [hl]
  · simp [hr, Ne.symm hr]

/-! ## One pass -/

/-- The marks of one table are kept in another of the same size. -/
structure KeepsMarks (marks marks' : Array Bool) : Prop where
  size_eq : marks'.size = marks.size
  marked : ∀ r, Marked marks r → Marked marks' r

theorem KeepsMarks.allNullable (h : KeepsMarks marks marks')
    (hss : allNullable marks ss = true) : allNullable marks' ss = true := by
  rw [allNullable_iff] at hss ⊢
  intro s hs
  obtain ⟨r, rfl, hr⟩ := hss s hs
  exact ⟨r, rfl, h.marked r hr⟩

/-- One production of a pass. -/
def nullableStep (marks : Array Bool) (p : Production) : Array Bool :=
  if allNullable marks p.rhs then marks.setIfInBounds p.lhs true else marks

theorem marked_nullableStep_iff : Marked (nullableStep marks p) r ↔
    (r = p.lhs ∧ p.lhs < marks.size ∧ allNullable marks p.rhs = true) ∨ Marked marks r := by
  unfold nullableStep
  split_ifs with h
  · rw [marked_setIfInBounds_iff]
    simp [h]
  · simp [h]

theorem size_nullableStep : (nullableStep marks p).size = marks.size := by
  unfold nullableStep
  split_ifs <;> simp

theorem nullablePass_eq : nullablePass productions marks =
    productions.toList.foldl nullableStep marks := by
  rw [nullablePass, ← Array.foldl_toList]
  rfl

theorem keepsMarks_foldl (ps : List Production) (marks : Array Bool) :
    KeepsMarks marks (ps.foldl nullableStep marks) := by
  induction ps generalizing marks with
  | nil => exact ⟨rfl, fun _ => id⟩
  | cons p ps ih =>
    have h := ih (nullableStep marks p)
    exact ⟨h.size_eq.trans size_nullableStep,
      fun r hr => h.marked r (marked_nullableStep_iff.mpr (Or.inr hr))⟩

theorem keepsMarks_nullablePass : KeepsMarks marks (nullablePass productions marks) := by
  rw [nullablePass_eq]
  exact keepsMarks_foldl _ _

/-- A pass marks the left side of a production whose symbols are all marked. -/
theorem marked_nullablePass (hp : p ∈ productions) (hlhs : p.lhs < marks.size)
    (hrhs : allNullable marks p.rhs = true) : Marked (nullablePass productions marks) p.lhs := by
  rw [nullablePass_eq]
  obtain ⟨before, after, hsplit⟩ := List.append_of_mem (Array.mem_def.mp hp)
  rw [hsplit, List.foldl_append, List.foldl_cons]
  have hbefore := keepsMarks_foldl before marks
  refine (keepsMarks_foldl after _).marked _ (marked_nullableStep_iff.mpr (Or.inl ⟨rfl, ?_, ?_⟩))
  · rwa [hbefore.size_eq]
  · exact hbefore.allNullable hrhs

theorem vanishes_of_forall (hss : ∀ s ∈ ss, ∃ r, s = .rule r ∧ Vanishes productions [.rule r]) :
    Vanishes productions ss := by
  induction ss with
  | nil => exact .nil 0
  | cons s ss ih =>
    obtain ⟨r, rfl, hr⟩ := hss s (List.mem_cons_self ..)
    exact spans_append_iff.mpr ⟨0, hr, ih fun s hs => hss s (List.mem_cons_of_mem _ hs)⟩

/-- Every marked rule vanishes. -/
def MarksVanish (productions : Array Production) (marks : Array Bool) : Prop :=
  ∀ r, Marked marks r → Vanishes productions [.rule r]

theorem MarksVanish.foldl (ps : List Production) (hps : ∀ p ∈ ps, p ∈ productions)
    (h : MarksVanish productions marks) :
    MarksVanish productions (ps.foldl nullableStep marks) := by
  induction ps generalizing marks with
  | nil => exact h
  | cons p ps ih =>
    refine ih (fun q hq => hps q (List.mem_cons_of_mem _ hq)) fun r hr => ?_
    rcases marked_nullableStep_iff.mp hr with ⟨rfl, -, hrhs⟩ | hr
    · refine spans_rule_iff.mpr ⟨p, hps p (List.mem_cons_self ..), rfl, vanishes_of_forall ?_⟩
      intro s hs
      obtain ⟨r, rfl, hr⟩ := allNullable_iff.mp hrhs s hs
      exact ⟨r, rfl, h r hr⟩
    · exact h r hr

theorem MarksVanish.nullablePass (h : MarksVanish productions marks) :
    MarksVanish productions (nullablePass productions marks) := by
  rw [nullablePass_eq]
  exact h.foldl _ fun p hp => Array.mem_def.mpr hp

/-! ## All passes -/

/-- Where a pass marks nothing new, all rules of a derivation without terminals are marked. -/
theorem allNullable_of_spans {i j : Nat} (hlhs : ∀ p ∈ productions, p.lhs < marks.size)
    (hfix : nullablePass productions marks = marks)
    (h : Spans productions (fun _ _ _ => False) ss i j) : allNullable marks ss = true := by
  induction h with
  | nil => rfl
  | rule hp _ _ ih ihs =>
    have hmark : Marked marks _ := hfix ▸ marked_nullablePass hp (hlhs _ hp) ih
    rw [allNullable_iff] at ihs ⊢
    intro s hs
    rcases List.mem_cons.mp hs with rfl | hs
    · exact ⟨_, rfl, hmark⟩
    · exact ihs s hs
  | terminal ht => exact ht.elim

/-- The rules without a mark. -/
def unmarked (marks : Array Bool) : List Nat :=
  (List.range marks.size).filter fun r => !marks[r]?.getD false

theorem KeepsMarks.unmarked_sublist (h : KeepsMarks marks marks') :
    (unmarked marks').Sublist (unmarked marks) := by
  unfold unmarked
  rw [h.size_eq]
  refine List.monotone_filter_right _ fun r hr => ?_
  have hkept := h.marked r
  unfold Marked at hkept
  cases hm : marks[r]?.getD false <;> simp_all

theorem KeepsMarks.eq_of_unmarked_eq (h : KeepsMarks marks marks')
    (heq : unmarked marks' = unmarked marks) : marks' = marks := by
  refine Array.ext h.size_eq fun r hr hr' => ?_
  have hiff : r ∈ unmarked marks' ↔ r ∈ unmarked marks := by rw [heq]
  simpa [unmarked, hr, hr'] using hiff

/-- With a pass for every rule that is not marked, the passes end where one more marks nothing. -/
theorem nullablePass_nullableClosure (hfuel : (unmarked marks).length ≤ fuel) :
    nullablePass productions (nullableClosure productions fuel marks) =
      nullableClosure productions fuel marks := by
  induction fuel generalizing marks with
  | zero =>
    have hkeeps : KeepsMarks marks (nullablePass productions marks) := keepsMarks_nullablePass
    refine hkeeps.eq_of_unmarked_eq (hkeeps.unmarked_sublist.eq_of_length_le ?_)
    exact Nat.le_trans hfuel (Nat.zero_le _)
  | succ fuel ih =>
    rw [nullableClosure]
    split_ifs with hnext
    · exact eq_of_beq hnext
    · have hkeeps : KeepsMarks marks (nullablePass productions marks) := keepsMarks_nullablePass
      refine ih (Nat.lt_succ_iff.mp (Nat.lt_of_lt_of_le ?_ hfuel))
      refine Nat.lt_of_le_of_ne hkeeps.unmarked_sublist.length_le fun hlen => hnext ?_
      exact beq_iff_eq.mpr (hkeeps.eq_of_unmarked_eq (hkeeps.unmarked_sublist.eq_of_length hlen))

theorem keepsMarks_nullableClosure : KeepsMarks marks (nullableClosure productions fuel marks) := by
  induction fuel generalizing marks with
  | zero => exact ⟨rfl, fun _ => id⟩
  | succ fuel ih =>
    rw [nullableClosure]
    split_ifs with hnext
    · exact ⟨rfl, fun _ => id⟩
    · have hpass : KeepsMarks marks (nullablePass productions marks) := keepsMarks_nullablePass
      have hrest : KeepsMarks (nullablePass productions marks) _ := ih
      exact ⟨hrest.size_eq.trans hpass.size_eq, fun r hr => hrest.marked r (hpass.marked r hr)⟩

theorem MarksVanish.nullableClosure (h : MarksVanish productions marks) :
    MarksVanish productions (nullableClosure productions fuel marks) := by
  induction fuel generalizing marks with
  | zero => exact h
  | succ fuel ih =>
    rw [QueryGate.nullableClosure]
    split_ifs
    · exact h
    · exact ih h.nullablePass

/-- The marks are on the rules that derive the empty text. -/
theorem marked_nullableRules_iff (hlhs : ∀ p ∈ productions, p.lhs < n) :
    Marked (nullableRules n productions) r ↔ Vanishes productions [.rule r] := by
  unfold nullableRules
  constructor
  · have hnone : MarksVanish productions (Array.replicate n false) := by
      intro r hr
      unfold Marked at hr
      rw [Array.getElem?_replicate] at hr
      split_ifs at hr <;> simp at hr
    exact hnone.nullableClosure r
  · intro h
    have hsize : (nullableClosure productions n (Array.replicate n false)).size = n := by
      rw [keepsMarks_nullableClosure.size_eq, Array.size_replicate]
    have hfuel : (unmarked (Array.replicate n false)).length ≤ n := by
      refine Nat.le_trans (List.length_filter_le _ _) (Nat.le_of_eq ?_)
      rw [List.length_range, Array.size_replicate]
    have hall := allNullable_of_spans (by rwa [hsize]) (nullablePass_nullableClosure hfuel) h
    obtain ⟨r', heq, hr'⟩ := allNullable_iff.mp hall (.rule r) (List.mem_singleton_self _)
    rwa [Symbol.rule.inj heq]

end QueryGate
