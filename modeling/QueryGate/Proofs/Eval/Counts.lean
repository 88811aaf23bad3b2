import Mathlib.Algebra.BigOperators.Group.List.Basic
import Mathlib.Algebra.GroupWithZero.Nat
import Mathlib.Data.List.Nodup
import QueryGate.Eval.Report

/-!
# Reports add up

The categories of a report are those of its results, each once and in their fixed order, and what it
counts in them is what it counts in all (`Report.AddsUp`).
-/

namespace QueryGate.Eval

theorem Category.nodup_all : Category.all.Nodup := by decide

theorem Category.mem_all (k : Category) : k ∈ Category.all := by
  cases k <;> decide

/-- What a report counts. -/
structure Report.AddsUp (report : Report) : Prop where
  total_eq : report.total = report.cases.length
  passed_eq : report.passed = report.cases.countP (·.passed)
  /-- The categories with a result, in the order of all categories. -/
  categories_eq : report.categories.map (·.category) =
    Category.all.filter fun k => report.cases.any fun r => r.category == k
  nodup : (report.categories.map (·.category)).Nodup
  /-- The counts of a category are those of its results. -/
  counts : ∀ s ∈ report.categories,
    s.total = (report.cases.filter fun r => r.category == s.category).length ∧
      s.passed = (report.cases.filter fun r => r.category == s.category).countP (·.passed)
  sum_total : (report.categories.map (·.total)).sum = report.total
  sum_passed : (report.categories.map (·.passed)).sum = report.passed
  allPassed_iff : report.allPassed = true ↔ ∀ r ∈ report.cases, r.passed = true

variable {rs : List CaseResult} {s : Summary} {k : Category}

namespace Summary

theorem ofCases?_eq_some_iff : ofCases? rs k = some s ↔
    (rs.any fun r => r.category == k) = true ∧ s.category = k ∧
      s.passed = (rs.filter fun r => r.category == k).countP (·.passed) ∧
      s.total = (rs.filter fun r => r.category == k).length := by
  have hempty : (rs.filter fun r => r.category == k).isEmpty = true ↔
      ¬ (rs.any fun r => r.category == k) = true := by
    simp
  unfold ofCases?
  dsimp only
  split_ifs with h
  · simp [hempty.mp h]
  · obtain ⟨category, passed, total⟩ := s
    simp [not_not.mp (mt hempty.mpr h), eq_comm (a := category), eq_comm (a := passed),
      eq_comm (a := total)]

theorem filter_eq_nil_of_ofCases?_eq_none (h : ofCases? rs k = none) :
    (rs.filter fun r => r.category == k) = [] := by
  unfold ofCases? at h
  dsimp only at h
  split_ifs at h with hempty
  exact List.isEmpty_iff.mp hempty

/-- A category without results counts for nothing. -/
theorem sum_filterMap_ofCases? (f : Summary → Nat) (count : List CaseResult → Nat)
    (hnil : count [] = 0)
    (hf : ∀ k s, ofCases? rs k = some s → f s = count (rs.filter fun r => r.category == k))
    (ks : List Category) : ((ks.filterMap (ofCases? rs)).map f).sum =
      (ks.map fun k => count (rs.filter fun r => r.category == k)).sum := by
  induction ks with
  | nil => rfl
  | cons k ks ih =>
    rw [List.map_cons, List.sum_cons, ← ih]
    cases hk : ofCases? rs k with
    | none =>
      rw [List.filterMap_cons_none hk, filter_eq_nil_of_ofCases?_eq_none hk, hnil, Nat.zero_add]
    | some s => rw [List.filterMap_cons_some hk, List.map_cons, List.sum_cons, hf k s hk]

theorem map_category_filterMap_ofCases? (ks : List Category) :
    (ks.filterMap (ofCases? rs)).map (·.category) =
      ks.filter fun k => rs.any fun r => r.category == k := by
  induction ks with
  | nil => rfl
  | cons k ks ih =>
    cases hk : ofCases? rs k with
    | none =>
      have hnone : (rs.any fun r => r.category == k) = false := by
        simpa using filter_eq_nil_of_ofCases?_eq_none hk
      rw [List.filterMap_cons_none hk, ih, List.filter_cons_of_neg (by simp [hnone])]
    | some s =>
      obtain ⟨hany, hcategory, -⟩ := ofCases?_eq_some_iff.mp hk
      rw [List.filterMap_cons_some hk, List.map_cons, ih, hcategory,
        List.filter_cons_of_pos (p := fun k => rs.any fun r => r.category == k) hany]

end Summary

/-- Every result is counted in one category. -/
theorem sum_countP_filter_category {ks : List Category} (hks : ks.Nodup)
    (hall : ∀ k, k ∈ ks) (p : CaseResult → Bool) (rs : List CaseResult) :
    (ks.map fun k => (rs.filter fun r => r.category == k).countP p).sum = rs.countP p := by
  induction rs with
  | nil => simp
  | cons r rs ih =>
    have hone : ∀ k, ((r :: rs).filter fun r => r.category == k).countP p =
        (rs.filter fun r => r.category == k).countP p +
          if k = r.category then (if p r then 1 else 0) else 0 := by
      intro k
      by_cases hk : k = r.category
      · simp [hk, List.countP_cons]
      · simp [hk, Ne.symm hk]
    have hsingle : (ks.map fun k =>
        if k = r.category then (if p r then 1 else 0) else 0).sum = if p r then 1 else 0 := by
      rw [List.sum_map_eq_nsmul_single r.category _ fun k hk _ => if_neg hk,
        List.count_eq_one_of_mem hks (hall r.category), one_nsmul, if_pos rfl]
    simp only [hone]
    rw [List.sum_map_add, ih, hsingle, List.countP_cons]

/-- The report on any results adds up. -/
theorem Report.addsUp_ofCases (rs : List CaseResult) : (ofCases rs).AddsUp where
  total_eq := rfl
  passed_eq := rfl
  categories_eq := Summary.map_category_filterMap_ofCases? Category.all
  nodup := by
    rw [ofCases, Summary.map_category_filterMap_ofCases?]
    exact Category.nodup_all.filter _
  counts s hs := by
    obtain ⟨k, -, hk⟩ := List.mem_filterMap.mp hs
    obtain ⟨-, rfl, hpassed, htotal⟩ := Summary.ofCases?_eq_some_iff.mp hk
    exact ⟨htotal, hpassed⟩
  sum_total :=
    calc ((Category.all.filterMap (Summary.ofCases? rs)).map (·.total)).sum
      _ = (Category.all.map fun k =>
            (rs.filter fun r => r.category == k).countP fun _ => true).sum :=
        Summary.sum_filterMap_ofCases? _ _ rfl
          (fun k s hk => by rw [(Summary.ofCases?_eq_some_iff.mp hk).2.2.2, List.countP_true]) _
      _ = rs.countP fun _ => true :=
        sum_countP_filter_category Category.nodup_all Category.mem_all _ rs
      _ = rs.length := congrFun List.countP_true rs
  sum_passed :=
    calc ((Category.all.filterMap (Summary.ofCases? rs)).map (·.passed)).sum
      _ = (Category.all.map fun k =>
            (rs.filter fun r => r.category == k).countP (·.passed)).sum :=
        Summary.sum_filterMap_ofCases? _ _ rfl
          (fun k s hk => (Summary.ofCases?_eq_some_iff.mp hk).2.2.1) _
      _ = rs.countP (·.passed) :=
        sum_countP_filter_category Category.nodup_all Category.mem_all _ rs
  allPassed_iff := by
    rw [allPassed, beq_iff_eq]
    exact List.countP_eq_length

end QueryGate.Eval
