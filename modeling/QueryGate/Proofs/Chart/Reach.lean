import Mathlib.Data.List.Perm.Subperm
import QueryGate.Chart.Reach

/-!
# Reachability is exact

`mem_reach_iff` : where no more than `bound` nodes can be reached, `reach` finds each node that can
be reached and no other, whatever cycles the graph has. The invariant of the search is
`Frontier.Explores`.
-/

namespace QueryGate

variable {α : Type} {next : α → List α} {start : List α}

/-- A node that successors lead to from a starting node. -/
inductive Reachable (next : α → List α) (start : List α) : α → Prop
  | start {a : α} (h : a ∈ start) : Reachable next start a
  | step {a b : α} (ha : Reachable next start a) (hb : b ∈ next a) : Reachable next start b

theorem not_reachable_nil (a : α) : ¬Reachable next [] a := by
  intro h
  induction h with
  | start h => exact List.not_mem_nil h
  | step _ _ ih => exact ih

variable [BEq α] [Hashable α] [LawfulBEq α]

namespace Frontier

variable {f : Frontier α} {found : List α}

/-- The nodes met so far are those in the two lists, each once. -/
structure Lists (f : Frontier α) (found : List α) : Prop where
  contains_iff : ∀ a, f.seen.contains a = true ↔ a ∈ f.todo ++ found
  nodup : (f.todo ++ found).Nodup

omit [LawfulBEq α] in
theorem Lists.nodup_found (h : f.Lists found) : found.Nodup :=
  (List.nodup_append.mp h.nodup).2.1

theorem Lists.add (h : f.Lists found) (a : α) : (f.add a).Lists found := by
  unfold Frontier.add
  split_ifs with ha
  · exact h
  · refine ⟨fun b => ?_, List.nodup_cons.mpr ⟨?_, h.nodup⟩⟩
    · rw [Std.HashSet.contains_insert, Bool.or_eq_true, h.contains_iff, beq_iff_eq,
        List.cons_append, List.mem_cons, eq_comm]
    · rwa [List.append_eq, ← h.contains_iff]

omit [LawfulBEq α] in
theorem mem_todo_add (h : f.Lists found) (a b : α) :
    b ∈ (f.add a).todo ++ found ↔ b = a ∨ b ∈ f.todo ++ found := by
  unfold Frontier.add
  split_ifs with ha
  · rw [h.contains_iff] at ha
    exact ⟨Or.inr, fun hb => hb.elim (fun hb => hb ▸ ha) id⟩
  · rw [List.cons_append, List.mem_cons]

theorem Lists.addAll (h : f.Lists found) (as : List α) : (f.addAll as).Lists found ∧
    ∀ b, b ∈ (f.addAll as).todo ++ found ↔ b ∈ as ∨ b ∈ f.todo ++ found := by
  induction as generalizing f with
  | nil => exact ⟨h, fun b => by simp [Frontier.addAll]⟩
  | cons a as ih =>
    obtain ⟨hlists, hmem⟩ := ih (h.add a)
    refine ⟨hlists, fun b => (hmem b).trans ?_⟩
    rw [mem_todo_add h, List.mem_cons]
    tauto

/-- The search so far : it has met the starting nodes and only nodes that can be reached, and the
successors of the nodes it has looked at. -/
structure Explores (next : α → List α) (start : List α) (f : Frontier α) (found : List α) :
    Prop extends f.Lists found where
  sound : ∀ a ∈ f.todo ++ found, Reachable next start a
  start_mem : ∀ a ∈ start, a ∈ f.todo ++ found
  next_mem : ∀ a ∈ found, ∀ b ∈ next a, b ∈ f.todo ++ found

theorem Explores.step {a : α} {rest : List α} (h : f.Explores next start found)
    (htodo : f.todo = a :: rest) :
    ((Frontier.mk f.seen rest).addAll (next a)).Explores next start (a :: found) := by
  have hperm : (rest ++ a :: found).Perm (f.todo ++ found) := by
    rw [htodo]
    exact List.perm_middle
  have hlists : (Frontier.mk f.seen rest).Lists (a :: found) :=
    ⟨fun b => (h.contains_iff b).trans hperm.mem_iff.symm, hperm.nodup_iff.mpr h.nodup⟩
  obtain ⟨hlists', hmem⟩ := hlists.addAll (next a)
  have hold : ∀ b ∈ f.todo ++ found, b ∈ _ := fun b hb =>
    (hmem b).mpr (Or.inr (hperm.mem_iff.mpr hb))
  refine ⟨hlists', fun b hb => ?_, fun b hb => hold b (h.start_mem b hb), fun b hb c hc => ?_⟩
  · rcases (hmem b).mp hb with hb | hb
    · exact .step (h.sound a (by simp [htodo])) hb
    · exact h.sound b (hperm.mem_iff.mp hb)
  · rcases List.mem_cons.mp hb with rfl | hb
    · exact (hmem c).mpr (Or.inl hc)
    · exact hold c (h.next_mem b hb c hc)

omit [LawfulBEq α] in
/-- Nothing is left to look at, so all nodes that can be reached have been found. -/
theorem Explores.mem_iff_of_todo_eq_nil (h : f.Explores next start found) (htodo : f.todo = [])
    (a : α) : a ∈ found ↔ Reachable next start a := by
  have hfound : f.todo ++ found = found := by rw [htodo, List.nil_append]
  refine ⟨fun ha => h.sound a (List.mem_append_right _ ha), fun ha => ?_⟩
  rw [← hfound]
  induction ha with
  | start ha => exact h.start_mem _ ha
  | step _ hb ih => exact h.next_mem _ (by rwa [hfound] at ih) _ hb

theorem explores_start (next : α → List α) (start : List α) :
    ((Frontier.mk ∅ []).addAll start).Explores next start [] := by
  have hempty : (Frontier.mk ∅ [] : Frontier α).Lists [] := ⟨by simp, by simp⟩
  obtain ⟨hlists, hmem⟩ := hempty.addAll start
  refine ⟨hlists, fun b hb => ?_, fun b hb => ?_, by simp⟩
  · exact .start (by simpa using (hmem b).mp hb)
  · exact (hmem b).mpr (Or.inl hb)

omit [LawfulBEq α] in
/-- Where as many nodes have been found as there are, nothing is left to look at. -/
theorem Explores.todo_eq_nil {U : List α} (h : f.Explores next start found)
    (hU : ∀ a, Reachable next start a → a ∈ U) (hle : U.length ≤ found.length) : f.todo = [] := by
  have hall : (f.todo ++ found).length ≤ U.length :=
    (h.nodup.subperm fun b hb => hU b (h.sound b hb)).length_le
  rw [List.length_append] at hall
  exact List.eq_nil_of_length_eq_zero (by omega)

end Frontier

/-- With fuel for all nodes that are left, the search ends with every node looked at. -/
theorem mem_reachFrom_iff {U : List α} (hU : ∀ a, Reachable next start a → a ∈ U) (fuel : Nat)
    (f : Frontier α) (found : List α) (h : f.Explores next start found)
    (hfuel : U.length ≤ fuel + found.length) (a : α) :
    a ∈ reachFrom next fuel f found ↔ Reachable next start a := by
  induction fuel generalizing f found with
  | zero => exact h.mem_iff_of_todo_eq_nil (h.todo_eq_nil hU (by omega)) a
  | succ fuel ih =>
    rw [reachFrom]
    split
    next htodo => exact h.mem_iff_of_todo_eq_nil htodo a
    next b rest htodo => exact ih _ _ (h.step htodo) (by simp only [List.length_cons]; omega)

/-- The nodes found are exactly those that can be reached. -/
theorem mem_reach_iff {U : List α} {bound : Nat} (hU : ∀ a, Reachable next start a → a ∈ U)
    (hbound : U.length ≤ bound) (a : α) :
    a ∈ reach next bound start ↔ Reachable next start a :=
  mem_reachFrom_iff hU bound _ [] (Frontier.explores_start next start) hbound a

omit [LawfulBEq α] in
theorem reach_nil (next : α → List α) (bound : Nat) : reach next bound [] = [] := by
  cases bound with
  | zero => rfl
  | succ bound => rfl

/-- No node is found twice. -/
theorem nodup_reachFrom (fuel : Nat) {f : Frontier α} {found : List α}
    (h : f.Explores next start found) : (reachFrom next fuel f found).Nodup := by
  induction fuel generalizing f found with
  | zero => exact h.nodup_found
  | succ fuel ih =>
    rw [reachFrom]
    split
    next => exact h.nodup_found
    next a rest htodo => exact ih (h.step htodo)

/-- With more fuel than for all nodes that are left, the search does the same. -/
theorem reachFrom_eq_reachFrom {U : List α} (hU : ∀ a, Reachable next start a → a ∈ U)
    {fuel fuel' : Nat} {f : Frontier α} {found : List α} (h : f.Explores next start found)
    (hfuel : U.length ≤ fuel + found.length) (hle : fuel ≤ fuel') :
    reachFrom next fuel' f found = reachFrom next fuel f found := by
  induction fuel generalizing fuel' f found with
  | zero =>
    have htodo : f.todo = [] := h.todo_eq_nil hU (by omega)
    cases fuel' with
    | zero => rfl
    | succ fuel' => rw [reachFrom, reachFrom, htodo]
  | succ fuel ih =>
    obtain ⟨fuel', rfl⟩ : ∃ n, fuel' = n + 1 := ⟨fuel' - 1, by omega⟩
    rw [reachFrom, reachFrom]
    split
    next => rfl
    next a rest htodo =>
      exact ih (h.step htodo) (by simp only [List.length_cons]; omega) (by omega)

end QueryGate
