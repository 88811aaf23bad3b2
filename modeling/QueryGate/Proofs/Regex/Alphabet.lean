import QueryGate.Proofs.Regex.Language

/-!
# Alphabets

The sets of characters that occur in an expression bound what its texts are made of :

* `Lang.exists_mem_alphabet` : every character is from one of the sets;
* `Lang.exists_mem_endings` : the last character is from one of the sets that can stand last.
-/

namespace QueryGate.Regex

/-- The sets of characters in an expression. -/
def alphabet : Regex → List CharClass
  | chars cls => [cls]
  | seq a b => a.alphabet ++ b.alphabet
  | alt a b => a.alphabet ++ b.alphabet
  | more _ a => a.alphabet
  | plus _ a => a.alphabet
  | _ => []

/-- The sets of characters that can stand last in an expression. -/
def endings : Regex → List CharClass
  | chars cls => [cls]
  | seq a b => b.endings ++ if b.isNullable then a.endings else []
  | alt a b => a.endings ++ b.endings
  | more _ a => a.endings
  | plus _ a => a.endings
  | _ => []

variable {r a b : Regex} {s t : List Char} {c : Char}

theorem Lang.exists_mem_alphabet (h : Lang r s) :
    ∀ c ∈ s, ∃ cls ∈ r.alphabet, cls.mem c = true := by
  induction h with
  | empty => simp
  | chars hc => simpa [alphabet] using hc
  | look => simp
  | seq _ _ iha ihb =>
    intro c hc
    rcases List.mem_append.mp hc with hc | hc
    · obtain ⟨cls, hcls, hmem⟩ := iha c hc
      exact ⟨cls, List.mem_append_left _ hcls, hmem⟩
    · obtain ⟨cls, hcls, hmem⟩ := ihb c hc
      exact ⟨cls, List.mem_append_right _ hcls, hmem⟩
  | altLeft _ ih =>
    intro c hc
    obtain ⟨cls, hcls, hmem⟩ := ih c hc
    exact ⟨cls, List.mem_append_left _ hcls, hmem⟩
  | altRight _ ih =>
    intro c hc
    obtain ⟨cls, hcls, hmem⟩ := ih c hc
    exact ⟨cls, List.mem_append_right _ hcls, hmem⟩
  | done => simp
  | again _ _ iha ih => exact fun c hc => (List.mem_append.mp hc).elim (iha c) (ih c)
  | plus _ _ iha ih => exact fun c hc => (List.mem_append.mp hc).elim (iha c) (ih c)

theorem Lang.isNullable_of_nil (h : Lang r []) : r.isNullable = true := by
  generalize hs : ([] : List Char) = s at h
  induction h with
  | empty => rfl
  | chars => cases hs
  | look => rfl
  | seq _ _ iha ihb =>
    obtain ⟨rfl, rfl⟩ := List.append_eq_nil_iff.mp hs.symm
    rw [isNullable, iha rfl, ihb rfl]
    rfl
  | altLeft _ ih => rw [isNullable, ih hs, Bool.true_or]
  | altRight _ ih => rw [isNullable, ih hs, Bool.or_true]
  | done => rfl
  | again => rfl
  | plus _ _ iha _ =>
    obtain ⟨rfl, -⟩ := List.append_eq_nil_iff.mp hs.symm
    exact iha rfl

theorem alphabet_sequence_chars (clss : List CharClass) :
    (sequence (clss.map .chars)).alphabet = clss := by
  induction clss with
  | nil => rfl
  | cons cls clss ih =>
    cases clss with
    | nil => rfl
    | cons cls' clss => exact congrArg (cls :: ·) ih

/-- A text that begins with a character of a set. -/
theorem Lang.exists_cons {cls : CharClass} (h : Lang (.seq (.chars cls) b) s) :
    ∃ c t, s = c :: t ∧ cls.mem c = true ∧ Lang b t := by
  cases h with
  | seq ha hb =>
    cases ha with
    | chars hc => exact ⟨_, _, rfl, hc, hb⟩

/-- The last character of a text is that of its last part that is not empty. -/
theorem mem_getLast?_append (h : c ∈ (s ++ t).getLast?) :
    c ∈ t.getLast? ∨ t = [] ∧ c ∈ s.getLast? := by
  by_cases ht : t = []
  · rw [ht, List.append_nil] at h
    exact Or.inr ⟨ht, h⟩
  · rw [List.getLast?_append_of_ne_nil _ ht] at h
    exact Or.inl h

theorem Lang.exists_mem_endings (h : Lang r s) :
    ∀ c ∈ s.getLast?, ∃ cls ∈ r.endings, cls.mem c = true := by
  induction h with
  | empty => simp
  | chars hc => simpa [endings] using hc
  | look => simp
  | seq _ hb iha ihb =>
    intro c hc
    rcases mem_getLast?_append hc with hlast | ⟨rfl, hlast⟩
    · obtain ⟨cls, hcls, hmem⟩ := ihb c hlast
      exact ⟨cls, List.mem_append_left _ hcls, hmem⟩
    · obtain ⟨cls, hcls, hmem⟩ := iha c hlast
      refine ⟨cls, List.mem_append_right _ ?_, hmem⟩
      rwa [if_pos hb.isNullable_of_nil]
  | altLeft _ ih =>
    intro c hc
    obtain ⟨cls, hcls, hmem⟩ := ih c hc
    exact ⟨cls, List.mem_append_left _ hcls, hmem⟩
  | altRight _ ih =>
    intro c hc
    obtain ⟨cls, hcls, hmem⟩ := ih c hc
    exact ⟨cls, List.mem_append_right _ hcls, hmem⟩
  | done => simp
  | again _ _ iha ih =>
    exact fun c hc => (mem_getLast?_append hc).elim (ih c) fun h => iha c h.2
  | plus _ _ iha ih =>
    exact fun c hc => (mem_getLast?_append hc).elim (ih c) fun h => iha c h.2

end QueryGate.Regex
