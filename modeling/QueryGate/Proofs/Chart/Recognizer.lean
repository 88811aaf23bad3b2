import QueryGate.Proofs.Chart.Columns

/-!
# The recognizer is sound and complete

`recognize_accepted_iff` : a text is accepted exactly if the root derives it up to where only
ignored text follows.
-/

namespace QueryGate

open Chart Text

variable {ρ : Type} [Scanner ρ] {g : Grammar ρ} {text : List Char}

theorem isFinal_iff {c : Column} : isFinal g c = true ↔ skipIgnored g.ignored c.rest = [] ∧
    ∃ item ∈ c.items, item.origin = 0 ∧ ruleOf g item = some g.root ∧
      nextSymbol g item = none := by
  unfold isFinal rootFinished
  rw [Bool.and_eq_true, Bool.and_eq_true, List.isEmpty_iff, List.any_eq_true]
  simp only [Bool.and_eq_true, beq_iff_eq, Option.isNone_iff_eq_none, and_assoc]
  refine ⟨And.right, fun h => ⟨?_, h⟩⟩
  obtain ⟨-, item, hitem, -⟩ := h
  simpa using List.ne_nil_of_mem hitem

theorem accepted_recognize : (recognize g text).accepted = (columns g text).any (isFinal g) := by
  unfold recognize
  dsimp only
  split_ifs with hfinal
  · exact hfinal.symm
  · rw [Bool.not_eq_true] at hfinal
    rw [hfinal]
    split <;> rfl

/-- There is a diagnostic exactly where the text is rejected. -/
theorem diagnostic_eq_none_iff :
    (recognize g text).diagnostic = none ↔ (recognize g text).accepted = true := by
  unfold recognize
  dsimp only
  split_ifs
  · simp [Verdict.accept]
  · split <;> simp [Verdict.reject]

theorem recognize_accepted_iff_of_wellFormed (hg : g.WellFormed) :
    (recognize g text).accepted = true ↔
      ∃ p, g.Derives text g.root 0 p ∧ g.skipOffset text p = byteLength text := by
  obtain ⟨hpositions, hexact⟩ := columns_exact hg text
  rw [Grammar.exists_derives_iff, accepted_recognize, List.any_eq_true]
  constructor
  · rintro ⟨c, hc, hfinal⟩
    obtain ⟨hposition, hrest, hitems⟩ := hexact c hc
    obtain ⟨hskip, item, hitem, hroot⟩ := isFinal_iff.mp hfinal
    exact ⟨c.position, hposition, hrest ▸ hskip,
      (exists_charted_iff hg).mp ⟨item, (hitems item).mp hitem, hroot⟩⟩
  · rintro ⟨k, hk, hskip, hderives⟩
    have hmem : k ∈ (columns g text).map (·.position) := by
      rw [hpositions]
      exact List.mem_range.mpr (Nat.lt_succ_of_le hk)
    obtain ⟨c, hc, rfl⟩ := List.mem_map.mp hmem
    obtain ⟨-, hrest, hitems⟩ := hexact c hc
    obtain ⟨item, hitem, hroot⟩ := (exists_charted_iff hg).mpr hderives
    exact ⟨c, hc, isFinal_iff.mpr ⟨hrest ▸ hskip, item, (hitems item).mpr hitem, hroot⟩⟩

/-- A compiled grammar accepts a text exactly if its root derives the text up to an offset behind
which only ignored text follows, whatever recursion or empty rules it has. -/
theorem recognize_accepted_iff {source root : String} (h : Grammar.compile source root = .ok g)
    (text : List Char) : (recognize g text).accepted = true ↔
      ∃ p, g.Derives text g.root 0 p ∧ g.skipOffset text p = byteLength text :=
  recognize_accepted_iff_of_wellFormed (Grammar.wellFormed_of_compile h)

/-- A grammar with hidden left recursion, a cycle through a rule that vanishes, and ambiguity. -/
def cyclicSource : String :=
  "s: e s | s s \"a\" | \"→\"\ne: | s\n%ignore / +/\n"

theorem recognize_accepted_iff_cyclic : ∃ g : Grammar,
    Grammar.compile cyclicSource "s" = .ok g ∧ (recognize g " → ".toList).accepted = true := by
  have hparts : (Grammar.compile cyclicSource "s").toOption.any (fun g : Grammar =>
      g.matchTerminal? 1 " → ".toList (g.skipOffset " → ".toList 0) = some 4 ∧
        g.skipOffset " → ".toList 4 = byteLength " → ".toList ∧
        (⟨g.root, [.terminal 1]⟩ : Production) ∈ g.productions) = true := by decide +kernel
  obtain ⟨g, h, htakes, hskip, hp⟩ := exists_ok_of_any hparts
  refine ⟨g, h, (recognize_accepted_iff h _).mpr ⟨4, ⟨_, hp, rfl, ?_⟩, hskip⟩⟩
  exact spans_terminal_iff.mpr htakes

end QueryGate
