import QueryGate.Proofs.Grammar.Build
import QueryGate.Proofs.Grammar.Nullable

/-!
# Compiled grammars are well formed

`wellFormed_of_compile` : the tables of a grammar that was compiled say about its productions what
they are for. The recognizer relies on nothing else.
-/

namespace QueryGate.Grammar

variable {ρ : Type} {g : Grammar ρ} {source root : String} {r i : Nat}

/-- The productions keep to the rules and terminals of the grammar, and its tables are those of its
productions. -/
structure WellFormed (g : Grammar ρ) : Prop where
  within : ∀ p ∈ g.productions, p.Within g.ruleNames.size g.terminals.size
  byRule_eq : g.byRule = productionsByRule g.ruleNames.size g.productions
  nullable_eq : g.nullable = nullableRules g.ruleNames.size g.productions

theorem mem_productionsByRule_iff {n : Nat} {productions : Array Production} :
    i ∈ (productionsByRule n productions)[r]?.getD [] ↔
      r < n ∧ ∃ p, productions[i]? = some p ∧ p.lhs = r := by
  rw [productionsByRule, Array.getElem?_map]
  by_cases hr : r < n
  · by_cases hi : i < productions.size <;> simp [hr, hi]
  · simp [hr]

theorem size_nullableRules (n : Nat) (productions : Array Production) :
    (nullableRules n productions).size = n :=
  keepsMarks_nullableClosure.size_eq.trans Array.size_replicate

theorem WellFormed.size_byRule (hg : g.WellFormed) : g.byRule.size = g.ruleNames.size := by
  rw [hg.byRule_eq, productionsByRule, Array.size_map, Array.size_range]

theorem WellFormed.size_nullable (hg : g.WellFormed) : g.nullable.size = g.ruleNames.size := by
  rw [hg.nullable_eq, size_nullableRules]

/-- A rule has its productions and no others. -/
theorem WellFormed.mem_productionsOf_iff (hg : g.WellFormed) :
    i ∈ g.productionsOf r ↔ ∃ p, g.productions[i]? = some p ∧ p.lhs = r := by
  rw [productionsOf, hg.byRule_eq, mem_productionsByRule_iff, and_iff_right_iff_imp]
  rintro ⟨p, hp, rfl⟩
  exact (hg.within p (Array.mem_of_getElem? hp)).lhs_lt

theorem WellFormed.isNullable_iff (hg : g.WellFormed) :
    g.isNullable r = true ↔ Vanishes g.productions [.rule r] := by
  rw [isNullable, hg.nullable_eq]
  exact marked_nullableRules_iff fun p hp => (hg.within p hp).lhs_lt

/-- The grammar of a finished draft. -/
def ofDraft (source : String) (root : Nat) (d : Draft ρ) (ignored : List ρ) : Grammar ρ where
  source := source
  root := root
  ruleNames := d.ruleNames
  productions := d.productions
  byRule := productionsByRule d.ruleNames.size d.productions
  nullable := nullableRules d.ruleNames.size d.productions
  terminals := d.terminals
  ignored := ignored
  reserved := d.terminals.toList.filterMap fun t => t.lexeme.keyword?

variable [Scanner ρ]

/-- What compiling does when it succeeds. -/
theorem exists_of_compile (h : compile source root = .ok g) :
    ∃ ds c, ∃ d : Draft ρ, ∃ rootRule ignored resolver, Ebnf.definitions source = .ok ds ∧
      collect ds = .ok c ∧ Build.rules c {} = .ok ((), d) ∧ d.undefined? = none ∧
      d.ruleNames.idxOf? root = some rootRule ∧
      ignoredRegexes c d.resolver = .ok (ignored, resolver) ∧
      g = ofDraft source rootRule d ignored := by
  unfold compile at h
  obtain ⟨ds, hds, h⟩ := except_bind_eq_ok.mp h
  obtain ⟨c, hc, h⟩ := except_bind_eq_ok.mp h
  obtain ⟨⟨u, d⟩, hd, h⟩ := except_bind_eq_ok.mp h
  cases hundefined : d.undefined? with
  | some e => simp [hundefined] at h
  | none =>
    cases hroot : d.ruleNames.idxOf? root with
    | none => simp [hundefined, hroot] at h
    | some rootRule =>
      simp only [hundefined, hroot] at h
      obtain ⟨⟨ignored, resolver⟩, hignored, h⟩ := except_bind_eq_ok.mp h
      exact ⟨ds, c, d, rootRule, ignored, resolver, hds, hc, hd, hundefined, hroot, hignored,
        (Except.ok.inj h).symm⟩

theorem root_lt_of_compile (h : compile source root = .ok g) : g.root < g.ruleNames.size := by
  obtain ⟨ds, c, d, rootRule, ignored, resolver, -, -, -, -, hroot, -, rfl⟩ := exists_of_compile h
  exact (Array.getElem?_eq_some_iff.mp (Build.getElem?_of_idxOf? hroot)).1

theorem wellFormed_of_compile (h : compile source root = .ok g) : g.WellFormed := by
  obtain ⟨ds, c, d, rootRule, ignored, resolver, -, -, hd, -, -, -, rfl⟩ := exists_of_compile h
  exact ⟨Build.within_of_rules hd, rfl, rfl⟩

end QueryGate.Grammar
