import Mathlib.Data.List.Nodup
import QueryGate.Proofs.Grammar.Stands

/-!
# The rules of a source

`Draft.HasRule d b name body` : in the draft `d` the productions of the rule `name` are the
alternatives of `body`. `Draft.Owns` names the rules made for the groups and repetitions in it as
well. Building goes through the rules of the source twice : first they are given their indices
(`Build.Indexed`), then their productions, which are left alone afterwards together with the rules
made for them (`Build.Owned`, `Build.owns_of_rules`).
-/

namespace QueryGate

open Ebnf

variable {ρ : Type}

/-! ## Collecting -/

theorem rules_addImports {c c' : Collected} {names : List (String × String)}
    (h : c.addImports names = .ok c') : c'.rules = c.rules := by
  induction names generalizing c with
  | nil =>
    obtain rfl := Except.ok.inj h
    rfl
  | cons name names ih =>
    obtain ⟨localName, imported⟩ := name
    rw [Collected.addImports] at h
    split at h
    · cases h
    · exact (ih h).trans rfl

theorem nodup_add {c c' : Collected} {d : Located} (hc : (c.rules.map (·.1)).Nodup)
    (h : c.add d = .ok c') : (c'.rules.map (·.1)).Nodup := by
  unfold Collected.add at h
  split at h
  · split at h
    · cases h
    · obtain rfl := Except.ok.inj h
      exact hc
  · split at h
    · cases h
    · next name e _ hnew =>
      obtain rfl := Except.ok.inj h
      refine List.nodup_cons.mpr ⟨fun hmem => ?_, hc⟩
      obtain ⟨e', he', heq⟩ := List.mem_map.mp hmem
      rw [Option.not_isSome_iff_eq_none, List.lookup_eq_none_iff] at hnew
      simpa [heq] using hnew e' he'
  · split at h
    · cases h
    · rw [rules_addImports h]
      exact hc
  · obtain rfl := Except.ok.inj h
    exact hc

/-- No two rules of a source have one name. -/
theorem nodup_of_collect {ds : List Located} {c : Collected} (h : collect ds = .ok c) :
    (c.rules.map (·.1)).Nodup := by
  have hall : ∀ (ds : List Located) (c c' : Collected), (c.rules.map (·.1)).Nodup →
      ds.foldlM Collected.add c = .ok c' → (c'.rules.map (·.1)).Nodup := by
    intro ds
    induction ds with
    | nil =>
      intro c c' hc h
      obtain rfl := Except.ok.inj h
      exact hc
    | cons d ds ih =>
      intro c c' hc h
      obtain ⟨c₁, hadd, h⟩ := except_bind_eq_ok.mp (List.foldlM_cons.symm.trans h)
      exact ih c₁ c' (nodup_add hc hadd) h
  exact hall ds {} c List.nodup_nil h

/-- The rule that a definition defines, with its right-hand side. -/
def Ebnf.Located.rule? (d : Located) : Option (String × Expr) :=
  match d.definition with
  | .rule name body => some (name, body)
  | _ => none

/-- The rules of a source with their right-hand sides. -/
def ruleBodies (ds : List Located) : List (String × Expr) :=
  ds.filterMap Located.rule?

theorem rules_add {c c' : Collected} {d : Located} (h : c.add d = .ok c') :
    c'.rules = d.rule?.toList ++ c.rules := by
  unfold Collected.add at h
  unfold Located.rule?
  split at h
  · split at h
    · cases h
    · next hdef _ =>
      obtain rfl := Except.ok.inj h
      simp [hdef]
  · split at h
    · cases h
    · next hdef _ =>
      obtain rfl := Except.ok.inj h
      simp [hdef]
  · split at h
    · cases h
    · next hdef _ => simp [hdef, rules_addImports h]
  · next hdef =>
    obtain rfl := Except.ok.inj h
    simp [hdef]

/-- Collecting keeps all rules, the last one first. -/
theorem rules_of_collect {ds : List Located} {c : Collected} (h : collect ds = .ok c) :
    c.rules = (ruleBodies ds).reverse := by
  have hall : ∀ (ds : List Located) (c c' : Collected), ds.foldlM Collected.add c = .ok c' →
      c'.rules = (ruleBodies ds).reverse ++ c.rules := by
    intro ds
    induction ds with
    | nil =>
      intro c c' h
      obtain rfl := Except.ok.inj h
      rfl
    | cons d ds ih =>
      intro c c' h
      obtain ⟨c₁, hadd, h⟩ := except_bind_eq_ok.mp (List.foldlM_cons.symm.trans h)
      rw [ih c₁ c' h, rules_add hadd, ruleBodies, ruleBodies, List.filterMap_cons]
      cases d.rule? <;> simp
  simpa using hall ds {} c h

/-- A rule of a source, and the rules made for the groups and repetitions in it. -/
structure Owner where
  name : String
  body : Expr
  made : List Nat

/-- The rule with its right-hand side. -/
def Owner.rule (o : Owner) : String × Expr :=
  (o.name, o.body)

namespace Draft

variable {d d' : Draft ρ} {b : Nat} {o : Owner} {touched : Nat → Prop}

/-- One of the first `b` rules has the alternatives of its right-hand side for productions. -/
def HasRule (d : Draft ρ) (b : Nat) (name : String) (body : Expr) : Prop :=
  ∃ r < b, d.ruleNames[r]? = some name ∧ d.defined[r]? = some true ∧
    ∃ choices : List Choice, Build.optionsOf body = choices.map (·.expr) ∧
      d.alternativesOf r = choices.map (·.rhs) ∧
      ∀ choice ∈ choices, Stands d [choice.expr] choice.rhs choice.made

/-- One of the first `b` rules has the alternatives of its right-hand side for productions, and
these rules have been made for them. -/
def Owns (d : Draft ρ) (b : Nat) (o : Owner) : Prop :=
  ∃ r < b, d.ruleNames[r]? = some o.name ∧ d.defined[r]? = some true ∧
    ∃ choices : List Choice, Build.optionsOf o.body = choices.map (·.expr) ∧
      d.alternativesOf r = choices.map (·.rhs) ∧ o.made = choices.flatMap (·.made) ∧
      ∀ choice ∈ choices, Stands d [choice.expr] choice.rhs choice.made

theorem Owns.hasRule (h : d.Owns b o) : d.HasRule b o.name o.body := by
  obtain ⟨r, hr, hname, hdefined, choices, hbody, halternatives, -, hstands⟩ := h
  exact ⟨r, hr, hname, hdefined, choices, hbody, halternatives, hstands⟩

/-- Productions of other rules of the source leave a rule and those made for it alone. -/
theorem Owns.keeps (h : d.Owns b o) (hmade : ∀ r ∈ o.made, d.Made b r)
    (hkeeps : d.Keeps touched d') (hb : b ≤ d.ruleNames.size)
    (htouched : ∀ r, touched r → r < b ∧ d.ruleNames[r]? ≠ some o.name) : d'.Owns b o := by
  obtain ⟨r, hr, hname, hdefined, choices, hbody, halternatives, heq, hstands⟩ := h
  refine ⟨r, hr, hkeeps.ruleNames hname, hkeeps.defined r hdefined, choices, hbody, ?_, heq,
    fun choice hchoice => ?_⟩
  · rw [← halternatives]
    exact hkeeps.alternatives r (Nat.lt_of_lt_of_le hr hb) fun ht => (htouched r ht).2 hname
  · exact (hstands choice hchoice).keeps
      (fun r hr => hmade r (heq ▸ List.mem_flatMap.mpr ⟨choice, hchoice, hr⟩)) hkeeps
      fun r ht => (htouched r ht).1

end Draft

namespace Build

variable {d d' : Draft ρ} {b : Nat} {names : List String} {name : String} {r : Nat} {u : Unit}
  {terminals : List (String × Expr)} {body : Expr}

/-- What a step gives that builds a rule without productions. -/
theorem owns_of_rule [Scanner ρ] (hfresh : ∀ number, helperName name number ∉ names)
    (ht : d.Tidy names) (hrb : r < b) (hr : d.ruleNames[r]? = some name)
    (hnil : d.alternativesOf r = []) (href : body.references ⊆ names)
    (h : rule terminals name body d = .ok (u, d')) :
    d'.Tidy names ∧ d.Keeps (· = r) d' ∧
      ∃ made, d'.Owns b ⟨name, body, made⟩ ∧ d.Adds names d' made := by
  unfold rule at h
  obtain ⟨r', d₁, hid, h⟩ := bind_eq_ok.mp h
  obtain ⟨_, d₂, hdefine, h⟩ := bind_eq_ok.mp h
  have hlt : r < d.ruleNames.size := (Array.getElem?_eq_some_iff.mp hr).1
  rcases cases_of_ruleId hid with ⟨hr', rfl⟩ | ⟨hnew, -, -⟩
  · obtain rfl := ht.index_unique hr hr'
    obtain ⟨ht₂, hkeeps₂⟩ := tidy_define ht hdefine (· = r)
    obtain rfl := modify_eq_ok.mp hdefine
    have hoptions : Expr.referencesOf (optionsOf body) ⊆ names := by
      cases body with
      | alt options => exact href
      | _ => simpa [optionsOf, Expr.referencesOf] using href
    have hgives := (gives_symbolOf_alternatives_symbolsOf hfresh).2.1 r _ _ _ _ ht₂ hlt hoptions h
    obtain ⟨choices, hbody, halternatives, hstands, hadds⟩ := hgives.alternatives
    have hdefined : (d₁.defined.setIfInBounds r true)[r]? = some true := by
      have hlt' : r < d₁.defined.size := ht.size_defined.symm ▸ hlt
      exact Array.getElem?_setIfInBounds_self_of_lt hlt'
    have hkeeps := hkeeps₂.trans hgives.keeps
    refine ⟨hgives.tidy, hkeeps, choices.flatMap (·.made), ⟨r, hrb, hkeeps.ruleNames hr,
      hgives.keeps.defined r hdefined, choices, hbody, ?_, rfl, hstands⟩,
      hadds.nodup, hadds.mem_iff⟩
    exact halternatives.trans (congrArg (· ++ choices.map (·.rhs)) hnil)
  · exact absurd (Array.mem_of_getElem? hr) hnew

theorem tidy_empty (names : List String) : Draft.Tidy (ρ := ρ) names {} :=
  ⟨fun p hp => absurd hp (by simp), rfl, List.nodup_nil, fun r name hr => by simp at hr⟩

/-- So far rules of the source have been given indices and no productions, and these are left. -/
structure Indexed (names : List String) (defs left : List (String × Expr)) (d : Draft ρ) :
    Prop where
  tidy : d.Tidy names
  productions : d.productions = #[]
  adds : Draft.Adds names {} d []
  subset : left ⊆ defs
  indexed : ∀ e ∈ defs, e ∈ left ∨ ∃ r : Nat, d.ruleNames[r]? = some e.1

theorem Indexed.ruleId {defs left : List (String × Expr)} {e : String × Expr}
    (hnames : ∀ e ∈ defs, e.1 ∈ names) (h : Indexed names defs (e :: left) d)
    (hid : ruleId e.1 d = .ok (r, d')) : Indexed names defs left d' := by
  obtain ⟨he, hleft⟩ := List.cons_subset.mp h.subset
  obtain ⟨ht, hkeeps, hadds, hr⟩ := tidy_ruleId h.tidy (hnames e he) hid
  refine ⟨ht, ?_, h.adds.append (Nat.zero_le _) hkeeps hadds, hleft, fun e' he' => ?_⟩
  · rcases cases_of_ruleId hid with ⟨-, rfl⟩ | ⟨-, -, rfl⟩ <;> exact h.productions
  · rcases h.indexed e' he' with hmem | ⟨r', hr'⟩
    · rcases List.mem_cons.mp hmem with rfl | hmem
      · exact Or.inr ⟨r, hr⟩
      · exact Or.inl hmem
    · exact Or.inr ⟨r', hkeeps.ruleNames hr'⟩

/-- The first loop gives every rule of the source its index, and no rule a production. -/
theorem indexed_of_forIn {defs : List (String × Expr)} (hnames : ∀ e ∈ defs, e.1 ∈ names)
    {v : PUnit} (h : (forIn defs PUnit.unit fun e _ =>
      ruleId e.1 >>= fun _ => pure (ForInStep.yield PUnit.unit)) {} = .ok (v, d)) :
    Indexed names defs [] d :=
  inv_of_forIn (Indexed names defs) (fun _ _ _ _ _ hd hid => hd.ruleId hnames hid)
    ⟨tidy_empty names, rfl, Draft.adds_of_eq rfl, List.Subset.refl _, fun _ => Or.inl⟩ h

/-- So far, from the draft `d₁` on, rules of the source have been given productions, and these are
left. The rules that are done keep their productions, those that are left have none. -/
structure Owned (names : List String) (defs : List (String × Expr)) (d₁ : Draft ρ)
    (left : List (String × Expr)) (d : Draft ρ) : Prop where
  tidy : d.Tidy names
  keeps : d₁.Keeps (fun _ => True) d
  empty : ∀ e ∈ left, ∀ r : Nat, d.ruleNames[r]? = some e.1 → d.alternativesOf r = []
  owners : ∃ owners : List Owner, owners.map Owner.rule ++ left = defs ∧
    (∀ o ∈ owners, d.Owns d₁.ruleNames.size o ∧ ∀ r ∈ o.made, d.Made d₁.ruleNames.size r) ∧
    d₁.Adds names d (owners.flatMap (·.made))

/-- The rule of the source that is built next is no other rule of the source. -/
theorem ne_of_nodup {defs front left : List (String × Expr)} {e : String × Expr}
    (hnodup : (defs.map (·.1)).Nodup) (heq : front ++ e :: left = defs) :
    ∀ e' ∈ front ++ left, e'.1 ≠ e.1 := by
  rw [← heq, List.map_append, List.map_cons, List.nodup_middle, ← List.map_append] at hnodup
  exact fun e' he' hsame => (List.nodup_cons.mp hnodup).1 (List.mem_map.mpr ⟨e', he', hsame⟩)

theorem Owned.rule [Scanner ρ] {defs left : List (String × Expr)} {d₁ : Draft ρ}
    {e : String × Expr}
    (hfresh : ∀ number, helperName e.1 number ∉ names) (href : e.2.references ⊆ names)
    (hnodup : (defs.map (·.1)).Nodup)
    (hindexed : ∀ e ∈ defs, ∃ r : Nat, d₁.ruleNames[r]? = some e.1)
    (h : Owned names defs d₁ (e :: left) d) (hrule : rule terminals e.1 e.2 d = .ok (u, d')) :
    Owned names defs d₁ left d' := by
  obtain ⟨owners, heq, howns, hadds⟩ := h.owners
  obtain ⟨r, hr₁⟩ := hindexed e (heq ▸ List.mem_append_right _ (List.mem_cons_self ..))
  have hr := h.keeps.ruleNames hr₁
  have hrb : r < d₁.ruleNames.size := (Array.getElem?_eq_some_iff.mp hr₁).1
  obtain ⟨ht, hkeeps, made, hown, hadds'⟩ := owns_of_rule hfresh h.tidy hrb hr
    (h.empty e (List.mem_cons_self ..) r hr) href hrule
  have hforeign : ∀ e' ∈ owners.map Owner.rule ++ left, ∀ r' : Nat, r' = r →
      d.ruleNames[r']? ≠ some e'.1 := by
    rintro e' he' r' rfl hr'
    rw [hr] at hr'
    exact ne_of_nodup hnodup heq e' he' (Option.some.inj hr').symm
  refine ⟨ht, h.keeps.trans (hkeeps.mono fun _ _ _ => trivial), fun e' he' r' hr' => ?_,
    owners ++ [⟨e.1, e.2, made⟩], ?_, List.forall_mem_append.mpr ⟨fun o ho => ⟨?_, ?_⟩, ?_⟩, ?_⟩
  · obtain ⟨r'', hr₁'⟩ := hindexed e' (heq ▸ List.mem_append_right _ (List.mem_cons_of_mem _ he'))
    have hold := h.keeps.ruleNames hr₁'
    obtain rfl := ht.index_unique (hkeeps.ruleNames hold) hr'
    rw [hkeeps.alternatives r'' (Array.getElem?_eq_some_iff.mp hold).1 fun hsame =>
      hforeign e' (List.mem_append_right _ he') r'' hsame hold]
    exact h.empty e' (List.mem_cons_of_mem _ he') r'' hold
  · rw [List.map_append, List.append_assoc, ← heq]
    rfl
  · exact (howns o ho).1.keeps (howns o ho).2 hkeeps h.keeps.size_le fun r' hr' =>
      ⟨hr' ▸ hrb, hforeign o.rule (List.mem_append_left _ (List.mem_map_of_mem ho)) r' hr'⟩
  · exact fun r' hr' => ⟨((howns o ho).2 r' hr').le,
      Nat.lt_of_lt_of_le ((howns o ho).2 r' hr').lt hkeeps.size_le⟩
  · refine List.forall_mem_singleton.mpr ⟨hown, fun r' hr' => ?_⟩
    have hmade := hadds'.forall_made r' hr'
    exact ⟨Nat.le_trans h.keeps.size_le hmade.le, hmade.lt⟩
  · rw [List.flatMap_append, List.flatMap_singleton]
    exact hadds.append h.keeps.size_le hkeeps hadds'

/-- The second loop gives every rule of the source its productions. -/
theorem owned_of_forIn [Scanner ρ] {defs : List (String × Expr)} {d₁ : Draft ρ}
    (hfresh : ∀ e ∈ defs, ∀ number, helperName e.1 number ∉ names)
    (hnames : ∀ e ∈ defs, e.2.references ⊆ names) (hnodup : (defs.map (·.1)).Nodup)
    (hd₁ : Indexed names defs [] d₁) {v : PUnit}
    (h : (forIn defs PUnit.unit fun e _ => rule terminals e.1 e.2 >>= fun _ =>
      pure (ForInStep.yield PUnit.unit)) d₁ = .ok (v, d)) : Owned names defs d₁ [] d := by
  have hindexed : ∀ e ∈ defs, ∃ r : Nat, d₁.ruleNames[r]? = some e.1 := fun e he =>
    (hd₁.indexed e he).resolve_left List.not_mem_nil
  have hempty : ∀ r, d₁.alternativesOf r = [] := fun r => by
    rw [Draft.alternativesOf, hd₁.productions]
    rfl
  have hnone : ∀ o ∈ ([] : List Owner), d₁.Owns d₁.ruleNames.size o ∧
      ∀ r ∈ o.made, d₁.Made d₁.ruleNames.size r := fun o ho => absurd ho List.not_mem_nil
  refine inv_of_forIn (Owned names defs d₁) (fun e left d u d' hd hrun => ?_)
    ⟨hd₁.tidy, .refl _ _, fun _ _ r _ => hempty r, [], rfl, hnone, Draft.adds_of_eq rfl⟩ h
  obtain ⟨owners, heq, -⟩ := hd.owners
  have he : e ∈ defs := heq ▸ List.mem_append_right _ (List.mem_cons_self ..)
  exact hd.rule (hfresh e he) (hnames e he) hnodup hindexed hrun

/-- In the end every rule of the source has the alternatives of its right-hand side, and all other
rules have been made for them. -/
theorem owns_of_rules [Scanner ρ] {c : Collected}
    (hfresh : ∀ e ∈ c.rules, ∀ number, helperName e.1 number ∉ names)
    (hnodup : (c.rules.map (·.1)).Nodup)
    (hnames : ∀ e ∈ c.rules, e.1 ∈ names ∧ e.2.references ⊆ names)
    (h : rules c {} = .ok (u, d)) :
    d.Tidy names ∧ ∃ b, ∃ owners : List Owner, owners.map Owner.rule = c.rules.reverse ∧
      (∀ o ∈ owners, d.Owns b o ∧ ∀ r ∈ o.made, d.Made b r) ∧
      Draft.Adds names {} d (owners.flatMap (·.made)) := by
  unfold rules at h
  obtain ⟨_, d₁, hids, h⟩ := bind_eq_ok.mp h
  obtain ⟨_, d₂, hbodies, h⟩ := bind_eq_ok.mp h
  obtain ⟨-, rfl⟩ := pure_eq_ok.mp h
  have hmem : ∀ e ∈ c.rules.reverse, e ∈ c.rules := fun e => List.mem_reverse.mp
  have hd₁ := indexed_of_forIn (fun e he => (hnames e (hmem e he)).1) hids
  have hd₂ := owned_of_forIn (fun e he => hfresh e (hmem e he))
    (fun e he => (hnames e (hmem e he)).2)
    (by rwa [List.map_reverse, List.nodup_reverse]) hd₁ hbodies
  obtain ⟨owners, heq, howns, hadds⟩ := hd₂.owners
  exact ⟨hd₂.tidy, _, owners, by simpa using heq, howns,
    hd₁.adds.append (Nat.zero_le _) hd₂.keeps hadds⟩

theorem hasRule_of_rules [Scanner ρ] {c : Collected}
    (hfresh : ∀ e ∈ c.rules, ∀ number, helperName e.1 number ∉ names)
    (hnodup : (c.rules.map (·.1)).Nodup)
    (hnames : ∀ e ∈ c.rules, e.1 ∈ names ∧ e.2.references ⊆ names)
    (h : rules c {} = .ok (u, d)) :
    d.Tidy names ∧ ∃ b, ∀ e ∈ c.rules, d.HasRule b e.1 e.2 := by
  obtain ⟨ht, b, owners, heq, howns, -⟩ := owns_of_rules hfresh hnodup hnames h
  refine ⟨ht, b, fun e he => ?_⟩
  rw [← List.mem_reverse, ← heq] at he
  obtain ⟨o, ho, rfl⟩ := List.mem_map.mp he
  exact (howns o ho).1.hasRule

end Build

end QueryGate
