import Mathlib.Data.Set.Insert
import QueryGate.Proofs.Ebnf.Options
import QueryGate.Proofs.Grammar.Rules
import QueryGate.Proofs.Grammar.Steps
import QueryGate.Proofs.Grammar.WellFormed

/-!
# Compiled grammars have productions for all of their rules

A rule gets its index and its mark before its productions, and the productions of a group come
behind those of the groups in it. Until then the rule is owed one (`Draft.Accounted`). Every step of
building keeps account of these rules, and in the end none is left (`accounted_of_rules`), because
a choice has an option and a repetition has a first number.

* `Grammar.tables_of_compile` : what the recognizer relies on when it looks something up.
-/

namespace QueryGate

open Ebnf

/-- Rules have distinct names and a mark each, and those that are marked have a production, all but
some that are owed one. -/
structure Draft.Accounted (owed : Set Nat) (d : Draft Regex) : Prop where
  nodup : d.ruleNames.toList.Nodup
  size_eq : d.defined.size = d.ruleNames.size
  produced : ∀ r, d.defined[r]? = some true → r ∈ owed ∨ ∃ p ∈ d.productions, p.lhs = r

theorem Draft.Accounted.mono {owed owed' : Set Nat} {d : Draft Regex} (hd : d.Accounted owed)
    (h : owed ⊆ owed') : d.Accounted owed' :=
  ⟨hd.nodup, hd.size_eq, fun r hr => (hd.produced r hr).imp_left (h ·)⟩

namespace Build

variable {α β γ : Type} {owed owed' : Set Nat} {I : Draft Regex → Prop} {J : α → Draft Regex → Prop}
  {K : β → Draft Regex → Prop} {x : Build Regex α} {f : α → Build Regex β}
  {terminals : List (String × Expr)} {owner name : String} {body : Expr} {c : Collected}
  {d d' : Draft Regex}

/-- Where a step succeeds in a draft with one property, the draft behind it has another. -/
def Leads (I : Draft Regex → Prop) (x : Build Regex α) (J : α → Draft Regex → Prop) : Prop :=
  ∀ d a d', I d → x d = .ok (a, d') → J a d'

theorem Leads.bind (hx : Leads I x J) (hf : ∀ a, Leads (J a) (f a) K) : Leads I (x >>= f) K := by
  intro d b d' hd h
  obtain ⟨a, d₁, hrun, h⟩ := bind_eq_ok.mp h
  exact hf a d₁ b d' (hx d a d₁ hd hrun) h

theorem leads_pure {a : α} (h : ∀ d, I d → J a d) : Leads I (pure a) J := by
  intro d b d' hd hrun
  obtain ⟨rfl, rfl⟩ := pure_eq_ok.mp hrun
  exact h d hd

theorem Preserves.leads (hx : Preserves I x) : Leads I x fun _ => I :=
  hx

/-- The first turn of a loop leads to what the other turns keep. -/
theorem leads_forIn {I' : Draft Regex → Prop} {step : γ → Build Regex β} {as : List γ}
    (hne : as ≠ []) (hfirst : ∀ a, Leads I (step a) fun _ => I')
    (hrest : ∀ a, Preserves I' (step a)) :
    Leads I (forIn as PUnit.unit fun a _ =>
      step a >>= fun _ => pure (ForInStep.yield PUnit.unit)) fun _ => I' := by
  obtain ⟨a, as, rfl⟩ := List.exists_cons_of_ne_nil hne
  intro d v d' hd h
  rw [List.forIn_cons] at h
  obtain ⟨_, d₁, hbody, h⟩ := bind_eq_ok.mp h
  obtain ⟨b, d₂, hrun, hyield⟩ := bind_eq_ok.mp hbody
  obtain ⟨rfl, rfl⟩ := pure_eq_ok.mp hyield
  exact preserves_forIn (fun a _ => hrest a) d₂ v d' (hfirst a d b d₂ hd hrun) h

/-! ## Single steps -/

/-- Rules and their productions matter, and nothing else. -/
theorem accounted_of_eq (hd : d.Accounted owed) (hnames : d'.ruleNames = d.ruleNames)
    (hdefined : d'.defined = d.defined) (hps : d'.productions = d.productions) :
    d'.Accounted owed :=
  ⟨hnames ▸ hd.nodup, hnames ▸ hdefined ▸ hd.size_eq, hdefined ▸ hps ▸ hd.produced⟩

theorem accounted_modify {change : Draft Regex → Draft Regex}
    (hnames : ∀ d, (change d).ruleNames = d.ruleNames)
    (hdefined : ∀ d, (change d).defined = d.defined)
    (hps : ∀ d, (change d).productions = d.productions) :
    Preserves (Draft.Accounted owed) (modify change) := by
  intro d u d' hd h
  obtain rfl := modify_eq_ok.mp h
  exact accounted_of_eq hd (hnames d) (hdefined d) (hps d)

/-- A new rule has no mark yet. -/
theorem accounted_ruleId (name : String) :
    Preserves (Draft.Accounted owed) (ruleId name) := by
  intro d r d' hd h
  rcases cases_of_ruleId h with ⟨-, rfl⟩ | ⟨hnew, -, rfl⟩
  · exact hd
  · refine ⟨?_, by simp [hd.size_eq], fun r hr => hd.produced r ?_⟩
    · rw [Array.toList_push, ← List.concat_eq_append]
      exact hd.nodup.concat fun hmem => hnew (Array.mem_def.mpr hmem)
    · rw [Array.getElem?_push] at hr
      split_ifs at hr
      · cases hr
      · exact hr

theorem accounted_define (r : Nat) :
    Leads (Draft.Accounted owed) (define r) fun _ => Draft.Accounted (insert r owed) := by
  intro d u d' hd h
  obtain rfl := modify_eq_ok.mp h
  refine ⟨hd.nodup, by simp [hd.size_eq], fun q hq => ?_⟩
  by_cases hqr : q = r
  · exact Or.inl (Or.inl hqr)
  · rw [Array.getElem?_setIfInBounds_ne (Ne.symm hqr)] at hq
    exact (hd.produced q hq).imp_left Or.inr

/-- With a production, a rule is owed nothing. -/
theorem accounted_produce {r : Nat} (howed : owed' ⊆ insert r owed) (ss : List Symbol) :
    Leads (Draft.Accounted owed') (produce r ss) fun _ => Draft.Accounted owed := by
  intro d u d' hd h
  obtain rfl := modify_eq_ok.mp h
  have hnew : ∃ p ∈ d.productions.push ⟨r, ss⟩, p.lhs = r := ⟨_, Array.mem_push_self, rfl⟩
  refine ⟨hd.nodup, hd.size_eq, fun q hq => ?_⟩
  rcases hd.produced q hq with hq | ⟨p, hp, rfl⟩
  · rcases howed hq with rfl | hq
    · exact Or.inr hnew
    · exact Or.inl hq
  · exact Or.inr ⟨p, Array.mem_push.mpr (Or.inl hp), rfl⟩

theorem accounted_helperRule (owner : String) :
    Leads (Draft.Accounted owed) (helperRule owner) fun r => Draft.Accounted (insert r owed) := by
  unfold helperRule
  have hcount : Preserves (Draft.Accounted owed)
      (modify fun d => { d with helpers := d.helpers + 1 }) :=
    accounted_modify (fun _ => rfl) (fun _ => rfl) fun _ => rfl
  refine hcount.leads.bind fun _ => ?_
  refine Leads.bind (J := fun _ => Draft.Accounted owed) (fun d e d' hd h => ?_) fun e => ?_
  · obtain ⟨-, rfl⟩ := get_eq_ok.mp h
    exact hd
  · exact (accounted_ruleId _).leads.bind fun r =>
      (accounted_define r).bind fun _ => leads_pure fun _ => id

theorem accounted_reference (name : String) :
    Preserves (Draft.Accounted owed) (reference name owner) := by
  unfold reference
  refine (accounted_ruleId name).bind fun r => Preserves.bind ?_ fun _ => preserves_pure _
  refine accounted_modify (fun d => ?_) (fun d => ?_) fun d => ?_
  all_goals split_ifs <;> rfl

theorem accounted_terminal {s : Lexeme} {pattern : Build Regex (List Char)}
    (hpattern : Writes s pattern) :
    Preserves (Draft.Accounted owed) (terminal s pattern) := by
  intro d t d' hd h
  rcases cases_of_terminal h with ⟨i, -, -, rfl⟩ | ⟨-, source, d₁, regex, hrun, -, -, rfl⟩
  · exact hd
  · rw [hpattern.eq_resolver d source d₁ hrun]
    exact accounted_of_eq hd rfl rfl rfl

/-- Some number of repetitions is the first. -/
theorem accounted_repetition (item : Symbol) (least : Nat) (most : Option Nat) (owner : String) :
    Preserves (Draft.Accounted owed) (repetition item least most owner) := by
  unfold repetition
  refine (accounted_helperRule owner).bind fun r => ?_
  have hcopies : ∀ count, Preserves (Draft.Accounted owed)
      (produce r (List.replicate count item)) :=
    fun count => accounted_produce (Set.subset_insert r owed) _
  cases most with
  | none =>
    exact (accounted_produce subset_rfl _).bind fun _ =>
      (accounted_produce (Set.subset_insert r owed) _).bind fun _ => leads_pure fun _ => id
  | some most =>
    refine (leads_forIn ?_ (fun count => accounted_produce subset_rfl _) hcopies).bind
      fun _ => leads_pure fun _ => id
    exact List.ne_nil_of_length_pos (by rw [List.length_range']; omega)

/-! ## Symbols and alternatives -/

theorem assembles_accounted : Assembles terminals owner
    (fun e x => e.HasOptions → ∀ owed, Preserves (Draft.Accounted owed) x)
    (fun es x => (∀ e ∈ es, e.HasOptions) → ∀ owed, Preserves (Draft.Accounted owed) x)
    (fun r es x => (∀ e ∈ es, e.HasOptions) → ∀ owed owed', owed' ⊆ insert r owed →
      (es = [] → owed' ⊆ owed) → Leads (Draft.Accounted owed') x
        fun _ => Draft.Accounted owed) where
  lexeme _ _ owed := accounted_terminal (writes_lexemePattern _)
  name _ _ owed := accounted_reference _
  seq hparts he owed := by
    obtain _ | _ | _ | _ | hoptions := he
    refine (accounted_helperRule owner).bind fun r =>
      (hparts hoptions (insert r owed)).leads.bind fun ss => ?_
    exact (accounted_produce subset_rfl ss).bind fun _ => leads_pure fun _ => id
  alt hbuild he owed := by
    obtain _ | _ | _ | _ | _ | ⟨hne, hoptions⟩ := he
    refine (accounted_helperRule owner).bind fun r => ?_
    exact (hbuild r hoptions owed (insert r owed) subset_rfl fun hnil => absurd hnil hne).bind
      fun _ => leads_pure fun _ => id
  rep least most hbody he owed := by
    obtain _ | _ | _ | _ | _ | _ | ⟨_, _, hoptions⟩ := he
    exact (hbody hoptions owed).bind fun item => accounted_repetition item least most owner
  nil _ owed := preserves_pure _
  flat hparts hes he owed := by
    obtain ⟨hseq, hrest⟩ := List.forall_mem_cons.mp he
    obtain _ | _ | _ | _ | hoptions := hseq
    exact (hparts hoptions owed).bind fun _ => (hes hrest owed).bind fun _ => preserves_pure _
  cons hfirst hes he owed := by
    obtain ⟨hoptions, hrest⟩ := List.forall_mem_cons.mp he
    exact (hfirst hoptions owed).bind fun _ => (hes hrest owed).bind fun _ => preserves_pure _
  noOption r _ owed owed' _ hnil := leads_pure fun d hd => hd.mono (hnil rfl)
  option {r e es build buildRest} hfirst hes he owed owed' howed _ := by
    obtain ⟨hoptions, hrest⟩ := List.forall_mem_cons.mp he
    refine (hfirst (List.forall_mem_singleton.mpr hoptions) owed').leads.bind fun ss => ?_
    exact (accounted_produce howed ss).bind fun _ =>
      hes hrest owed owed (Set.subset_insert r owed) fun _ => subset_rfl

/-- The productions of alternatives are what their rule is owed, if there are any. -/
theorem accounted_symbolOf_alternatives_symbolsOf :
    (∀ e : Expr, e.HasOptions → ∀ owed,
        Preserves (Draft.Accounted owed) (symbolOf terminals owner e)) ∧
      (∀ r es, (∀ e ∈ es, e.HasOptions) → ∀ owed owed', owed' ⊆ insert r owed →
        (es = [] → owed' ⊆ owed) → Leads (Draft.Accounted owed')
          (alternatives terminals owner r es) fun _ => Draft.Accounted owed) ∧
      ∀ es, (∀ e ∈ es, e.HasOptions) → ∀ owed,
        Preserves (Draft.Accounted owed) (symbolsOf terminals owner es) :=
  assembles_accounted.holds

/-! ## The whole build -/

theorem optionsOf_ne_nil (h : body.HasOptions) : optionsOf body ≠ [] := by
  cases h with
  | alt hne _ => exact hne
  | _ => exact List.cons_ne_nil _ _

theorem hasOptions_optionsOf (h : body.HasOptions) : ∀ e ∈ optionsOf body, e.HasOptions := by
  cases h with
  | alt _ hoptions => exact hoptions
  | literal | pattern | range | name => exact List.forall_mem_singleton.mpr (by constructor)
  | seq hparts => exact List.forall_mem_singleton.mpr (.seq hparts)
  | rep least most hbody => exact List.forall_mem_singleton.mpr (.rep least most hbody)

theorem accounted_rule (h : body.HasOptions) :
    Preserves (Draft.Accounted owed) (rule terminals name body) := by
  unfold rule
  refine (accounted_ruleId name).leads.bind fun r => (accounted_define r).bind fun _ => ?_
  exact accounted_symbolOf_alternatives_symbolsOf.2.1 r _ (hasOptions_optionsOf h) owed _
    subset_rfl fun hnil => absurd hnil (optionsOf_ne_nil h)

/-- In the end no rule is owed a production. -/
theorem accounted_of_rules (hbodies : ∀ e ∈ c.rules, e.2.HasOptions)
    (h : rules c {} = .ok ((), d)) : d.Accounted ∅ := by
  have hrules : Preserves (Draft.Accounted ∅) (rules c) := by
    unfold rules
    refine (preserves_forIn fun e _ => accounted_ruleId e.1).bind fun _ => ?_
    exact (preserves_forIn fun e he =>
      accounted_rule (hbodies e (List.mem_reverse.mp he))).bind fun _ => preserves_pure _
  exact hrules {} () d ⟨List.nodup_nil, rfl, nofun⟩ h

end Build

/-! ## Compiled grammars -/

/-- All choices in a source have options. -/
theorem hasOptions_of_mapM {entries : List Entry} {ds : List Located}
    (h : entries.mapM readEntry = .ok ds) : ∀ d ∈ ds, d.definition.HasOptions := by
  induction entries generalizing ds with
  | nil =>
    obtain rfl := Except.ok.inj (List.mapM_nil.symm.trans h)
    exact nofun
  | cons entry entries ih =>
    obtain ⟨d, hd, h⟩ := except_bind_eq_ok.mp (List.mapM_cons.symm.trans h)
    obtain ⟨ds', hds, h⟩ := except_bind_eq_ok.mp h
    obtain rfl := Except.ok.inj h
    refine List.forall_mem_cons.mpr ⟨?_, ih hds⟩
    unfold readEntry at hd
    split at hd
    · next definition hdefinition =>
      obtain rfl := Except.ok.inj hd
      exact hasOptions_of_readDefinition hdefinition
    · cases hd

theorem hasOptions_of_mem_ruleBodies {ds : List Located} {e : String × Expr}
    (h : ∀ d ∈ ds, d.definition.HasOptions) (he : e ∈ ruleBodies ds) : e.2.HasOptions := by
  obtain ⟨d, hd, hrule⟩ := List.mem_filterMap.mp he
  have hoptions := h d hd
  unfold Located.rule? at hrule
  split at hrule
  · next name body hdefinition =>
    obtain rfl := Option.some.inj hrule
    rwa [hdefinition] at hoptions
  · cases hrule

/-- Rules without a mark would be reported. -/
theorem Draft.defined_of_undefined?_eq_none {d : Draft Regex} (h : d.undefined? = none) {r : Nat}
    (hr : r < d.defined.size) : d.defined[r]? = some true := by
  have hmarks := Array.findIdx?_eq_none_iff.mp (Option.map_eq_none_iff.mp h)
  rw [Array.getElem?_eq_getElem hr]
  simpa using hmarks d.defined[r] (Array.getElem_mem hr)

namespace Grammar

variable {source root : String} {g : Grammar} {n r : Nat} {productions : Array Production}

theorem pairwise_productionsByRule (n : Nat) (productions : Array Production) (r : Nat) :
    ((productionsByRule n productions)[r]?.getD []).Pairwise (· < ·) := by
  rw [productionsByRule, Array.getElem?_map]
  by_cases hr : r < n
  · simpa [hr] using List.pairwise_lt_range.filter _
  · simp [hr]

/-- In a grammar that compiles, the names of rules are distinct and the root has the name that was
asked for. Productions speak of rules and terminals that there are, and every rule has some. The
productions of a rule are listed in the order in which they were made, and a rule counts as nullable
exactly if it derives the empty text without terminals. -/
theorem tables_of_compile (h : compile source root = .ok g) :
    g.ruleNames.toList.Nodup ∧ g.ruleNames[g.root]? = some root ∧
      (∀ p ∈ g.productions, p.Within g.ruleNames.size g.terminals.size) ∧
      (g.byRule.size = g.ruleNames.size ∧ ∀ r, (g.productionsOf r).Pairwise (· < ·) ∧
        (∀ i, i ∈ g.productionsOf r ↔ ∃ p, g.productions[i]? = some p ∧ p.lhs = r) ∧
        (r < g.ruleNames.size → g.productionsOf r ≠ [])) ∧
      g.nullable.size = g.ruleNames.size ∧
        ∀ r, g.isNullable r = true ↔ Vanishes g.productions [.rule r] := by
  have hg := wellFormed_of_compile h
  obtain ⟨ds, c, d, rootRule, ignored, resolver, hds, hc, hd, hdefined, hroot, -, rfl⟩ :=
    exists_of_compile h
  have hbodies : ∀ e ∈ c.rules, e.2.HasOptions := by
    rw [rules_of_collect hc]
    exact fun e he => hasOptions_of_mem_ruleBodies (hasOptions_of_mapM hds) (List.mem_reverse.mp he)
  have haccounted := Build.accounted_of_rules hbodies hd
  refine ⟨haccounted.nodup, Build.getElem?_of_idxOf? hroot, hg.within,
    ⟨hg.size_byRule, fun r => ⟨?_, ?_, ?_⟩⟩, hg.size_nullable, ?_⟩
  · exact pairwise_productionsByRule _ _ r
  · exact fun i => hg.mem_productionsOf_iff
  · intro hr
    have hmark := Draft.defined_of_undefined?_eq_none hdefined (haccounted.size_eq ▸ hr)
    obtain ⟨p, hp, rfl⟩ := (haccounted.produced r hmark).resolve_left id
    obtain ⟨i, hi, rfl⟩ := Array.mem_iff_getElem.mp hp
    exact List.ne_nil_of_mem (hg.mem_productionsOf_iff.mpr ⟨_, Array.getElem?_eq_getElem hi, rfl⟩)
  · exact fun r => hg.isNullable_iff

/-- Groups and repetitions in one another, and two rules that refer to each other and derive the
empty text. -/
def groupedSource : String :=
  "s: \"a\" (t | \"b\" (\"c\" | \"d\")+)* | \"c\"~2..3 u\nt: [s] u\nu: t~0..1\n"

theorem tables_of_compile_grouped : ∃ g : Grammar, compile groupedSource "s" = .ok g ∧
    g.ruleNames.size = 10 ∧ g.ruleNames.toList.Nodup ∧ g.ruleNames[g.root]? = some "s" ∧
      (∀ r < 10, g.productionsOf r ≠ []) ∧ ¬ Vanishes g.productions [.rule 0] ∧
      Vanishes g.productions [.rule 1] ∧ Vanishes g.productions [.rule 2] := by
  have hruns : (compile groupedSource "s").toOption.any (fun g : Grammar =>
      g.ruleNames.size = 10 ∧ g.isNullable 0 = false ∧ g.isNullable 1 = true ∧
        g.isNullable 2 = true) = true := by decide +kernel
  obtain ⟨g, h, hsize, hs, ht, hu⟩ := exists_ok_of_any hruns
  obtain ⟨hnodup, hroot, -, ⟨-, hrules⟩, -, hnullable⟩ := tables_of_compile h
  exact ⟨g, h, hsize, hnodup, hroot, fun r hr => (hrules r).2.2 (hsize ▸ hr),
    fun hvanishes => Bool.false_ne_true (hs.symm.trans ((hnullable 0).mpr hvanishes)),
    (hnullable 1).mp ht, (hnullable 2).mp hu⟩

end Grammar

end QueryGate
