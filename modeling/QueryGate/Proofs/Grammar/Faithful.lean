import QueryGate.Proofs.Ebnf.Equality
import QueryGate.Proofs.Grammar.Compiled
import QueryGate.Proofs.Grammar.Steps

/-!
# Compiling preserves what rules mean

A source that compiles leaves no name undefined, so its rules refer to each other only, and it has
one terminal for each of its lexemes (`Draft.Faithful`, which every step of `Build` preserves).
Hence its productions derive what its right-hand sides match.

* `Grammar.derives_iff_matches` : a rule of the source derives a piece of a text exactly if its
  right-hand side matches the piece.
-/

namespace QueryGate

open Ebnf

/-! ## What is defined -/

/-- Only the given rules have been given productions, apart from those made for groups and
repetitions, and no two terminals have one lexeme. -/
structure Draft.Faithful (defs : List String) (d : Draft Regex) : Prop where
  size_defined : d.defined.size = d.ruleNames.size
  mem_of_defined : ∀ (r : Nat) name, d.ruleNames[r]? = some name → d.defined[r]? = some true →
    name ∈ defs ∨ ∃ owner ∈ defs, ∃ number, name = helperName owner number
  nodup_lexemes : (d.terminals.toList.map (·.lexeme)).Nodup

namespace Build

variable {defs : List String} {name owner : String} {r : Nat}

/-- A change that touches neither rule names nor flags nor terminals. -/
theorem faithful_modify {change : Draft Regex → Draft Regex}
    (hnames : ∀ d, (change d).ruleNames = d.ruleNames)
    (hdefined : ∀ d, (change d).defined = d.defined)
    (hterminals : ∀ d, (change d).terminals = d.terminals) :
    Preserves (Draft.Faithful defs) (modify change) := by
  intro d u d' hd h
  obtain rfl := modify_eq_ok.mp h
  refine ⟨?_, fun r name => ?_, ?_⟩
  · rw [hdefined, hnames, hd.size_defined]
  · rw [hdefined, hnames]
    exact hd.mem_of_defined r name
  · rw [hterminals]
    exact hd.nodup_lexemes

/-- A rule gets an index without being defined. -/
theorem faithful_ruleId {d d' : Draft Regex} (hd : d.Faithful defs)
    (h : ruleId name d = .ok (r, d')) : d'.Faithful defs ∧ d'.ruleNames[r]? = some name := by
  rcases cases_of_ruleId h with ⟨hr, rfl⟩ | ⟨-, rfl, rfl⟩
  · exact ⟨hd, hr⟩
  · refine ⟨⟨?_, fun r other hr hflag => ?_, hd.nodup_lexemes⟩, Array.getElem?_push_size⟩
    · rw [Array.size_push, Array.size_push, hd.size_defined]
    · rw [Array.getElem?_push] at hr
      rw [Array.getElem?_push, hd.size_defined] at hflag
      split_ifs at hr hflag with hlast
      · simp at hflag
      · exact hd.mem_of_defined r other hr hflag

/-- A rule is defined that may be. -/
theorem faithful_define {d d' : Draft Regex} {u : Unit} (hd : d.Faithful defs)
    (hr : d.ruleNames[r]? = some name)
    (hname : name ∈ defs ∨ ∃ owner ∈ defs, ∃ number, name = helperName owner number)
    (h : define r d = .ok (u, d')) : d'.Faithful defs := by
  obtain rfl := modify_eq_ok.mp h
  refine ⟨?_, fun r' other hr' hflag => ?_, hd.nodup_lexemes⟩
  · exact Array.size_setIfInBounds.trans hd.size_defined
  · change (d.defined.setIfInBounds r true)[r']? = some true at hflag
    rw [Array.getElem?_setIfInBounds] at hflag
    by_cases heq : r = r'
    · subst heq
      obtain rfl := Option.some.inj (hr.symm.trans hr')
      exact hname
    · rw [if_neg heq] at hflag
      exact hd.mem_of_defined r' other hr' hflag

theorem faithful_helperRule (howner : owner ∈ defs) :
    Preserves (Draft.Faithful defs) (helperRule owner) := by
  unfold helperRule
  refine Preserves.bind ?_ fun _ => ?_
  · exact faithful_modify (fun _ => rfl) (fun _ => rfl) fun _ => rfl
  intro d r d' hd h
  obtain ⟨_, _, hget, h⟩ := bind_eq_ok.mp h
  obtain ⟨rfl, rfl⟩ := get_eq_ok.mp hget
  obtain ⟨r, d₁, hid, h⟩ := bind_eq_ok.mp h
  obtain ⟨_, d₂, hdefine, h⟩ := bind_eq_ok.mp h
  obtain ⟨rfl, rfl⟩ := pure_eq_ok.mp h
  obtain ⟨hd₁, hr⟩ := faithful_ruleId hd hid
  exact faithful_define hd₁ hr (Or.inr ⟨owner, howner, _, rfl⟩) hdefine

/-- A terminal is made for a lexeme only if there is none yet. -/
theorem faithful_terminal {x : Lexeme} {pattern : Build Regex (List Char)}
    (hpattern : Writes x pattern) : Preserves (Draft.Faithful defs) (terminal x pattern) := by
  intro d s d' hd h
  rcases cases_of_terminal h with ⟨i, -, -, rfl⟩ | ⟨hi, source, d₁, regex, hsource, -, -, rfl⟩
  · exact hd
  · rw [hpattern.eq_resolver d source d₁ hsource]
    refine ⟨hd.size_defined, hd.mem_of_defined, ?_⟩
    have hnew : x ∉ d.terminals.toList.map (·.lexeme) := fun hmem => by
      obtain ⟨t, ht, rfl⟩ := List.mem_map.mp hmem
      simpa using Array.findIdx?_eq_none_iff.mp hi t (Array.mem_toList_iff.mp ht)
    change ((d.terminals.push ⟨x, regex⟩).toList.map (·.lexeme)).Nodup
    rw [Array.toList_push, List.map_append]
    exact List.nodup_append.mpr ⟨hd.nodup_lexemes, List.nodup_singleton _, fun a ha b hb hab =>
      hnew (by rwa [hab, List.mem_singleton.mp hb] at ha)⟩

theorem stable_faithful (howner : owner ∈ defs) : Stable owner (Draft.Faithful defs) where
  helperRule := faithful_helperRule howner
  reference name := by
    unfold reference
    refine Preserves.bind (fun _ _ _ hd h => (faithful_ruleId hd h).1) fun r =>
      Preserves.bind ?_ fun _ => preserves_pure _
    refine faithful_modify (fun d => ?_) (fun d => ?_) fun d => ?_ <;> split_ifs <;> rfl
  produce r ss := faithful_modify (fun _ => rfl) (fun _ => rfl) fun _ => rfl
  terminal _ _ hpattern := faithful_terminal hpattern

/-- In the end only the rules of the source are defined, groups and repetitions apart. -/
theorem faithful_of_rules {c : Collected} {d : Draft Regex} {u : Unit}
    (h : rules c {} = .ok (u, d)) : d.Faithful (c.rules.map (·.1)) := by
  have hrule : ∀ e ∈ c.rules.reverse,
      Preserves (Draft.Faithful (c.rules.map (·.1))) (rule c.terminals e.1 e.2) := by
    intro e he d u d' hd h
    unfold rule at h
    obtain ⟨r, d₁, hid, h⟩ := bind_eq_ok.mp h
    obtain ⟨_, d₂, hdefine, h⟩ := bind_eq_ok.mp h
    obtain ⟨hd₁, hr⟩ := faithful_ruleId hd hid
    have hmem : e.1 ∈ c.rules.map (·.1) := List.mem_map_of_mem (List.mem_reverse.mp he)
    have hd₂ := faithful_define hd₁ hr (Or.inl hmem) hdefine
    exact (preserves_symbolOf_alternatives_symbolsOf (stable_faithful hmem)).2.1 r _ d₂ u d' hd₂ h
  have hall : Preserves (Draft.Faithful (c.rules.map (·.1))) (rules c) := by
    unfold rules
    refine (preserves_forIn fun _ _ _ _ _ hd h => (faithful_ruleId hd h).1).bind fun _ => ?_
    exact (preserves_forIn hrule).bind fun _ => preserves_pure _
  exact hall {} u d ⟨rfl, fun r name hr => by simp at hr, List.nodup_nil⟩ h

end Build

/-! ## What is referred to -/

/-- Where symbols stand for expressions, all rules that these refer to have an index. -/
theorem Stands.exists_ruleNames {d : Draft Regex} {es : List Expr} {ss : List Symbol}
    {made : List Nat} (h : Stands d es ss made) :
    ∀ n ∈ Expr.referencesOf es, ∃ r : Nat, d.ruleNames[r]? = some n := by
  induction h with
  | nil => simp [Expr.referencesOf]
  | @lexeme e es x t ss made hx _ _ ih =>
    have hnone : e.references = [] := by
      cases e with
      | name n =>
        rw [Expr.lexeme?] at hx
        split_ifs at hx with hn
        rw [Expr.references, if_pos hn]
      | seq | alt | rep => cases hx
      | _ => rfl
    rw [Expr.referencesOf, hnone]
    exact ih
  | name hn hr _ ih =>
    rw [Expr.referencesOf, Expr.references, if_neg (by simp [hn])]
    exact List.forall_mem_cons.mpr ⟨⟨_, hr⟩, ih⟩
  | @flat parts es _ _ _ ih =>
    intro n hn
    refine ih n ?_
    rw [Expr.mem_referencesOf_iff] at hn ⊢
    obtain ⟨e, he, hn⟩ := hn
    rcases List.mem_cons.mp he with rfl | he
    · obtain ⟨e, he, hn⟩ := Expr.mem_referencesOf_iff.mp hn
      exact ⟨e, List.mem_append_left _ he, hn⟩
    · exact ⟨e, List.mem_append_right _ he, hn⟩
  | seq _ _ _ ih ihs => exact List.forall_mem_append.mpr ⟨ih, ihs⟩
  | alt choices _ _ _ ih ihs =>
    refine List.forall_mem_append.mpr ⟨fun n hn => ?_, ihs⟩
    obtain ⟨e, he, hn⟩ := Expr.mem_referencesOf_iff.mp hn
    obtain ⟨choice, hchoice, rfl⟩ := List.mem_map.mp he
    exact ih choice hchoice n (Expr.mem_referencesOf_iff.mpr ⟨_, List.mem_singleton.mpr rfl, hn⟩)
  | @rep body _ _ _ _ _ _ _ _ _ _ _ ih ihs =>
    refine List.forall_mem_append.mpr ⟨fun n hn => ?_, ihs⟩
    exact ih n (Expr.mem_referencesOf_iff.mpr ⟨body, List.mem_singleton.mpr rfl, hn⟩)

theorem mem_referencesOf_optionsOf {body : Expr} {n : String} (hn : n ∈ body.references) :
    n ∈ Expr.referencesOf (Build.optionsOf body) := by
  cases body with
  | alt options => exact hn
  | _ => simpa [Build.optionsOf, Expr.referencesOf] using hn

theorem defined_of_undefined? {d : Draft Regex} (h : d.undefined? = none) {r : Nat}
    (hr : r < d.defined.size) : d.defined[r]? = some true := by
  rw [Draft.undefined?, Option.map_eq_none_iff, Array.findIdx?_eq_none_iff] at h
  have hflag := h d.defined[r] (Array.getElem_mem hr)
  rw [Array.getElem?_eq_getElem hr]
  simpa using hflag

/-- No rule made for a group or a repetition has a name that the rules have or refer to. -/
def FreshHelpers (rules : List (String × Expr)) : Prop :=
  ∀ e ∈ rules, ∀ n ∈ e.1 :: e.2.references, ∀ owner ∈ rules.map (·.1), ∀ number,
    n ≠ helperName owner number

/-- It is enough that no name begins as those of the rules made for a rule do. -/
theorem freshHelpers_of_not_prefix {rules : List (String × Expr)}
    (h : ∀ e ∈ rules, ∀ n ∈ e.1 :: e.2.references, ∀ owner ∈ rules.map (·.1),
      ¬(Grammar.helperMark ++ owner ++ "_").toList <+: n.toList) : FreshHelpers rules := by
  rintro e he n hn owner howner number rfl
  refine h e he _ hn owner howner ⟨(toString number).toList, ?_⟩
  simp only [helperName, String.toList_append]

theorem freshHelpers_of_isPlainName {rules : List (String × Expr)}
    (hplain : ∀ e ∈ rules, ∀ n ∈ e.1 :: e.2.references, IsPlainName n) : FreshHelpers rules := by
  refine freshHelpers_of_not_prefix fun e he n hn owner _ h => hplain e he n hn ?_
  rw [String.toList_append, String.toList_append, List.append_assoc] at h
  exact (List.prefix_append _ _).trans h

/-- Where nothing is undefined, the rules of a source refer to each other only. -/
theorem Draft.Faithful.closed {d : Draft Regex} {b : Nat} {rules : List (String × Expr)}
    (hd : d.Faithful (rules.map (·.1))) (hundefined : d.undefined? = none)
    (hrules : ∀ e ∈ rules, d.HasRule b e.1 e.2) (hfresh : FreshHelpers rules) :
    ∀ e ∈ rules, Closed rules [e.2] := by
  intro e he n hn
  have hn' : n ∈ e.2.references := by simpa [Expr.referencesOf] using hn
  obtain ⟨-, -, -, -, choices, hoptions, -, hstands⟩ := hrules e he
  have hmem := mem_referencesOf_optionsOf hn'
  rw [hoptions] at hmem
  obtain ⟨option, hoption, hn⟩ := Expr.mem_referencesOf_iff.mp hmem
  obtain ⟨choice, hchoice, rfl⟩ := List.mem_map.mp hoption
  obtain ⟨r, hr⟩ := (hstands choice hchoice).exists_ruleNames n
    (Expr.mem_referencesOf_iff.mpr ⟨_, List.mem_singleton.mpr rfl, hn⟩)
  have hlt : r < d.defined.size := hd.size_defined ▸ (Array.getElem?_eq_some_iff.mp hr).1
  rcases hd.mem_of_defined r n hr (defined_of_undefined? hundefined hlt) with
    hdef | ⟨owner, howner, number, heq⟩
  · obtain ⟨e', he', rfl⟩ := List.mem_map.mp hdef
    exact ⟨e'.2, he'⟩
  · exact absurd heq (hfresh e he n (List.mem_cons_of_mem _ hn') owner howner number)

/-! ## The meaning of a grammar -/

namespace Grammar

variable {g : Grammar} {source root : String} {ds : List Located}

/-- The terminal of a lexeme takes the piece from one byte offset to another, ignored text in front
of it included. -/
def TakesLexeme (g : Grammar) (text : List Char) (x : Lexeme) (k m : Nat) : Prop :=
  ∃ t, g.lexemeOf? t = some x ∧ g.Takes text t k m

/-- A compiled grammar has the productions of all rules of its source, and its other rules have been
made for the groups and repetitions in them. -/
theorem exists_owners_of_compile (hds : definitions source = .ok ds)
    (h : compile source root = .ok g) (hfresh : FreshHelpers (ruleBodies ds)) :
    ∃ d b rootRule ignored, g = ofDraft source rootRule d ignored ∧
      d.Realizes b (ruleBodies ds) ∧ d.Faithful ((ruleBodies ds).map (·.1)) ∧
      ∃ owners : List Owner, owners.map Owner.rule = ruleBodies ds ∧ (∀ o ∈ owners, d.Owns b o) ∧
        Draft.Adds ((ruleBodies ds).flatMap fun e => e.1 :: e.2.references) {} d
          (owners.flatMap (·.made)) := by
  obtain ⟨ds', c, d, rootRule, ignored, resolver, hds', hc, hd, hundefined, -, -, rfl⟩ :=
    exists_of_compile h
  obtain rfl := Except.ok.inj (hds'.symm.trans hds)
  have hrules : ∀ e, e ∈ c.rules ↔ e ∈ ruleBodies ds' := fun e => by
    rw [rules_of_collect hc, List.mem_reverse]
  have hreverse : c.rules.reverse = ruleBodies ds' := by
    rw [rules_of_collect hc, List.reverse_reverse]
  have hmem : ∀ e ∈ c.rules, e.1 ∈ ((ruleBodies ds').flatMap fun e => e.1 :: e.2.references) ∧
      e.2.references ⊆ (ruleBodies ds').flatMap fun e => e.1 :: e.2.references := fun e he =>
    ⟨List.mem_flatMap.mpr ⟨e, (hrules e).mp he, List.mem_cons_self ..⟩,
      fun n hn => List.mem_flatMap.mpr ⟨e, (hrules e).mp he, List.mem_cons_of_mem _ hn⟩⟩
  have hnot : ∀ e ∈ c.rules, ∀ number, helperName e.1 number ∉
      (ruleBodies ds').flatMap fun e => e.1 :: e.2.references := fun e he number hn => by
    obtain ⟨e', he', hn⟩ := List.mem_flatMap.mp hn
    exact hfresh e' he' _ hn e.1 (List.mem_map_of_mem ((hrules e).mp he)) number rfl
  obtain ⟨htidy, b, owners, heq, howns, hadds⟩ :=
    Build.owns_of_rules hnot (nodup_of_collect hc) hmem hd
  rw [hreverse] at heq
  have hhas : ∀ e ∈ ruleBodies ds', d.HasRule b e.1 e.2 := fun e he => by
    rw [← heq] at he
    obtain ⟨o, ho, rfl⟩ := List.mem_map.mp he
    exact (howns o ho).1.hasRule
  have hfaithful : d.Faithful ((ruleBodies ds').map (·.1)) := by
    have hall := Build.faithful_of_rules hd
    have hnames : ∀ n, n ∈ c.rules.map (·.1) ↔ n ∈ (ruleBodies ds').map (·.1) := fun n => by
      rw [rules_of_collect hc, List.map_reverse, List.mem_reverse]
    exact ⟨hall.size_defined, by simpa only [hnames] using hall.mem_of_defined, hall.nodup_lexemes⟩
  exact ⟨d, b, rootRule, ignored, rfl, ⟨htidy.nodup, hhas, hfaithful.closed hundefined hhas hfresh⟩,
    hfaithful, owners, heq, fun o ho => (howns o ho).1, hadds⟩

theorem exists_realizes_of_compile (hds : definitions source = .ok ds)
    (h : compile source root = .ok g)
    (hplain : ∀ e ∈ ruleBodies ds, ∀ n ∈ e.1 :: e.2.references, IsPlainName n) :
    ∃ d b rootRule ignored, g = ofDraft source rootRule d ignored ∧
      d.Realizes b (ruleBodies ds) ∧ d.Faithful ((ruleBodies ds).map (·.1)) := by
  obtain ⟨d, b, rootRule, ignored, hg, hrealizes, hfaithful, -⟩ :=
    exists_owners_of_compile hds h (freshHelpers_of_isPlainName hplain)
  exact ⟨d, b, rootRule, ignored, hg, hrealizes, hfaithful⟩

/-- Compiling preserves meaning. Every rule of a source that compiles has an index, every lexeme in
its right-hand side has one terminal, and the productions derive from the rule what its right-hand
side matches in any text, where the names of the source do not look like those made for groups and
repetitions. -/
theorem derives_iff_matches (hds : definitions source = .ok ds)
    (h : compile source root = .ok g)
    (hplain : ∀ e ∈ ruleBodies ds, ∀ n ∈ e.1 :: e.2.references, IsPlainName n)
    {name : String} {body : Expr} (hbody : (name, body) ∈ ruleBodies ds) :
    ∃ r, g.ruleNames.idxOf? name = some r ∧
      (∀ x ∈ body.lexemes, ∃! t, g.lexemeOf? t = some x) ∧
      ∀ text i j, g.Derives text r i j ↔
        Matches (ruleBodies ds) (g.TakesLexeme text) [body] i j := by
  obtain ⟨d, b, rootRule, ignored, rfl, hrealizes, hfaithful⟩ :=
    exists_realizes_of_compile hds h hplain
  have hunique : ∀ {t t' : Nat} {x : Lexeme}, d.lexemeOf? t = some x → d.lexemeOf? t' = some x →
      t = t' := by
    intro t t' x ht ht'
    rw [Draft.lexemeOf?, ← Array.getElem?_toList, ← List.getElem?_map] at ht ht'
    exact (List.getElem?_inj (List.getElem?_eq_some_iff.mp ht).1 hfaithful.nodup_lexemes).mp
      (ht.trans ht'.symm)
  obtain ⟨r', -, hr', -, choices, hoptions, -, hstands⟩ := hrealizes.hasRule _ hbody
  obtain ⟨r, hr⟩ : ∃ r, d.ruleNames.idxOf? name = some r := by
    refine Option.ne_none_iff_exists'.mp fun hnone => ?_
    exact Array.idxOf?_eq_none_iff.mp hnone (Array.mem_of_getElem? hr')
  refine ⟨r, hr, fun x hx => ?_, fun text i j => ?_⟩
  · rw [← lexemesOf_optionsOf, hoptions] at hx
    obtain ⟨option, hoption, hx⟩ := Expr.mem_lexemesOf_iff.mp hx
    obtain ⟨choice, hchoice, rfl⟩ := List.mem_map.mp hoption
    obtain ⟨t, ht⟩ := (hstands choice hchoice).exists_lexemeOf? x
      (Expr.mem_lexemesOf_iff.mpr ⟨_, List.mem_singleton.mpr rfl, hx⟩)
    exact ⟨t, ht, fun t' ht' => hunique ht' ht⟩
  · refine hrealizes.rule_iff_matches hbody (Build.getElem?_of_idxOf? hr) ?_
    refine fun t x k m ht => ⟨fun htakes => ⟨t, ht, htakes⟩, ?_⟩
    rintro ⟨t', ht', htakes⟩
    obtain rfl : t = t' := hunique ht ht'
    exact htakes

/-- Two rules that refer to each other from within groups and repetitions. -/
def nestedSource : String :=
  "s: (\"a\" t | s /b+/)* C?\nt: s (\"a\" \"a\")~2..3 |\nC: \"x\"..\"z\"\n"

/-- The right-hand side of the second one. -/
def nestedBody : Expr :=
  .alt [.seq [.name "s", .rep (.seq [.literal "a" false, .literal "a" false]) 2 (some 3)], .seq []]

theorem derives_iff_matches_nested : ∃ ds g r, definitions nestedSource = .ok ds ∧
    compile nestedSource "s" = .ok g ∧ g.ruleNames.idxOf? "t" = some r ∧
      ∀ text i j, g.Derives text r i j ↔
        Matches (ruleBodies ds) (g.TakesLexeme text) [nestedBody] i j := by
  have hcompiles : (compile (ρ := Regex) nestedSource "s").toOption.isSome = true := by
    decide +kernel
  have hreads : (definitions nestedSource).toOption.any (fun ds =>
      ("t", nestedBody) ∈ ruleBodies ds ∧
        ∀ e ∈ ruleBodies ds, ∀ n ∈ e.1 :: e.2.references, ¬helperMark.toList <+: n.toList) =
          true := by decide +kernel
  cases hds : definitions nestedSource with
  | error e => simp [hds, Except.toOption] at hreads
  | ok ds =>
    cases h : compile (ρ := Regex) nestedSource "s" with
    | error e => simp [h, Except.toOption] at hcompiles
    | ok g =>
      obtain ⟨hbody, hplain⟩ : _ ∧ _ := by simpa [hds, Except.toOption] using hreads
      obtain ⟨r, hr, -, hderives⟩ :=
        derives_iff_matches hds h (by simpa [IsPlainName] using hplain) hbody
      exact ⟨ds, g, r, rfl, rfl, hr, hderives⟩

end Grammar

end QueryGate
