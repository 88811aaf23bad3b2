import QueryGate.Proofs.Grammar.Build

/-!
# What the steps of building keep

A property of drafts that the single steps keep (`Build.Stable`) is kept by the steps that build the
symbols and the alternatives of expressions (`preserves_symbolOf_alternatives_symbolsOf`). For a
property of the terminals alone the step that adds one is enough, and it holds of the whole build
(`Build.preserves_rules_of_terminals`).
-/

namespace QueryGate

open Ebnf

namespace Build

variable {ρ α β γ : Type} {I : Draft ρ → Prop} {x : Build ρ α} {f : α → Build ρ β}

/-- A step that keeps a property of drafts where it succeeds. -/
def Preserves (I : Draft ρ → Prop) (x : Build ρ α) : Prop :=
  ∀ d a d', I d → x d = .ok (a, d') → I d'

theorem Preserves.bind (hx : Preserves I x) (hf : ∀ a, Preserves I (f a)) :
    Preserves I (x >>= f) := by
  intro d b d' hd h
  obtain ⟨a, d₁, hrun, h⟩ := bind_eq_ok.mp h
  exact hf a d₁ b d' (hx d a d₁ hd hrun) h

theorem preserves_pure (a : α) : Preserves I (pure a) := by
  intro d b d' hd h
  obtain ⟨-, rfl⟩ := pure_eq_ok.mp h
  exact hd

theorem preserves_forIn {step : γ → Build ρ β} {as : List γ}
    (hstep : ∀ a ∈ as, Preserves I (step a)) : Preserves I (forIn as PUnit.unit fun a _ =>
      step a >>= fun _ => pure (ForInStep.yield PUnit.unit)) := by
  intro d v d' hd h
  have hall := inv_of_forIn (fun left d => left ⊆ as ∧ I d) (fun a left d b d' hinv hrun => ?_)
    ⟨List.Subset.refl _, hd⟩ h
  · exact hall.2
  · obtain ⟨⟨ha, hleft⟩, hd⟩ := hinv.imp_left List.cons_subset.mp
    exact ⟨hleft, hstep a ha d b d' hd hrun⟩

/-! ## Symbols and alternatives -/

/-- A step that writes the pattern of a lexeme. It only adds to what is known about names, and a
quoted text is written as it stands. -/
structure Writes (x : Lexeme) (pattern : Build ρ (List Char)) : Prop where
  eq_resolver : ∀ d p d', pattern d = .ok (p, d') → d' = { d with resolver := d'.resolver }
  literal : ∀ value anyCase, x = .literal value anyCase → ∀ d p d', pattern d = .ok (p, d') →
    p = TerminalPattern.ofLiteral value anyCase

theorem writes_pure {x : Lexeme} {p : List Char}
    (h : ∀ value anyCase, x = .literal value anyCase →
      p = TerminalPattern.ofLiteral value anyCase) : Writes (ρ := ρ) x (pure p) := by
  refine ⟨fun d q d' hrun => ?_, fun value anyCase hx d q d' hrun => ?_⟩
  · obtain ⟨-, rfl⟩ := pure_eq_ok.mp hrun
    rfl
  · obtain ⟨rfl, -⟩ := pure_eq_ok.mp hrun
    exact h value anyCase hx

theorem writes_resolve {name : String} {step : Resolve (List Char)} :
    Writes (ρ := ρ) (.named name) (resolve step) := by
  refine ⟨fun d p d' hrun => ?_, fun _ _ hx => by cases hx⟩
  unfold resolve at hrun
  cases hstep : step d.resolver with
  | error e => simp [hstep, bind, Except.bind] at hrun
  | ok p =>
    simp only [hstep, bind, Except.bind, Except.ok.injEq, Prod.mk.injEq] at hrun
    obtain ⟨-, rfl⟩ := hrun
    rfl

theorem writes_lexemePattern {terminals : List (String × Expr)} {owner : String} (x : Lexeme) :
    Writes (ρ := ρ) x (lexemePattern terminals owner x) := by
  cases x with
  | named name => exact writes_resolve
  | literal value anyCase =>
    refine writes_pure fun value' anyCase' hx => ?_
    cases hx
    rfl
  | pattern | range => exact writes_pure fun _ _ hx => by cases hx

/-- A property of drafts that the single steps keep which add to a rule of `owner`. -/
structure Stable [Scanner ρ] (owner : String) (I : Draft ρ → Prop) : Prop where
  helperRule : Preserves I (helperRule owner)
  reference : ∀ name, Preserves I (reference name owner)
  produce : ∀ r ss, Preserves I (produce r ss)
  terminal : ∀ x pattern, Writes x pattern → Preserves I (terminal x pattern)

variable [Scanner ρ] {owner : String} {terminals : List (String × Expr)}

theorem Stable.repetition (h : Stable owner I) (item : Symbol) (least : Nat) (most : Option Nat) :
    Preserves I (repetition item least most owner) := by
  unfold Build.repetition
  refine h.helperRule.bind fun r => ?_
  cases most with
  | none =>
    exact (h.produce r _).bind fun _ => (h.produce r _).bind fun _ => preserves_pure _
  | some most =>
    exact (preserves_forIn fun count _ => h.produce r (List.replicate count item)).bind
      fun _ => preserves_pure _

theorem Stable.assembles (h : Stable owner I) : Assembles terminals owner (fun _ => Preserves I)
    (fun _ => Preserves I) (fun _ _ => Preserves I) where
  lexeme _ := h.terminal _ _ (writes_lexemePattern _)
  name _ := h.reference _
  seq hparts := h.helperRule.bind fun r => hparts.bind fun ss =>
    (h.produce r ss).bind fun _ => preserves_pure _
  alt hoptions := h.helperRule.bind fun r => (hoptions r).bind fun _ => preserves_pure _
  rep least most hbody := hbody.bind fun item => h.repetition item least most
  nil := preserves_pure _
  flat hparts hes := hparts.bind fun _ => hes.bind fun _ => preserves_pure _
  cons he hes := he.bind fun _ => hes.bind fun _ => preserves_pure _
  noOption _ := preserves_pure _
  option he hes := he.bind fun ss => (h.produce _ ss).bind fun _ => hes

theorem preserves_symbolOf_alternatives_symbolsOf (h : Stable owner I) :
    (∀ e, Preserves I (symbolOf terminals owner e)) ∧
      (∀ r es, Preserves I (alternatives terminals owner r es)) ∧
      ∀ es, Preserves I (symbolsOf terminals owner es) :=
  h.assembles.holds

/-! ## Properties of the terminals -/

section Terminals

variable (hI : ∀ d d' : Draft ρ, d'.terminals = d.terminals → I d → I d')

include hI

omit [Scanner ρ] in
theorem preserves_modify_of_terminals {change : Draft ρ → Draft ρ}
    (hchange : ∀ d, (change d).terminals = d.terminals) : Preserves I (modify change) := by
  intro d u d' hd h
  obtain rfl := modify_eq_ok.mp h
  exact hI d _ (hchange d) hd

omit [Scanner ρ] in
theorem preserves_ruleId_of_terminals (name : String) : Preserves I (ruleId name) := by
  intro d r d' hd h
  rcases cases_of_ruleId h with ⟨-, rfl⟩ | ⟨-, -, rfl⟩
  · exact hd
  · exact hI d _ rfl hd

omit [Scanner ρ] in
theorem preserves_define_of_terminals (r : Nat) : Preserves I (define r) :=
  preserves_modify_of_terminals hI fun _ => rfl

/-- Rules and productions make no difference to a property of the terminals. -/
theorem stable_of_terminals
    (hterminal : ∀ x pattern, Writes x pattern → Preserves I (terminal x pattern)) :
    Stable owner I where
  helperRule := by
    unfold helperRule
    refine Preserves.bind (preserves_modify_of_terminals hI fun _ => rfl) fun _ => ?_
    refine Preserves.bind (fun d e d' hd h => ?_) fun d =>
      (preserves_ruleId_of_terminals hI _).bind fun r =>
        (preserves_define_of_terminals hI r).bind fun _ => preserves_pure r
    obtain ⟨-, rfl⟩ := get_eq_ok.mp h
    exact hd
  reference name := by
    unfold reference
    refine (preserves_ruleId_of_terminals hI name).bind fun r =>
      (preserves_modify_of_terminals hI fun d => ?_).bind fun _ => preserves_pure _
    split_ifs <;> rfl
  produce r ss := preserves_modify_of_terminals hI fun _ => rfl
  terminal := hterminal

theorem preserves_rules_of_terminals
    (hterminal : ∀ x pattern, Writes x pattern → Preserves I (terminal x pattern))
    (c : Collected) : Preserves I (rules c) := by
  have hstable : ∀ owner, Stable owner I := fun _ => stable_of_terminals hI hterminal
  unfold rules
  refine (preserves_forIn fun e _ => preserves_ruleId_of_terminals hI e.1).bind fun _ => ?_
  refine (preserves_forIn fun e _ => ?_).bind fun _ => preserves_pure _
  unfold rule
  exact (preserves_ruleId_of_terminals hI e.1).bind fun r =>
    (preserves_define_of_terminals hI r).bind fun _ =>
      (preserves_symbolOf_alternatives_symbolsOf (hstable e.1)).2.1 r _

end Terminals

end Build

end QueryGate
