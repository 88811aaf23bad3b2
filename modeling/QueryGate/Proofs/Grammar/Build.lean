import Mathlib.Tactic.SplitIfs
import QueryGate.Proofs.Grammar.Recursion

/-!
# Building keeps to the tables

Every production that a step of `Build` adds speaks of rules and terminals that the draft has
(`Draft.Within`), and no step takes a rule or a terminal away. `Draft.Grows` says both; every step
gets its lemma, and `within_of_rules` is about the whole build.
-/

namespace QueryGate

open Ebnf

/-- The rule or the terminal is one of the first so many. -/
def Symbol.Within (rules terminals : Nat) : Symbol → Prop
  | .rule r => r < rules
  | .terminal t => t < terminals

/-- A production speaks of the first so many rules and terminals only. -/
structure Production.Within (rules terminals : Nat) (p : Production) : Prop where
  lhs_lt : p.lhs < rules
  rhs : ∀ s ∈ p.rhs, s.Within rules terminals

namespace Draft

variable {ρ : Type}

/-- The productions of a draft speak of its rules and terminals only. -/
def Within (d : Draft ρ) : Prop :=
  ∀ p ∈ d.productions, p.Within d.ruleNames.size d.terminals.size

/-- A symbol of a draft. -/
def Has (d : Draft ρ) (s : Symbol) : Prop :=
  s.Within d.ruleNames.size d.terminals.size

/-- What building adds to a draft : rules and terminals, and productions that keep to them. -/
structure Grows (d d' : Draft ρ) : Prop where
  rules_le : d.ruleNames.size ≤ d'.ruleNames.size
  terminals_le : d.terminals.size ≤ d'.terminals.size
  within : d.Within → d'.Within

variable {d d' d'' : Draft ρ} {s : Symbol}

theorem Grows.refl (d : Draft ρ) : d.Grows d :=
  ⟨Nat.le_refl _, Nat.le_refl _, id⟩

theorem Grows.trans (h : d.Grows d') (h' : d'.Grows d'') : d.Grows d'' :=
  ⟨Nat.le_trans h.rules_le h'.rules_le, Nat.le_trans h.terminals_le h'.terminals_le,
    fun hd => h'.within (h.within hd)⟩

theorem Grows.has (h : d.Grows d') (hs : d.Has s) : d'.Has s := by
  cases s with
  | rule r => exact Nat.lt_of_lt_of_le hs h.rules_le
  | terminal t => exact Nat.lt_of_lt_of_le hs h.terminals_le

/-- Productions stay what they are while there are more rules and terminals. -/
theorem grows_of_productions_eq (hrules : d.ruleNames.size ≤ d'.ruleNames.size)
    (hterminals : d.terminals.size ≤ d'.terminals.size) (hps : d'.productions = d.productions) :
    d.Grows d' := by
  refine ⟨hrules, hterminals, fun hd p hp => ?_⟩
  have hwithin := hd p (hps ▸ hp)
  refine ⟨Nat.lt_of_lt_of_le hwithin.lhs_lt hrules, fun s hs => ?_⟩
  have hs := hwithin.rhs s hs
  cases s with
  | rule r => exact Nat.lt_of_lt_of_le hs hrules
  | terminal t => exact Nat.lt_of_lt_of_le hs hterminals

end Draft

theorem except_bind_eq_ok {ε α β : Type} {x : Except ε α} {f : α → Except ε β} {b : β} :
    (x >>= f) = .ok b ↔ ∃ a, x = .ok a ∧ f a = .ok b := by
  cases x <;> simp [bind, Except.bind]

/-- A run that has been evaluated. -/
theorem exists_ok_of_any {ε α : Type} {x : Except ε α} {p : α → Prop} [DecidablePred p]
    (h : x.toOption.any (fun a => p a) = true) : ∃ a, x = .ok a ∧ p a := by
  cases x with
  | error e => simp [Except.toOption] at h
  | ok a => exact ⟨a, rfl, of_decide_eq_true h⟩

namespace Build

variable {ρ α β : Type} {d d' : Draft ρ} {a a' : α} {b : β} {x : Build ρ α} {f : α → Build ρ β}

/-! ## Runs of steps -/

theorem bind_eq_ok {σ : Type} {s s' : σ} {x : StateT σ (Except GrammarError) α}
    {f : α → StateT σ (Except GrammarError) β} : (x >>= f) s = .ok (b, s') ↔
      ∃ a s₁, x s = .ok (a, s₁) ∧ f a s₁ = .ok (b, s') := by
  change (x s >>= fun p => f p.1 p.2) = .ok (b, s') ↔ _
  rw [except_bind_eq_ok, Prod.exists]

theorem pure_eq_ok : (pure a : Build ρ α) d = .ok (a', d') ↔ a = a' ∧ d = d' := by
  change Except.ok (a, d) = Except.ok (a', d') ↔ _
  rw [Except.ok.injEq, Prod.mk.injEq]

theorem get_eq_ok {e : Draft ρ} : (get : Build ρ (Draft ρ)) d = .ok (e, d') ↔ d = e ∧ d = d' :=
  pure_eq_ok

theorem set_eq_ok {e : Draft ρ} {u : PUnit} : (set e : Build ρ PUnit) d = .ok (u, d') ↔ e = d' := by
  change Except.ok (PUnit.unit, e) = Except.ok (u, d') ↔ _
  simp

theorem modify_eq_ok {change : Draft ρ → Draft ρ} {u : PUnit} :
    (modify change : Build ρ PUnit) d = .ok (u, d') ↔ change d = d' := by
  change Except.ok (PUnit.unit, change d) = Except.ok (u, d') ↔ _
  simp

/-! ## Rules and terminals -/

variable {name owner : String} {r least count : Nat} {most : Option Nat} {s : Symbol}
  {ss : List Symbol} {u : Unit} {terminals : List (String × Expr)}

theorem getElem?_of_idxOf? {xs : Array String} {i : Nat} (h : xs.idxOf? name = some i) :
    xs[i]? = some name := by
  rw [Array.idxOf?_eq_map_finIdxOf?_val] at h
  obtain ⟨i, hfin, rfl⟩ := Option.map_eq_some_iff.mp h
  rw [Array.getElem?_eq_getElem i.isLt]
  exact congrArg some (Array.finIdxOf?_eq_some_iff.mp hfin).1

theorem cases_of_ruleId (h : ruleId name d = .ok (r, d')) :
    (d.ruleNames[r]? = some name ∧ d' = d) ∨
      (name ∉ d.ruleNames ∧ r = d.ruleNames.size ∧
        d' = { d with ruleNames := d.ruleNames.push name, defined := d.defined.push false }) := by
  unfold ruleId at h
  obtain ⟨_, _, hget, h⟩ := bind_eq_ok.mp h
  obtain ⟨rfl, rfl⟩ := get_eq_ok.mp hget
  cases hi : d.ruleNames.idxOf? name with
  | some i =>
    rw [hi] at h
    obtain ⟨rfl, rfl⟩ := pure_eq_ok.mp h
    exact Or.inl ⟨getElem?_of_idxOf? hi, rfl⟩
  | none =>
    rw [hi] at h
    obtain ⟨_, _, hset, h⟩ := bind_eq_ok.mp h
    obtain rfl := set_eq_ok.mp hset
    obtain ⟨rfl, rfl⟩ := pure_eq_ok.mp h
    exact Or.inr ⟨Array.idxOf?_eq_none_iff.mp hi, rfl, rfl⟩

theorem grows_ruleId (h : ruleId name d = .ok (r, d')) :
    d.Grows d' ∧ r < d'.ruleNames.size := by
  rcases cases_of_ruleId h with ⟨hr, rfl⟩ | ⟨-, rfl, rfl⟩
  · exact ⟨.refl _, (Array.getElem?_eq_some_iff.mp hr).1⟩
  · have hsize : d.ruleNames.size < (d.ruleNames.push name).size := by
      rw [Array.size_push]
      exact Nat.lt_succ_self _
    exact ⟨Draft.grows_of_productions_eq (Nat.le_of_lt hsize) (Nat.le_refl _) rfl, hsize⟩

theorem grows_define (h : define r d = .ok (u, d')) :
    d.Grows d' ∧ d'.ruleNames = d.ruleNames := by
  obtain rfl := modify_eq_ok.mp h
  exact ⟨Draft.grows_of_productions_eq (Nat.le_refl _) (Nat.le_refl _) rfl, rfl⟩

/-- A rule for a group or a repetition is one more, with its number in its name. -/
theorem exists_of_helperRule (h : helperRule owner d = .ok (r, d')) : ∃ d₁ : Draft ρ,
    ruleId (Grammar.helperMark ++ owner ++ "_" ++ toString (d.helpers + 1))
      { d with helpers := d.helpers + 1 } = .ok (r, d₁) ∧ define r d₁ = .ok ((), d') := by
  unfold helperRule at h
  obtain ⟨_, d₁, hcount, h⟩ := bind_eq_ok.mp h
  obtain ⟨_, _, hget, h⟩ := bind_eq_ok.mp h
  obtain rfl := modify_eq_ok.mp hcount
  obtain ⟨rfl, rfl⟩ := get_eq_ok.mp hget
  obtain ⟨r, d₂, hid, h⟩ := bind_eq_ok.mp h
  obtain ⟨_, d₃, hdefine, h⟩ := bind_eq_ok.mp h
  obtain ⟨rfl, rfl⟩ := pure_eq_ok.mp h
  exact ⟨d₂, hid, hdefine⟩

theorem grows_helperRule (h : helperRule owner d = .ok (r, d')) :
    d.Grows d' ∧ r < d'.ruleNames.size := by
  obtain ⟨d₁, hid, hdefine⟩ := exists_of_helperRule h
  obtain ⟨hgrows, hr⟩ := grows_ruleId hid
  obtain ⟨hgrows', heq⟩ := grows_define hdefine
  have hcounted : d.Grows { d with helpers := d.helpers + 1 } :=
    Draft.grows_of_productions_eq (Nat.le_refl _) (Nat.le_refl _) rfl
  exact ⟨(hcounted.trans hgrows).trans hgrows', heq ▸ hr⟩

theorem grows_produce (hr : r < d.ruleNames.size) (hss : ∀ s ∈ ss, d.Has s)
    (h : produce r ss d = .ok (u, d')) : d.Grows d' := by
  obtain rfl := modify_eq_ok.mp h
  refine ⟨Nat.le_refl _, Nat.le_refl _, fun hd p hp => ?_⟩
  rcases Array.mem_push.mp hp with hp | rfl
  · exact hd p hp
  · exact ⟨hr, hss⟩

theorem grows_resolve {step : Resolve α} (h : resolve step d = .ok (a, d')) : d.Grows d' := by
  unfold resolve at h
  cases hstep : step d.resolver with
  | error e => simp [hstep, bind, Except.bind] at h
  | ok p =>
    simp only [hstep, bind, Except.bind, Except.ok.injEq, Prod.mk.injEq] at h
    obtain ⟨-, rfl⟩ := h
    exact Draft.grows_of_productions_eq (Nat.le_refl _) (Nat.le_refl _) rfl

theorem monadLift_eq_ok {e : Except GrammarError α} :
    (liftM e : Build ρ α) d = .ok (a, d') ↔ e = .ok a ∧ d = d' := by
  change (e >>= fun a => .ok (a, d)) = .ok (a, d') ↔ _
  cases e <;> simp [bind, Except.bind]

theorem grows_reference (h : reference name owner d = .ok (s, d')) : d.Grows d' ∧ d'.Has s := by
  unfold reference at h
  obtain ⟨r, d₁, hid, h⟩ := bind_eq_ok.mp h
  obtain ⟨_, d₂, huse, h⟩ := bind_eq_ok.mp h
  obtain rfl := modify_eq_ok.mp huse
  obtain ⟨rfl, rfl⟩ := pure_eq_ok.mp h
  obtain ⟨hgrows, hr⟩ := grows_ruleId hid
  have hrules : ∀ d₂ : Draft ρ, d₂ = d₁ ∨ d₂ = { d₁ with firstUse := (r, owner) :: d₁.firstUse } →
      d.Grows d₂ ∧ d₂.Has (.rule r) := by
    rintro d₂ (rfl | rfl)
    · exact ⟨hgrows, hr⟩
    · exact ⟨hgrows.trans (Draft.grows_of_productions_eq (Nat.le_refl _) (Nat.le_refl _) rfl), hr⟩
  split_ifs
  · exact hrules _ (Or.inl rfl)
  · exact hrules _ (Or.inr rfl)

/-! ## Productions -/

/-- What every step of a loop preserves, given what is left to do, holds behind the loop. -/
theorem inv_of_forIn {γ : Type} {step : γ → Build ρ β} (Inv : List γ → Draft ρ → Prop)
    (hstep : ∀ a as d b d', Inv (a :: as) d → step a d = .ok (b, d') → Inv as d') {as : List γ}
    (hd : Inv as d) {v : PUnit}
    (h : (forIn as PUnit.unit fun a _ =>
      step a >>= fun _ => pure (ForInStep.yield PUnit.unit)) d = .ok (v, d')) : Inv [] d' := by
  induction as generalizing d with
  | nil =>
    obtain ⟨-, rfl⟩ := pure_eq_ok.mp h
    exact hd
  | cons a as ih =>
    rw [List.forIn_cons] at h
    obtain ⟨_, _, hbody, h⟩ := bind_eq_ok.mp h
    obtain ⟨b, d₁, hrun, hyield⟩ := bind_eq_ok.mp hbody
    obtain ⟨rfl, rfl⟩ := pure_eq_ok.mp hyield
    exact ih (hstep a as d b d₁ hd hrun) h

/-- A loop adds what its steps add. -/
theorem grows_forIn {γ : Type} (step : γ → Build ρ β) (as : List γ) {d₀ : Draft ρ}
    (hstep : ∀ a d b d', d₀.Grows d → step a d = .ok (b, d') → d.Grows d')
    (hd : d₀.Grows d) {v : PUnit}
    (h : (forIn as PUnit.unit fun a _ =>
      step a >>= fun _ => pure (ForInStep.yield PUnit.unit)) d = .ok (v, d')) : d₀.Grows d' :=
  inv_of_forIn (fun _ d => d₀.Grows d)
    (fun a _ d b d' hd hrun => hd.trans (hstep a d b d' hd hrun)) hd h

theorem grows_repetition {item : Symbol} (hitem : d.Has item)
    (h : repetition item least most owner d = .ok (s, d')) : d.Grows d' ∧ d'.Has s := by
  unfold repetition at h
  obtain ⟨r, d₁, hid, h⟩ := bind_eq_ok.mp h
  obtain ⟨hgrows, hr⟩ := grows_helperRule hid
  -- copies of the item can be added to whatever the draft has become
  have hproduce : ∀ (count : Nat) (d₂ : Draft ρ) (u : Unit) (d₃ : Draft ρ), d₁.Grows d₂ →
      produce r (List.replicate count item) d₂ = .ok (u, d₃) → d₂.Grows d₃ := by
    intro count d₂ u d₃ hd₂ hrun
    refine grows_produce (hd₂.has (s := .rule r) hr) (fun s hs => ?_) hrun
    rw [List.eq_of_mem_replicate hs]
    exact hd₂.has (hgrows.has hitem)
  cases most with
  | none =>
    obtain ⟨_, d₂, hcopies, h⟩ := bind_eq_ok.mp h
    obtain ⟨_, d₃, hloop, h⟩ := bind_eq_ok.mp h
    obtain ⟨rfl, rfl⟩ := pure_eq_ok.mp h
    have hgrows₂ := hproduce least d₁ _ d₂ (.refl _) hcopies
    have hgrows₃ : d₂.Grows d₃ := by
      refine grows_produce (hgrows₂.has (s := .rule r) hr) (fun s hs => ?_) hloop
      rcases List.mem_cons.mp hs with rfl | hs
      · exact hgrows₂.has (s := .rule r) hr
      · rw [List.mem_singleton.mp hs]
        exact hgrows₂.has (hgrows.has hitem)
    have hgrows' := hgrows₂.trans hgrows₃
    exact ⟨hgrows.trans hgrows', hgrows'.has (s := .rule r) hr⟩
  | some most =>
    obtain ⟨_, d₂, hloop, h⟩ := bind_eq_ok.mp h
    obtain ⟨rfl, rfl⟩ := pure_eq_ok.mp h
    have hgrows' := grows_forIn _ _ hproduce (.refl _) hloop
    exact ⟨hgrows.trans hgrows', hgrows'.has (s := .rule r) hr⟩

theorem grows_lexemePattern {x : Lexeme} {p : List Char}
    (h : lexemePattern terminals owner x d = .ok (p, d')) : d.Grows d' := by
  cases x with
  | named name => exact grows_resolve h
  | literal | pattern | range =>
    obtain ⟨-, rfl⟩ := pure_eq_ok.mp h
    exact .refl _

/-! ## Expressions -/

variable [Scanner ρ]

/-- What the step for a terminal does : the lexeme has one, or its pattern is compiled. -/
theorem cases_of_terminal {x : Lexeme} {pattern : Build ρ (List Char)}
    (h : terminal x pattern d = .ok (s, d')) :
    (∃ i, (d.terminals.findIdx? fun t => t.lexeme == x) = some i ∧ s = .terminal i ∧ d' = d) ∨
      (d.terminals.findIdx? fun t => t.lexeme == x) = none ∧ ∃ source d₁ regex,
        pattern d = .ok (source, d₁) ∧ anchored x.display source = .ok regex ∧
        s = .terminal d₁.terminals.size ∧
        d' = { d₁ with terminals := d₁.terminals.push ⟨x, regex⟩ } := by
  unfold terminal at h
  obtain ⟨_, _, hget, h⟩ := bind_eq_ok.mp h
  obtain ⟨rfl, rfl⟩ := get_eq_ok.mp hget
  cases hi : d.terminals.findIdx? fun t => t.lexeme == x with
  | some i =>
    rw [hi] at h
    obtain ⟨rfl, rfl⟩ := pure_eq_ok.mp h
    exact Or.inl ⟨i, rfl, rfl, rfl⟩
  | none =>
    rw [hi] at h
    obtain ⟨source, d₁, hsource, h⟩ := bind_eq_ok.mp h
    obtain ⟨regex, d₂, hregex, h⟩ := bind_eq_ok.mp h
    obtain ⟨hcompiled, rfl⟩ := monadLift_eq_ok.mp hregex
    obtain ⟨_, _, hget, h⟩ := bind_eq_ok.mp h
    obtain ⟨rfl, rfl⟩ := get_eq_ok.mp hget
    obtain ⟨_, _, hset, h⟩ := bind_eq_ok.mp h
    obtain rfl := set_eq_ok.mp hset
    obtain ⟨rfl, rfl⟩ := pure_eq_ok.mp h
    exact Or.inr ⟨rfl, source, d₁, regex, hsource, hcompiled, rfl, rfl⟩

theorem grows_terminal {x : Lexeme} {pattern : Build ρ (List Char)}
    (hpattern : ∀ d p d', pattern d = .ok (p, d') → d.Grows d')
    (h : terminal x pattern d = .ok (s, d')) : d.Grows d' ∧ d'.Has s := by
  rcases cases_of_terminal h with ⟨i, hi, rfl, rfl⟩ |
    ⟨-, source, d₁, regex, hsource, -, rfl, rfl⟩
  · exact ⟨.refl _, (Array.findIdx?_eq_some_iff_getElem.mp hi).1⟩
  · have hsize : d₁.terminals.size < (d₁.terminals.push ⟨x, regex⟩).size := by
      rw [Array.size_push]
      exact Nat.lt_succ_self _
    exact ⟨(hpattern d source d₁ hsource).trans
      (Draft.grows_of_productions_eq (Nat.le_refl _) (Nat.le_of_lt hsize) rfl), hsize⟩

theorem assembles_grows : Assembles (ρ := ρ) terminals owner
    (fun _ x => ∀ d s d', x d = .ok (s, d') → d.Grows d' ∧ d'.Has s)
    (fun _ x => ∀ d ss d', x d = .ok (ss, d') → d.Grows d' ∧ ∀ s ∈ ss, d'.Has s)
    (fun r _ x => ∀ d u d', r < d.ruleNames.size → x d = .ok (u, d') → d.Grows d') where
  lexeme _ d s d' h := grows_terminal (fun _ _ _ => grows_lexemePattern) h
  name _ d s d' h := grows_reference h
  seq hparts d s d' h := by
    obtain ⟨r, d₁, hid, h⟩ := bind_eq_ok.mp h
    obtain ⟨ss, d₂, hbuild, h⟩ := bind_eq_ok.mp h
    obtain ⟨_, d₃, hproduce, h⟩ := bind_eq_ok.mp h
    obtain ⟨rfl, rfl⟩ := pure_eq_ok.mp h
    obtain ⟨hgrows₁, hr⟩ := grows_helperRule hid
    obtain ⟨hgrows₂, hss⟩ := hparts _ _ _ hbuild
    have hr₂ : d₂.Has (.rule r) := hgrows₂.has (s := .rule r) hr
    have hgrows₃ := grows_produce hr₂ hss hproduce
    exact ⟨(hgrows₁.trans hgrows₂).trans hgrows₃, hgrows₃.has hr₂⟩
  alt hoptions d s d' h := by
    obtain ⟨r, d₁, hid, h⟩ := bind_eq_ok.mp h
    obtain ⟨_, d₂, hbuild, h⟩ := bind_eq_ok.mp h
    obtain ⟨rfl, rfl⟩ := pure_eq_ok.mp h
    obtain ⟨hgrows₁, hr⟩ := grows_helperRule hid
    have hgrows₂ := hoptions r _ _ _ hr hbuild
    exact ⟨hgrows₁.trans hgrows₂, hgrows₂.has (s := .rule r) hr⟩
  rep least most hbody d s d' h := by
    obtain ⟨item, d₁, hbuild, h⟩ := bind_eq_ok.mp h
    obtain ⟨hgrows₁, hitem⟩ := hbody _ _ _ hbuild
    obtain ⟨hgrows₂, hs⟩ := grows_repetition hitem h
    exact ⟨hgrows₁.trans hgrows₂, hs⟩
  nil d ss d' h := by
    obtain ⟨rfl, rfl⟩ := pure_eq_ok.mp h
    exact ⟨.refl d, by simp⟩
  flat hparts hes d ss d' h := by
    obtain ⟨inner, d₁, hinner, h⟩ := bind_eq_ok.mp h
    obtain ⟨rest, d₂, hrest, h⟩ := bind_eq_ok.mp h
    obtain ⟨rfl, rfl⟩ := pure_eq_ok.mp h
    obtain ⟨hgrows₁, hss₁⟩ := hparts _ _ _ hinner
    obtain ⟨hgrows₂, hss₂⟩ := hes _ _ _ hrest
    exact ⟨hgrows₁.trans hgrows₂,
      List.forall_mem_append.mpr ⟨fun s hs => hgrows₂.has (hss₁ s hs), hss₂⟩⟩
  cons he hes d ss d' h := by
    obtain ⟨s, d₁, hsymbol, h⟩ := bind_eq_ok.mp h
    obtain ⟨rest, d₂, hrest, h⟩ := bind_eq_ok.mp h
    obtain ⟨rfl, rfl⟩ := pure_eq_ok.mp h
    obtain ⟨hgrows₁, hs⟩ := he _ _ _ hsymbol
    obtain ⟨hgrows₂, hss⟩ := hes _ _ _ hrest
    exact ⟨hgrows₁.trans hgrows₂, List.forall_mem_cons.mpr ⟨hgrows₂.has hs, hss⟩⟩
  noOption r d u d' _ h := by
    obtain ⟨-, rfl⟩ := pure_eq_ok.mp h
    exact .refl d
  option he hes d u d' hr h := by
    obtain ⟨ss, d₁, hbuild, h⟩ := bind_eq_ok.mp h
    obtain ⟨_, d₂, hproduce, h⟩ := bind_eq_ok.mp h
    obtain ⟨hgrows₁, hss⟩ := he _ _ _ hbuild
    have hr₁ : d₁.Has (.rule _) := hgrows₁.has (s := .rule _) hr
    have hgrows₂ := grows_produce hr₁ hss hproduce
    exact (hgrows₁.trans hgrows₂).trans (hes _ _ _ (hgrows₂.has hr₁) h)

/-- The symbols of expressions are symbols of the draft, and the productions of groups and
repetitions keep to it. -/
theorem grows_symbolOf_alternatives_symbolsOf :
    (∀ e, ∀ (d : Draft ρ) s d', symbolOf terminals owner e d = .ok (s, d') →
        d.Grows d' ∧ d'.Has s) ∧
      (∀ r es, ∀ (d : Draft ρ) u d', r < d.ruleNames.size →
        alternatives terminals owner r es d = .ok (u, d') → d.Grows d') ∧
      ∀ es, ∀ (d : Draft ρ) ss d', symbolsOf terminals owner es d = .ok (ss, d') →
        d.Grows d' ∧ ∀ s ∈ ss, d'.Has s :=
  assembles_grows.holds

theorem grows_rule {body : Expr} (h : rule terminals name body d = .ok (u, d')) : d.Grows d' := by
  unfold rule at h
  obtain ⟨r, d₁, hid, h⟩ := bind_eq_ok.mp h
  obtain ⟨_, d₂, hdefine, h⟩ := bind_eq_ok.mp h
  obtain ⟨hgrows₁, hr⟩ := grows_ruleId hid
  obtain ⟨hgrows₂, hnames⟩ := grows_define hdefine
  exact (hgrows₁.trans hgrows₂).trans
    (grows_symbolOf_alternatives_symbolsOf.2.1 r _ _ _ _ (hnames ▸ hr) h)

/-- The whole build starts with nothing, so all productions keep to the tables. -/
theorem within_of_rules {c : Collected} (h : rules c {} = .ok (u, d')) : d'.Within := by
  unfold rules at h
  obtain ⟨_, d₁, hnames, h⟩ := bind_eq_ok.mp h
  obtain ⟨_, d₂, hbodies, h⟩ := bind_eq_ok.mp h
  obtain ⟨-, rfl⟩ := pure_eq_ok.mp h
  have hgrows₁ : Draft.Grows {} d₁ :=
    grows_forIn (fun e : String × Expr => ruleId e.1) _
      (fun _ _ _ _ _ h => (grows_ruleId h).1) (.refl _) hnames
  have hgrows₂ : d₁.Grows d₂ :=
    grows_forIn (fun e : String × Expr => rule c.terminals e.1 e.2) _
      (fun _ _ _ _ _ h => grows_rule h) (.refl _) hbodies
  exact (hgrows₁.trans hgrows₂).within fun p hp => absurd hp (by simp)

end Build

end QueryGate
