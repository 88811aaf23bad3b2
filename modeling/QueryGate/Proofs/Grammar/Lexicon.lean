import QueryGate.Proofs.Grammar.Stands

/-!
# Terminals of a draft

Every terminal of a draft has the expression its lexeme reads (`Lexeme.Reads`, `Draft.Lexical`), and
building succeeds where all lexemes of the source can be read (`total_rules`). Of the terminals with
a name only those are dealt with whose expressions refer to no other names (`IsPlain`).
-/

namespace QueryGate

open Ebnf

/-! ## Patterns -/

namespace TerminalPattern

variable {terminals : List (String × Expr)} {name owner : String} {p p' : List Char}
  {known : Resolver}

/-- The pattern of a terminal name whose expression refers to no names. -/
def IsPlain (terminals : List (String × Expr)) (name : String) (p : List Char) : Prop :=
  ∃ e, terminals.lookup name = some e ∧ ∀ named owner, patternOf named owner e = pure p

theorem IsPlain.unique (h : IsPlain terminals name p) (h' : IsPlain terminals name p') :
    p = p' := by
  obtain ⟨e, he, hp⟩ := h
  obtain ⟨e', he', hp'⟩ := h'
  obtain rfl := Option.some.inj (he.symm.trans he')
  have heq : (pure p : Resolve (List Char)) {} = (pure p' : Resolve (List Char)) {} := by
    rw [← hp (fun _ _ => pure []) "", ← hp' (fun _ _ => pure []) ""]
  exact congrArg Prod.fst (Except.ok.inj heq)

/-- No pattern is being written, and those that are known are right. -/
structure Knows (terminals : List (String × Expr)) (known : Resolver) : Prop where
  idle : known.inProgress = []
  resolved : ∀ name p, known.resolved.lookup name = some p → IsPlain terminals name p

theorem get_bind_apply {α : Type} (f : Resolver → Resolve α) : (get >>= f) known = f known known :=
  rfl

theorem namedPattern_of_resolved {fuel : Nat} (h : known.resolved.lookup name = some p) :
    namedPattern terminals fuel name owner known = .ok (p, known) := by
  simp only [namedPattern, get_bind_apply, h]
  rfl

theorem namedPattern_of_lookup_none {fuel : Nat} (h : known.resolved.lookup name = none)
    (he : terminals.lookup name = none) :
    namedPattern terminals fuel name owner known = .error (.undefined name owner) := by
  unfold TerminalPattern.namedPattern
  simp only [get_bind_apply, h, he]
  rfl

theorem namedPattern_of_mem_inProgress {fuel : Nat} {e : Expr}
    (h : known.resolved.lookup name = none) (he : terminals.lookup name = some e)
    (hbusy : name ∈ known.inProgress) :
    namedPattern terminals fuel name owner known = .error (.badTerminal name .refersToItself) := by
  unfold TerminalPattern.namedPattern
  simp only [get_bind_apply, h, he, List.contains_iff_mem, if_pos hbusy]
  rfl

theorem namedPattern_of_lookup {fuel : Nat} {e : Expr} (h : known.resolved.lookup name = none)
    (he : terminals.lookup name = some e) (hfree : name ∉ known.inProgress) :
    namedPattern terminals (fuel + 1) name owner known =
      (patternOf (namedPattern terminals fuel) name e
          { known with inProgress := name :: known.inProgress } >>=
        fun found => .ok (found.1, ⟨(name, found.1) :: found.2.resolved,
          found.2.inProgress.erase name⟩)) := by
  simp only [namedPattern, get_bind_apply, h, he, List.contains_iff_mem, if_neg hfree]
  rfl

theorem ofName_of_isPlain (owner : String) (hk : Knows terminals known)
    (h : IsPlain terminals name p) :
    ∃ known', ofName terminals name owner known = .ok (p, known') ∧ Knows terminals known' := by
  cases hlookup : known.resolved.lookup name with
  | some p' =>
    obtain rfl := h.unique (hk.resolved name p' hlookup)
    exact ⟨known, namedPattern_of_resolved hlookup, hk⟩
  | none =>
    have hplain := h
    obtain ⟨e, he, hp⟩ := h
    refine ⟨⟨(name, p) :: known.resolved, []⟩, ?_, rfl, fun name' p' h' => ?_⟩
    · rw [ofName, namedPattern_of_lookup hlookup he (by simp [hk.idle]), hp, hk.idle]
      change Except.ok (p, (⟨(name, p) :: known.resolved, [name].erase name⟩ : Resolver)) = _
      simp
    · rw [List.lookup_cons] at h'
      split at h'
      · next heq =>
        obtain rfl := Option.some.inj h'
        exact beq_iff_eq.mp heq ▸ hplain
      · exact hk.resolved name' p' h'

end TerminalPattern

/-! ## Lexemes -/

namespace Lexeme

variable {terminals : List (String × Expr)} {x : Lexeme} {p p' : List Char} {r r' : Regex}

/-- The pattern of a lexeme. -/
def IsWritten (terminals : List (String × Expr)) : Lexeme → List Char → Prop
  | named name, p => TerminalPattern.IsPlain terminals name p
  | literal value anyCase, p => p = TerminalPattern.ofLiteral value anyCase
  | pattern source flags, p => p = TerminalPattern.ofPattern source flags
  | range source, p => p = source.toList

theorem IsWritten.unique (h : x.IsWritten terminals p) (h' : x.IsWritten terminals p') :
    p = p' := by
  cases x with
  | named name => exact TerminalPattern.IsPlain.unique h h'
  | _ => exact Eq.trans h (Eq.symm h')

/-- The expression that reads a lexeme. -/
def Reads (terminals : List (String × Expr)) (x : Lexeme) (r : Regex) : Prop :=
  ∃ p, x.IsWritten terminals p ∧ Build.anchored x.display p = .ok r

theorem Reads.unique (h : x.Reads terminals r) (h' : x.Reads terminals r') : r = r' := by
  obtain ⟨p, hp, hr⟩ := h
  obtain ⟨p', hp', hr'⟩ := h'
  obtain rfl := hp.unique hp'
  exact Except.ok.inj (hr.symm.trans hr')

end Lexeme

namespace Ebnf.Expr

mutual

/-- The lexemes in an expression. -/
def lexemes : Expr → List Lexeme
  | .seq parts => lexemesOf parts
  | .alt options => lexemesOf options
  | .rep body _ _ => lexemes body
  | e => e.lexeme?.toList

/-- The lexemes in expressions. -/
def lexemesOf : List Expr → List Lexeme
  | [] => []
  | e :: es => lexemes e ++ lexemesOf es

end

theorem lexemes_of_lexeme? {e : Expr} {x : Lexeme} (h : e.lexeme? = some x) : e.lexemes = [x] := by
  cases e <;> simp_all [lexeme?, lexemes]

theorem mem_lexemesOf_iff {x : Lexeme} {es : List Expr} :
    x ∈ lexemesOf es ↔ ∃ e ∈ es, x ∈ lexemes e := by
  induction es with
  | nil => simp [lexemesOf]
  | cons e es ih => simp [lexemesOf, ih]

end Ebnf.Expr

/-- The resolver of a draft knows what it has written, and its terminals have the expressions their
lexemes read. -/
structure Draft.Lexical (terminals : List (String × Expr)) (d : Draft Regex) : Prop where
  knows : TerminalPattern.Knows terminals d.resolver
  reads : ∀ t ∈ d.terminals, t.lexeme.Reads terminals t.regex

/-! ## Steps that succeed -/

namespace Build

variable {α β γ : Type} {I : Draft Regex → Prop} {x : Build Regex α} {f : α → Build Regex β}

/-- A step that succeeds in every draft with a property, and keeps the property. -/
def Total (I : Draft Regex → Prop) (x : Build Regex α) : Prop :=
  ∀ d, I d → ∃ a d', x d = .ok (a, d') ∧ I d'

theorem Total.bind (hx : Total I x) (hf : ∀ a, Total I (f a)) : Total I (x >>= f) := by
  intro d hd
  obtain ⟨a, d₁, hrun, hd₁⟩ := hx d hd
  obtain ⟨b, d₂, hrun', hd₂⟩ := hf a d₁ hd₁
  exact ⟨b, d₂, bind_eq_ok.mpr ⟨a, d₁, hrun, hrun'⟩, hd₂⟩

theorem total_pure (a : α) : Total I (pure a) :=
  fun d hd => ⟨a, d, rfl, hd⟩

theorem total_modify {change : Draft Regex → Draft Regex} (h : ∀ d, I d → I (change d)) :
    Total I (modify change) :=
  fun d hd => ⟨_, _, rfl, h d hd⟩

theorem total_forIn (step : γ → Build Regex β) {as : List γ} (h : ∀ a ∈ as, Total I (step a)) :
    Total I (forIn as PUnit.unit fun a _ =>
      step a >>= fun _ => pure (ForInStep.yield PUnit.unit)) := by
  induction as with
  | nil => exact total_pure _
  | cons a as ih =>
    rw [List.forIn_cons]
    refine Total.bind (Total.bind (h a (List.mem_cons_self ..)) fun _ => total_pure _)
      fun next => ?_
    cases next with
    | done u => exact total_pure u
    | yield u => exact ih fun a' ha' => h a' (List.mem_cons_of_mem _ ha')

variable {terminals : List (String × Expr)} {owner name : String} {r least : Nat} {ss : List Symbol}
  {most : Option Nat} {item : Symbol}

/-- What building does to rules and productions leaves the terminals alone. -/
theorem lexical_of_eq {d d' : Draft Regex} (h : d.Lexical terminals)
    (hterminals : d'.terminals = d.terminals) (hresolver : d'.resolver = d.resolver) :
    d'.Lexical terminals :=
  ⟨hresolver ▸ h.knows, hterminals ▸ h.reads⟩

theorem total_ruleId (name : String) : Total (Draft.Lexical terminals) (ruleId name) := by
  intro d hd
  unfold ruleId
  cases hi : d.ruleNames.idxOf? name with
  | some i => exact ⟨i, d, bind_eq_ok.mpr ⟨d, d, rfl, by rw [hi]; rfl⟩, hd⟩
  | none =>
    let d' : Draft Regex :=
      { d with ruleNames := d.ruleNames.push name, defined := d.defined.push false }
    exact ⟨d.ruleNames.size, d', bind_eq_ok.mpr ⟨d, d, rfl, by rw [hi]; rfl⟩,
      lexical_of_eq hd rfl rfl⟩

theorem total_define (r : Nat) : Total (Draft.Lexical terminals) (define r) :=
  total_modify fun _ hd => lexical_of_eq hd rfl rfl

theorem total_produce (r : Nat) (ss : List Symbol) :
    Total (Draft.Lexical terminals) (produce r ss) :=
  total_modify fun _ hd => lexical_of_eq hd rfl rfl

theorem total_helperRule (owner : String) : Total (Draft.Lexical terminals) (helperRule owner) := by
  unfold helperRule
  refine Total.bind (total_modify fun _ hd => lexical_of_eq hd rfl rfl) fun _ => ?_
  refine Total.bind (fun d hd => ⟨d, d, rfl, hd⟩) fun d => ?_
  refine Total.bind (total_ruleId _) fun r => ?_
  exact Total.bind (total_define r) fun _ => total_pure r

theorem total_reference (name owner : String) :
    Total (Draft.Lexical terminals) (reference name owner) := by
  unfold reference
  refine Total.bind (total_ruleId name) fun r => ?_
  refine Total.bind (total_modify fun d hd => ?_) fun _ => total_pure _
  split_ifs
  · exact hd
  · exact lexical_of_eq hd rfl rfl

theorem total_repetition (item : Symbol) (least : Nat) (most : Option Nat) (owner : String) :
    Total (Draft.Lexical terminals) (repetition item least most owner) := by
  unfold repetition
  refine Total.bind (total_helperRule owner) fun r => ?_
  cases most with
  | none =>
    exact Total.bind (total_produce r _) fun _ =>
      Total.bind (total_produce r _) fun _ => total_pure _
  | some most =>
    exact Total.bind (total_forIn _ fun count _ => total_produce r (List.replicate count item))
      fun _ => total_pure _

/-- A terminal whose lexeme can be read. -/
theorem total_terminal {x : Lexeme} {pattern : Build Regex (List Char)}
    (hpattern : ∀ d : Draft Regex, d.Lexical terminals → ∃ p d', pattern d = .ok (p, d') ∧
      d'.Lexical terminals ∧ x.IsWritten terminals p)
    (hx : ∃ r, x.Reads terminals r) : Total (Draft.Lexical terminals) (terminal x pattern) := by
  intro d hd
  unfold terminal
  cases hi : d.terminals.findIdx? fun t => t.lexeme == x with
  | some i => exact ⟨.terminal i, d, bind_eq_ok.mpr ⟨d, d, rfl, by rw [hi]; rfl⟩, hd⟩
  | none =>
    obtain ⟨p, d₁, hrun, hd₁, hp⟩ := hpattern d hd
    obtain ⟨r, p', hp', hr⟩ := hx
    obtain rfl := hp.unique hp'
    refine ⟨.terminal d₁.terminals.size, { d₁ with terminals := d₁.terminals.push ⟨x, r⟩ },
      bind_eq_ok.mpr ⟨d, d, rfl, ?_⟩, hd₁.knows, fun t ht => ?_⟩
    · rw [hi]
      exact bind_eq_ok.mpr ⟨p, d₁, hrun,
        bind_eq_ok.mpr ⟨r, d₁, monadLift_eq_ok.mpr ⟨hr, rfl⟩, rfl⟩⟩
    · rcases Array.mem_push.mp ht with ht | rfl
      · exact hd₁.reads t ht
      · exact ⟨p, hp, hr⟩

/-- The pattern of a terminal name is found by the resolver. -/
theorem exists_resolve_of_isPlain {d : Draft Regex} {p : List Char} (owner : String)
    (hd : d.Lexical terminals) (h : TerminalPattern.IsPlain terminals name p) :
    ∃ d', resolve (TerminalPattern.ofName terminals name owner) d = .ok (p, d') ∧
      d'.Lexical terminals := by
  obtain ⟨known, hrun, hknown⟩ := TerminalPattern.ofName_of_isPlain owner hd.knows h
  refine ⟨{ d with resolver := known }, ?_, hknown, hd.reads⟩
  unfold resolve
  rw [hrun]
  rfl

/-- The pattern of a lexeme that can be read is written. -/
theorem exists_lexemePattern_of_isWritten {x : Lexeme} {d : Draft Regex} {p : List Char}
    (hd : d.Lexical terminals) (h : x.IsWritten terminals p) :
    ∃ d', lexemePattern terminals owner x d = .ok (p, d') ∧ d'.Lexical terminals := by
  cases x with
  | named name => exact exists_resolve_of_isPlain owner hd h
  | literal | pattern | range =>
    obtain rfl := h
    exact ⟨d, rfl, hd⟩

theorem assembles_total : Assembles terminals owner
    (fun e x => (∀ y ∈ e.lexemes, ∃ r, y.Reads terminals r) → Total (Draft.Lexical terminals) x)
    (fun es x => (∀ y ∈ Expr.lexemesOf es, ∃ r, y.Reads terminals r) →
      Total (Draft.Lexical terminals) x)
    (fun _ es x => (∀ y ∈ Expr.lexemesOf es, ∃ r, y.Reads terminals r) →
      Total (Draft.Lexical terminals) x) where
  lexeme {e x} hx hread := by
    rw [Expr.lexemes_of_lexeme? hx, List.forall_mem_singleton] at hread
    refine total_terminal (fun d hd => ?_) hread
    obtain ⟨r, p, hp, -⟩ := hread
    obtain ⟨d', hrun, hd'⟩ := exists_lexemePattern_of_isWritten hd hp
    exact ⟨p, d', hrun, hd', hp⟩
  name _ _ := total_reference _ owner
  seq hparts hread := (total_helperRule owner).bind fun r => (hparts hread).bind fun ss =>
    (total_produce r ss).bind fun _ => total_pure _
  alt hoptions hread := (total_helperRule owner).bind fun r =>
    (hoptions r hread).bind fun _ => total_pure _
  rep least most hbody hread := (hbody hread).bind fun item =>
    total_repetition item least most owner
  nil _ := total_pure _
  flat hparts hes hread := by
    rw [Expr.lexemesOf, List.forall_mem_append] at hread
    exact (hparts hread.1).bind fun _ => (hes hread.2).bind fun _ => total_pure _
  cons he hes hread := by
    rw [Expr.lexemesOf, List.forall_mem_append] at hread
    exact (he hread.1).bind fun _ => (hes hread.2).bind fun _ => total_pure _
  noOption _ _ := total_pure _
  option he hes hread := by
    rw [Expr.lexemesOf, List.forall_mem_append] at hread
    refine (he ?_).bind fun ss => (total_produce _ ss).bind fun _ => hes hread.2
    simpa [Expr.lexemesOf] using hread.1

/-- Building the symbols of expressions succeeds where their lexemes can be read. -/
theorem total_symbolOf_alternatives_symbolsOf :
    (∀ e : Expr, (∀ x ∈ e.lexemes, ∃ r, x.Reads terminals r) →
        Total (Draft.Lexical terminals) (symbolOf terminals owner e)) ∧
      (∀ r es, (∀ x ∈ Expr.lexemesOf es, ∃ r, x.Reads terminals r) →
        Total (Draft.Lexical terminals) (alternatives terminals owner r es)) ∧
      ∀ es, (∀ x ∈ Expr.lexemesOf es, ∃ r, x.Reads terminals r) →
        Total (Draft.Lexical terminals) (symbolsOf terminals owner es) :=
  assembles_total.holds

end Build

end QueryGate
