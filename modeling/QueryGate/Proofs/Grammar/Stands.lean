import QueryGate.Proofs.Grammar.Fresh

/-!
# What the symbols of a draft stand for

`Stands d es ss made` : in the draft `d` the symbols `ss` are those of the expressions `es`, one
after the other, and the rules `made` those of the groups and repetitions in them. The steps that
build productions give such symbols (`gives_symbolOf_alternatives_symbolsOf`), and they stand for
the same expressions in every later draft (`Stands.keeps`).
-/

namespace QueryGate

open Ebnf

namespace Ebnf.Expr

mutual

/-- The names of rules an expression refers to. -/
def references : Expr → List String
  | .name symbol => if isTerminalName symbol then [] else [symbol]
  | .seq parts => referencesOf parts
  | .alt options => referencesOf options
  | .rep body _ _ => references body
  | _ => []

/-- The names of rules that expressions refer to. -/
def referencesOf : List Expr → List String
  | [] => []
  | e :: es => references e ++ referencesOf es

end

theorem mem_referencesOf_iff {n : String} {es : List Expr} :
    n ∈ referencesOf es ↔ ∃ e ∈ es, n ∈ references e := by
  induction es with
  | nil => simp [referencesOf]
  | cons e es ih => simp [referencesOf, ih]

end Ebnf.Expr

/-- The right-hand sides of the rule `r` for repetitions of an item. -/
def repetitionsOf (r : Nat) (item : Symbol) (least : Nat) : Option Nat → List (List Symbol)
  | none => [List.replicate least item, [.rule r, item]]
  | some most => (List.range' least (max most least + 1 - least)).map (List.replicate · item)

/-- An alternative of a rule with its symbols and the rules made for it. -/
structure Choice where
  expr : Expr
  rhs : List Symbol
  made : List Nat

/-- Symbols stand for expressions, and these rules have been made for the groups and repetitions in
them. Sequences are taken apart, or have a rule of their own. The productions of every rule that has
been made are those of its group or its repetition. -/
inductive Stands (d : Draft ρ) : List Expr → List Symbol → List Nat → Prop
  | nil : Stands d [] [] []
  | lexeme {e : Expr} {es : List Expr} {x : Lexeme} {t : Nat} {ss : List Symbol} {made : List Nat}
      (hx : e.lexeme? = some x) (ht : d.lexemeOf? t = some x) (hs : Stands d es ss made) :
      Stands d (e :: es) (.terminal t :: ss) made
  | name {n : String} {es : List Expr} {r : Nat} {ss : List Symbol} {made : List Nat}
      (hn : isTerminalName n = false) (hr : d.ruleNames[r]? = some n)
      (hs : Stands d es ss made) : Stands d (.name n :: es) (.rule r :: ss) made
  | flat {parts es : List Expr} {ss : List Symbol} {made : List Nat}
      (h : Stands d (parts ++ es) ss made) : Stands d (.seq parts :: es) ss made
  | seq {parts es : List Expr} {r : Nat} {rhs ss : List Symbol} {inner made : List Nat}
      (hr : d.alternativesOf r = [rhs]) (h : Stands d parts rhs inner)
      (hs : Stands d es ss made) :
      Stands d (.seq parts :: es) (.rule r :: ss) (r :: inner ++ made)
  | alt {es : List Expr} {r : Nat} {ss : List Symbol} {made : List Nat} (choices : List Choice)
      (hr : d.alternativesOf r = choices.map (·.rhs))
      (h : ∀ choice ∈ choices, Stands d [choice.expr] choice.rhs choice.made)
      (hs : Stands d es ss made) : Stands d (.alt (choices.map (·.expr)) :: es)
        (.rule r :: ss) (r :: choices.flatMap (·.made) ++ made)
  | rep {body : Expr} {least : Nat} {most : Option Nat} {es : List Expr} {r : Nat} {item : Symbol}
      {ss : List Symbol} {inner made : List Nat}
      (hr : d.alternativesOf r = repetitionsOf r item least most)
      (h : Stands d [body] [item] inner) (hs : Stands d es ss made) :
      Stands d (.rep body least most :: es) (.rule r :: ss) (inner ++ [r] ++ made)

variable {ρ : Type} {d d' : Draft ρ} {b : Nat} {es es' : List Expr} {ss ss' : List Symbol}
  {made made' : List Nat} {touched : Nat → Prop}

/-- Symbols stand for the same as long as the rules made for them are left alone. -/
theorem Stands.keeps (h : Stands d es ss made) (hmade : ∀ r ∈ made, d.Made b r)
    (hkeeps : d.Keeps touched d') (htouched : ∀ r, touched r → r < b) :
    Stands d' es ss made := by
  have heq : ∀ {r : Nat}, d.Made b r → d'.alternativesOf r = d.alternativesOf r := fun hr =>
    hkeeps.alternatives _ hr.lt fun ht => Nat.not_lt_of_le hr.le (htouched _ ht)
  induction h with
  | nil => exact .nil
  | lexeme hx ht _ ih => exact .lexeme hx (hkeeps.lexemeOf? ht) (ih hmade)
  | name hn hr _ ih => exact .name hn (hkeeps.ruleNames hr) (ih hmade)
  | flat _ ih => exact .flat (ih hmade)
  | seq hr _ _ ih ihs =>
    obtain ⟨hown, hmade⟩ := List.forall_mem_append.mp hmade
    obtain ⟨hfirst, hinner⟩ := List.forall_mem_cons.mp hown
    exact .seq ((heq hfirst).trans hr) (ih hinner) (ihs hmade)
  | alt choices hr _ _ ih ihs =>
    obtain ⟨hown, hmade⟩ := List.forall_mem_append.mp hmade
    obtain ⟨hfirst, hinner⟩ := List.forall_mem_cons.mp hown
    exact .alt choices ((heq hfirst).trans hr) (fun choice hchoice => ih choice hchoice
      fun r hr => hinner r (List.mem_flatMap.mpr ⟨choice, hchoice, hr⟩)) (ihs hmade)
  | rep hr _ _ ih ihs =>
    obtain ⟨hown, hmade⟩ := List.forall_mem_append.mp hmade
    obtain ⟨hinner, hlast⟩ := List.forall_mem_append.mp hown
    exact .rep ((heq (hlast _ (List.mem_singleton.mpr rfl))).trans hr) (ih hinner) (ihs hmade)

theorem Stands.append (h : Stands d es ss made) (h' : Stands d es' ss' made') :
    Stands d (es ++ es') (ss ++ ss') (made ++ made') := by
  induction h with
  | nil => exact h'
  | lexeme hx ht _ ih => exact .lexeme hx ht ih
  | name hn hr _ ih => exact .name hn hr ih
  | flat _ ih =>
    rw [List.append_assoc] at ih
    exact .flat ih
  | seq hr h _ _ ih =>
    rw [List.append_assoc]
    exact .seq hr h ih
  | alt choices hr h _ _ ih =>
    rw [List.append_assoc]
    exact .alt choices hr h ih
  | rep hr h _ _ ih =>
    rw [List.append_assoc]
    exact .rep hr h ih

theorem Stands.replicate {e : Expr} {s : Symbol} (h : Stands d [e] [s] made) (n : Nat) :
    Stands d (List.replicate n e) (List.replicate n s) (List.replicate n made).flatten := by
  induction n with
  | zero => exact .nil
  | succ n ih => exact h.append ih

/-- What stands for expressions is in the draft. -/
theorem Stands.has (h : Stands d es ss made) (hmade : ∀ r ∈ made, d.Made b r) :
    ∀ s ∈ ss, d.Has s := by
  induction h with
  | nil => exact fun s hs => absurd hs List.not_mem_nil
  | lexeme _ ht _ ih =>
    obtain ⟨y, hy, -⟩ := Option.map_eq_some_iff.mp ht
    exact List.forall_mem_cons.mpr ⟨(Array.getElem?_eq_some_iff.mp hy).1, ih hmade⟩
  | name _ hr _ ih =>
    exact List.forall_mem_cons.mpr ⟨(Array.getElem?_eq_some_iff.mp hr).1, ih hmade⟩
  | flat _ ih => exact ih hmade
  | seq _ _ _ _ ihs | alt _ _ _ _ _ ihs =>
    obtain ⟨hown, hmade⟩ := List.forall_mem_append.mp hmade
    exact List.forall_mem_cons.mpr ⟨(hown _ (List.mem_cons_self ..)).lt, ihs hmade⟩
  | rep _ _ _ _ ihs =>
    obtain ⟨hown, hmade⟩ := List.forall_mem_append.mp hmade
    exact List.forall_mem_cons.mpr ⟨(hown _ List.mem_concat_self).lt, ihs hmade⟩

/-! ## Building -/

namespace Build

variable {names : List String} {terminals : List (String × Expr)} {owner : String}

/-- What a step gives that adds the symbols of expressions to a draft. -/
structure Gives (names : List String) (d d' : Draft ρ) (es : List Expr) (ss : List Symbol) :
    Prop where
  tidy : d'.Tidy names
  keeps : d.Keeps untouched d'
  stands : ∃ made, Stands d' es ss made ∧ d.Adds names d' made

/-- What a step gives that adds productions of the rule `r` for expressions to a draft. -/
structure GivesRule (names : List String) (d d' : Draft ρ) (r : Nat) (es : List Expr) : Prop where
  tidy : d'.Tidy names
  keeps : d.Keeps (· = r) d'
  alternatives : ∃ choices : List Choice, es = choices.map (·.expr) ∧
    d'.alternativesOf r = d.alternativesOf r ++ choices.map (·.rhs) ∧
    (∀ choice ∈ choices, Stands d' [choice.expr] choice.rhs choice.made) ∧
    d.Adds names d' (choices.flatMap (·.made))

theorem Gives.has (h : Gives names d d' es ss) : ∀ s ∈ ss, d'.Has s := by
  obtain ⟨made, hstands, hadds⟩ := h.stands
  exact hstands.has hadds.forall_made

theorem Gives.append {d₁ : Draft ρ} (h : Gives names d d₁ es ss) (h' : Gives names d₁ d' es' ss') :
    Gives names d d' (es ++ es') (ss ++ ss') := by
  obtain ⟨made, hstands, hadds⟩ := h.stands
  obtain ⟨made', hstands', hadds'⟩ := h'.stands
  exact ⟨h'.tidy, h.keeps.trans h'.keeps, made ++ made',
    (hstands.keeps hadds.forall_made h'.keeps fun _ => False.elim).append hstands',
    hadds.append h.keeps.size_le h'.keeps hadds'⟩

/-- So far a rule has been given copies of an item, and these numbers are left. -/
structure Copied (names : List String) (d : Draft ρ) (r : Nat) (item : Symbol)
    (counts left : List Nat) (d₁ : Draft ρ) : Prop where
  tidy : d₁.Tidy names
  keeps : d.Keeps (· = r) d₁
  ruleNames : d₁.ruleNames = d.ruleNames
  has : d₁.Has item
  alternatives : d₁.alternativesOf r ++ left.map (List.replicate · item) =
    d.alternativesOf r ++ counts.map (List.replicate · item)

theorem Copied.produce {d₁ d₂ : Draft ρ} {r count : Nat} {item : Symbol} {counts left : List Nat}
    {u : Unit} (hr : r < d.ruleNames.size) (h : Copied names d r item counts (count :: left) d₁)
    (hproduce : produce r (List.replicate count item) d₁ = .ok (u, d₂)) :
    Copied names d r item counts left d₂ := by
  have hcopies : ∀ s ∈ List.replicate count item, d₁.Has s := fun s hs =>
    List.eq_of_mem_replicate hs ▸ h.has
  have hr₁ : r < d₁.ruleNames.size := Nat.lt_of_lt_of_le hr h.keeps.size_le
  obtain ⟨ht, hkeeps, halternatives⟩ := tidy_produce h.tidy hr₁ hcopies hproduce
  refine ⟨ht, h.keeps.trans hkeeps, (ruleNames_of_produce hproduce).trans h.ruleNames,
    (grows_produce hr₁ hcopies hproduce).has h.has, ?_⟩
  rw [halternatives, List.append_assoc, ← h.alternatives]
  rfl

/-- A loop adds the numbers of copies it is given. -/
theorem tidy_copies {item : Symbol} {r : Nat} {counts : List Nat} (ht : d.Tidy names)
    (hr : r < d.ruleNames.size) (hitem : d.Has item) {v : PUnit}
    (h : (forIn counts PUnit.unit fun count _ =>
      produce r (List.replicate count item) >>= fun _ => pure (ForInStep.yield PUnit.unit)) d =
        .ok (v, d')) :
    d'.Tidy names ∧ d.Keeps (· = r) d' ∧ d'.ruleNames = d.ruleNames ∧
      d'.alternativesOf r = d.alternativesOf r ++ counts.map (List.replicate · item) := by
  have hall := inv_of_forIn (Copied names d r item counts)
    (fun _ _ _ _ _ hd hrun => hd.produce hr hrun) ⟨ht, .refl _ _, rfl, hitem, rfl⟩ h
  exact ⟨hall.tidy, hall.keeps, hall.ruleNames, by simpa using hall.alternatives⟩

/-- The productions of a repetition. -/
theorem keeps_repetition (hfresh : ∀ number, helperName owner number ∉ names) {item s : Symbol}
    {least : Nat} {most : Option Nat} {d₁ : Draft ρ} (ht : d₁.Tidy names) (hitem : d₁.Has item)
    (h : repetition item least most owner d₁ = .ok (s, d')) :
    d'.Tidy names ∧ d₁.Keeps untouched d' ∧ ∃ r, s = .rule r ∧ d₁.Adds names d' [r] ∧
      d'.alternativesOf r = repetitionsOf r item least most := by
  unfold repetition at h
  obtain ⟨r, d₂, hid, h⟩ := bind_eq_ok.mp h
  have hmakes := makes_helperRule hfresh ht hid
  have hitem₂ : d₂.Has item := (grows_helperRule hid).1.has hitem
  cases most with
  | none =>
    obtain ⟨_, d₃, hcopies, h⟩ := bind_eq_ok.mp h
    obtain ⟨_, d₄, hloop, h⟩ := bind_eq_ok.mp h
    obtain ⟨rfl, rfl⟩ := pure_eq_ok.mp h
    have hall : ∀ s ∈ List.replicate least item, d₂.Has s := fun s hs =>
      List.eq_of_mem_replicate hs ▸ hitem₂
    obtain ⟨ht₃, hkeeps₃, halternatives₃⟩ := tidy_produce hmakes.tidy hmakes.lt hall hcopies
    have hgrows := grows_produce hmakes.lt hall hcopies
    have hr₃ : r < d₃.ruleNames.size := Nat.lt_of_lt_of_le hmakes.lt hkeeps₃.size_le
    obtain ⟨ht₄, hkeeps₄, halternatives₄⟩ := tidy_produce ht₃ hr₃ (by
      simp only [List.mem_cons, List.not_mem_nil, or_false, forall_eq_or_imp, forall_eq]
      exact ⟨hr₃, hgrows.has hitem₂⟩) hloop
    have hnames : d₄.ruleNames = d₂.ruleNames :=
      (ruleNames_of_produce hloop).trans (ruleNames_of_produce hcopies)
    refine ⟨ht₄, hmakes.keeps_trans (hkeeps₃.trans hkeeps₄), r, rfl, hmakes.adds.of_eq hnames, ?_⟩
    rw [halternatives₄, halternatives₃, hmakes.alternatives]
    rfl
  | some most =>
    obtain ⟨_, d₃, hloop, h⟩ := bind_eq_ok.mp h
    obtain ⟨rfl, rfl⟩ := pure_eq_ok.mp h
    obtain ⟨ht₃, hkeeps₃, hnames, halternatives⟩ := tidy_copies hmakes.tidy hmakes.lt hitem₂ hloop
    refine ⟨ht₃, hmakes.keeps_trans hkeeps₃, r, rfl, hmakes.adds.of_eq hnames, ?_⟩
    rw [halternatives, hmakes.alternatives]
    rfl

/-- One production more, and the productions for the expressions behind it. -/
theorem Gives.cons {d₁ d₂ : Draft ρ} {r : Nat} {e : Expr} {rhs : List Symbol} {u : Unit}
    (hr : r < d.ruleNames.size) (h : Gives names d d₁ [e] rhs)
    (hproduce : produce r rhs d₁ = .ok (u, d₂)) (hrest : GivesRule names d₂ d' r es) :
    GivesRule names d d' r (e :: es) := by
  obtain ⟨-, hkeeps₂, halternatives⟩ :=
    tidy_produce h.tidy (Nat.lt_of_lt_of_le hr h.keeps.size_le) h.has hproduce
  obtain ⟨made, hstands, hadds⟩ := h.stands
  obtain ⟨choices, rfl, hchoices, hrestStands, hrestAdds⟩ := hrest.alternatives
  have hkeeps : d₁.Keeps (· = r) d' := hkeeps₂.trans hrest.keeps
  have htouched : ∀ r', r' = r → r' < d.ruleNames.size := fun r' hr' => hr' ▸ hr
  refine ⟨hrest.tidy, (h.keeps.mono fun _ _ => False.elim).trans hkeeps,
    ⟨e, rhs, made⟩ :: choices, rfl, ?_,
    List.forall_mem_cons.mpr ⟨hstands.keeps hadds.forall_made hkeeps htouched, hrestStands⟩, ?_⟩
  · rw [hchoices, halternatives, h.keeps.alternatives r hr id, List.append_assoc]
    rfl
  · exact (hadds.of_eq (ruleNames_of_produce hproduce)).append
      (Nat.le_trans h.keeps.size_le hkeeps₂.size_le) hrest.keeps hrestAdds

/-- A sequence with a rule of its own, which gets one production. -/
theorem Gives.seq {d₁ d₂ : Draft ρ} {r : Nat} {u : Unit} (hmakes : Makes names d d₁ r)
    (h : Gives names d₁ d₂ es ss) (hproduce : produce r ss d₂ = .ok (u, d')) :
    Gives names d d' [.seq es] [.rule r] := by
  obtain ⟨inner, hstands, hadds⟩ := h.stands
  obtain ⟨ht, hkeeps, halternatives⟩ :=
    tidy_produce h.tidy (Nat.lt_of_lt_of_le hmakes.lt h.keeps.size_le) h.has hproduce
  rw [h.keeps.alternatives r hmakes.lt id, hmakes.alternatives] at halternatives
  have hkeeps₁ : d₁.Keeps (· = r) d' := (h.keeps.mono fun _ _ => False.elim).trans hkeeps
  have hinner : Stands d' es ss inner :=
    hstands.keeps hadds.forall_made hkeeps fun r' hr' => hr' ▸ hmakes.lt
  have hseq : Stands d' [.seq es] [.rule r] (r :: inner ++ []) :=
    .seq halternatives hinner .nil
  rw [List.append_nil] at hseq
  exact ⟨ht, hmakes.keeps_trans hkeeps₁, _, hseq, hmakes.adds.append hmakes.keeps.size_le
    hkeeps₁ (hadds.of_eq (ruleNames_of_produce hproduce))⟩

/-- A choice, whose rule gets the productions of its options. -/
theorem GivesRule.alt {d₁ : Draft ρ} {r : Nat} (hmakes : Makes names d d₁ r)
    (h : GivesRule names d₁ d' r es) : Gives names d d' [.alt es] [.rule r] := by
  obtain ⟨choices, rfl, halternatives, hstands, hadds⟩ := h.alternatives
  rw [hmakes.alternatives, List.nil_append] at halternatives
  have halt : Stands d' [.alt (choices.map (·.expr))] [.rule r]
      (r :: choices.flatMap (·.made) ++ []) := .alt choices halternatives hstands .nil
  rw [List.append_nil] at halt
  exact ⟨h.tidy, hmakes.keeps_trans h.keeps, _, halt,
    hmakes.adds.append hmakes.keeps.size_le h.keeps hadds⟩

/-- A repetition of what one symbol stands for. -/
theorem Gives.rep (hfresh : ∀ number, helperName owner number ∉ names) {d₁ : Draft ρ} {body : Expr}
    {item s : Symbol} {least : Nat} {most : Option Nat} (h : Gives names d d₁ [body] [item])
    (hrun : repetition item least most owner d₁ = .ok (s, d')) :
    Gives names d d' [.rep body least most] [s] := by
  obtain ⟨inner, hstands, hadds⟩ := h.stands
  obtain ⟨ht, hkeeps, r, rfl, hadds', halternatives⟩ :=
    keeps_repetition hfresh h.tidy (h.has item (List.mem_singleton.mpr rfl)) hrun
  have hrep : Stands d' [.rep body least most] [.rule r] (inner ++ [r] ++ []) :=
    .rep halternatives (hstands.keeps hadds.forall_made hkeeps fun _ => False.elim) .nil
  rw [List.append_nil] at hrep
  exact ⟨ht, h.keeps.trans hkeeps, _, hrep, hadds.append h.keeps.size_le hkeeps hadds'⟩

variable [Scanner ρ]

/-- A terminal alone. -/
theorem gives_terminal {e : Expr} {x : Lexeme} {s : Symbol} {pattern : Build ρ (List Char)}
    (ht : d.Tidy names) (hx : e.lexeme? = some x) (hpattern : Writes x pattern)
    (h : terminal x pattern d = .ok (s, d')) : Gives names d d' [e] [s] := by
  obtain ⟨ht', hkeeps, hnames, t, rfl, hlexeme⟩ := tidy_terminal ht hpattern h
  exact ⟨ht', hkeeps, [], .lexeme hx hlexeme .nil, Draft.adds_of_eq hnames⟩

theorem assembles_gives (hfresh : ∀ number, helperName owner number ∉ names) :
    Assembles (ρ := ρ) terminals owner
      (fun e x => ∀ d s d', d.Tidy names → e.references ⊆ names → x d = .ok (s, d') →
        Gives names d d' [e] [s])
      (fun es x => ∀ d ss d', d.Tidy names → Expr.referencesOf es ⊆ names → x d = .ok (ss, d') →
        Gives names d d' es ss)
      (fun r es x => ∀ d u d', d.Tidy names → r < d.ruleNames.size →
        Expr.referencesOf es ⊆ names → x d = .ok (u, d') → GivesRule names d d' r es) where
  lexeme hx d s d' ht _ h := gives_terminal ht hx (writes_lexemePattern _) h
  name hn d s d' ht href h := by
    rw [Expr.references, if_neg (Bool.eq_false_iff.mp hn)] at href
    obtain ⟨ht', hkeeps, hadds, r, rfl, hr⟩ :=
      tidy_reference ht (href (List.mem_singleton.mpr rfl)) h
    exact ⟨ht', hkeeps, [], .name hn hr .nil, hadds⟩
  seq hparts d s d' ht href h := by
    obtain ⟨r, d₁, hid, h⟩ := bind_eq_ok.mp h
    obtain ⟨ss, d₂, hbuild, h⟩ := bind_eq_ok.mp h
    obtain ⟨_, d₃, hproduce, h⟩ := bind_eq_ok.mp h
    obtain ⟨rfl, rfl⟩ := pure_eq_ok.mp h
    have hmakes := makes_helperRule hfresh ht hid
    exact (hparts _ _ _ hmakes.tidy href hbuild).seq hmakes hproduce
  alt hoptions d s d' ht href h := by
    obtain ⟨r, d₁, hid, h⟩ := bind_eq_ok.mp h
    obtain ⟨_, d₂, hbuild, h⟩ := bind_eq_ok.mp h
    obtain ⟨rfl, rfl⟩ := pure_eq_ok.mp h
    have hmakes := makes_helperRule hfresh ht hid
    exact (hoptions r _ _ _ hmakes.tidy hmakes.lt href hbuild).alt hmakes
  rep least most hbody d s d' ht href h := by
    obtain ⟨item, d₁, hbuild, h⟩ := bind_eq_ok.mp h
    exact (hbody _ _ _ ht href hbuild).rep hfresh h
  nil d ss d' ht _ h := by
    obtain ⟨rfl, rfl⟩ := pure_eq_ok.mp h
    exact ⟨ht, .refl _ _, [], .nil, Draft.adds_of_eq rfl⟩
  flat hparts hes d ss d' ht href h := by
    obtain ⟨inner, d₁, hinner, h⟩ := bind_eq_ok.mp h
    obtain ⟨rest, d₂, hrest, h⟩ := bind_eq_ok.mp h
    obtain ⟨rfl, rfl⟩ := pure_eq_ok.mp h
    rw [Expr.referencesOf, List.append_subset] at href
    have hgives := hparts _ _ _ ht href.1 hinner
    have hall := hgives.append (hes _ _ _ hgives.tidy href.2 hrest)
    obtain ⟨made, hstands, hadds⟩ := hall.stands
    exact ⟨hall.tidy, hall.keeps, made, .flat hstands, hadds⟩
  cons he hes d ss d' ht href h := by
    obtain ⟨s, d₁, hsymbol, h⟩ := bind_eq_ok.mp h
    obtain ⟨rest, d₂, hrest, h⟩ := bind_eq_ok.mp h
    obtain ⟨rfl, rfl⟩ := pure_eq_ok.mp h
    rw [Expr.referencesOf, List.append_subset] at href
    have hgives := he _ _ _ ht href.1 hsymbol
    exact hgives.append (hes _ _ _ hgives.tidy href.2 hrest)
  noOption r d u d' ht _ _ h := by
    obtain ⟨-, rfl⟩ := pure_eq_ok.mp h
    exact ⟨ht, .refl _ _, [], rfl, by simp, by simp, Draft.adds_of_eq rfl⟩
  option he hes d u d' ht hr href h := by
    obtain ⟨ss, d₁, hbuild, h⟩ := bind_eq_ok.mp h
    obtain ⟨_, d₂, hproduce, h⟩ := bind_eq_ok.mp h
    rw [Expr.referencesOf, List.append_subset] at href
    have hgives := he _ _ _ ht (by simpa [Expr.referencesOf] using href.1) hbuild
    have hr₁ := Nat.lt_of_lt_of_le hr hgives.keeps.size_le
    obtain ⟨ht₂, hkeeps₂, -⟩ := tidy_produce hgives.tidy hr₁ hgives.has hproduce
    have hrest := hes _ _ _ ht₂ (Nat.lt_of_lt_of_le hr₁ hkeeps₂.size_le) href.2 h
    exact hgives.cons hr hproduce hrest

/-- The steps give symbols that stand for their expressions, and productions for all
alternatives. -/
theorem gives_symbolOf_alternatives_symbolsOf
    (hfresh : ∀ number, helperName owner number ∉ names) :
    (∀ e, ∀ (d : Draft ρ) s d', d.Tidy names → e.references ⊆ names →
        symbolOf terminals owner e d = .ok (s, d') → Gives names d d' [e] [s]) ∧
      (∀ r es, ∀ (d : Draft ρ) u d', d.Tidy names → r < d.ruleNames.size →
        Expr.referencesOf es ⊆ names →
        alternatives terminals owner r es d = .ok (u, d') → GivesRule names d d' r es) ∧
      ∀ es, ∀ (d : Draft ρ) ss d', d.Tidy names → Expr.referencesOf es ⊆ names →
        symbolsOf terminals owner es d = .ok (ss, d') → Gives names d d' es ss :=
  (assembles_gives hfresh).holds

end Build

end QueryGate
