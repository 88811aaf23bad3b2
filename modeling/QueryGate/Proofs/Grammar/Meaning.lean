import Mathlib.Data.List.Nodup
import Mathlib.Data.Nat.Init
import QueryGate.Proofs.Grammar.Derivation
import QueryGate.Proofs.Grammar.Rules

/-!
# The meaning of expressions

`Matches rules takes es i j` : the expressions match the piece of a text from one position to
another, one after the other, where `takes x k m` says that the lexeme `x` takes the piece from `k`
to `m`. The productions of a draft derive what the expressions match that they were made for.

* `matches_append_iff` : expressions one after the other match neighbouring pieces;
* `spans_iff_matches` : symbols derive what the expressions match that they stand for;
* `Draft.Realizes.rule_iff_matches` : a rule of the source derives what its right-hand side
  matches.
-/

namespace QueryGate

open Ebnf

/-- Expressions match a piece of a text one after the other. -/
inductive Matches (rules : List (String × Expr)) (takes : Lexeme → Nat → Nat → Prop) :
    List Expr → Nat → Nat → Prop
  | nil (i : Nat) : Matches rules takes [] i i
  | lexeme {e : Expr} {es : List Expr} {x : Lexeme} {i k j : Nat} (hx : e.lexeme? = some x)
      (ht : takes x i k) (hs : Matches rules takes es k j) : Matches rules takes (e :: es) i j
  | name {n : String} {body : Expr} {es : List Expr} {i k j : Nat} (hn : isTerminalName n = false)
      (hr : (n, body) ∈ rules) (h : Matches rules takes [body] i k)
      (hs : Matches rules takes es k j) : Matches rules takes (.name n :: es) i j
  | seq {parts es : List Expr} {i j : Nat} (h : Matches rules takes (parts ++ es) i j) :
      Matches rules takes (.seq parts :: es) i j
  | alt {e : Expr} {options es : List Expr} {i j : Nat} (he : e ∈ options)
      (h : Matches rules takes (e :: es) i j) : Matches rules takes (.alt options :: es) i j
  | rep {body : Expr} {least n : Nat} {most : Option Nat} {es : List Expr} {i j : Nat}
      (hleast : least ≤ n) (hmost : ∀ m ∈ most, n ≤ max m least)
      (h : Matches rules takes (List.replicate n body ++ es) i j) :
      Matches rules takes (.rep body least most :: es) i j

variable {rules : List (String × Expr)} {takes : Lexeme → Nat → Nat → Prop} {e : Expr}
  {es es' : List Expr} {i j k : Nat}

theorem Matches.append (h : Matches rules takes es i k) (h' : Matches rules takes es' k j) :
    Matches rules takes (es ++ es') i j := by
  induction h with
  | nil => exact h'
  | lexeme hx ht _ ih => exact .lexeme hx ht (ih h')
  | name hn hr h _ _ ih => exact .name hn hr h (ih h')
  | seq _ ih =>
    rw [List.append_assoc] at ih
    exact .seq (ih h')
  | alt he _ ih => exact .alt he (ih h')
  | rep hleast hmost _ ih =>
    rw [List.append_assoc] at ih
    exact .rep hleast hmost (ih h')

theorem matches_append_iff : Matches rules takes (es ++ es') i j ↔
    ∃ k, Matches rules takes es i k ∧ Matches rules takes es' k j := by
  constructor
  · intro h
    generalize hall : es ++ es' = all at h
    induction h generalizing es with
    | nil i =>
      obtain ⟨rfl, rfl⟩ := List.append_eq_nil_iff.mp hall
      exact ⟨i, .nil i, .nil i⟩
    | lexeme hx ht hs ih =>
      rcases List.append_eq_cons_iff.mp hall with ⟨rfl, rfl⟩ | ⟨tail, rfl, rfl⟩
      · exact ⟨_, .nil _, .lexeme hx ht hs⟩
      · obtain ⟨k, hleft, hright⟩ := ih rfl
        exact ⟨k, .lexeme hx ht hleft, hright⟩
    | name hn hr h hs _ ih =>
      rcases List.append_eq_cons_iff.mp hall with ⟨rfl, rfl⟩ | ⟨tail, rfl, rfl⟩
      · exact ⟨_, .nil _, .name hn hr h hs⟩
      · obtain ⟨k, hleft, hright⟩ := ih rfl
        exact ⟨k, .name hn hr h hleft, hright⟩
    | seq h ih =>
      rcases List.append_eq_cons_iff.mp hall with ⟨rfl, rfl⟩ | ⟨tail, rfl, rfl⟩
      · exact ⟨_, .nil _, .seq h⟩
      · obtain ⟨k, hleft, hright⟩ := ih (List.append_assoc ..)
        exact ⟨k, .seq hleft, hright⟩
    | alt he h ih =>
      rcases List.append_eq_cons_iff.mp hall with ⟨rfl, rfl⟩ | ⟨tail, rfl, rfl⟩
      · exact ⟨_, .nil _, .alt he h⟩
      · obtain ⟨k, hleft, hright⟩ := ih (List.cons_append ..)
        exact ⟨k, .alt he hleft, hright⟩
    | rep hleast hmost h ih =>
      rcases List.append_eq_cons_iff.mp hall with ⟨rfl, rfl⟩ | ⟨tail, rfl, rfl⟩
      · exact ⟨_, .nil _, .rep hleast hmost h⟩
      · obtain ⟨k, hleft, hright⟩ := ih (List.append_assoc ..)
        exact ⟨k, .rep hleast hmost hleft, hright⟩
  · rintro ⟨k, h, h'⟩
    exact h.append h'

theorem matches_nil_iff : Matches rules takes [] i j ↔ i = j := by
  constructor
  · intro h
    cases h
    rfl
  · rintro rfl
    exact .nil i

/-- A terminal takes the front of what it matches together with others. -/
theorem matches_lexeme_cons_iff {x : Lexeme} (hx : e.lexeme? = some x) :
    Matches rules takes (e :: es) i j ↔ ∃ k, takes x i k ∧ Matches rules takes es k j := by
  constructor
  · intro h
    cases h with
    | lexeme hx' ht hs =>
      obtain rfl := Option.some.inj (hx.symm.trans hx')
      exact ⟨_, ht, hs⟩
    | name hn => simp [Expr.lexeme?, hn] at hx
    | _ => cases hx
  · rintro ⟨k, ht, hs⟩
    exact .lexeme hx ht hs

/-- The right-hand side of a rule matches the front of what the rule matches together with
others. -/
theorem matches_name_cons_iff {n : String} {body : Expr} (hnodup : (rules.map (·.1)).Nodup)
    (hn : isTerminalName n = false) (hr : (n, body) ∈ rules) :
    Matches rules takes (.name n :: es) i j ↔
      ∃ k, Matches rules takes [body] i k ∧ Matches rules takes es k j := by
  constructor
  · intro h
    cases h with
    | lexeme hx => simp [Expr.lexeme?, hn] at hx
    | name _ hr' h hs =>
      obtain rfl := congrArg Prod.snd (List.inj_on_of_nodup_map hnodup hr hr' rfl)
      exact ⟨_, h, hs⟩
  · rintro ⟨k, h, hs⟩
    exact .name hn hr h hs

theorem matches_seq_cons_iff {parts : List Expr} :
    Matches rules takes (.seq parts :: es) i j ↔ Matches rules takes (parts ++ es) i j := by
  constructor
  · intro h
    cases h with
    | lexeme hx => cases hx
    | seq h => exact h
  · exact .seq

/-- A rule for expressions one after the other matches what they match. -/
theorem matches_name_seq_cons_iff {n : String} {parts : List Expr}
    (hnodup : (rules.map (·.1)).Nodup) (hn : isTerminalName n = false)
    (hr : (n, .seq parts) ∈ rules) :
    Matches rules takes (.name n :: es) i j ↔ Matches rules takes (parts ++ es) i j := by
  rw [matches_name_cons_iff hnodup hn hr, matches_append_iff]
  simp only [matches_seq_cons_iff, List.append_nil]

/-- What may be missing is there or not. -/
theorem matches_optional_cons_iff :
    Matches rules takes (.rep e 0 (some 1) :: es) i j ↔
      Matches rules takes es i j ∨ Matches rules takes (e :: es) i j := by
  constructor
  · intro h
    cases h with
    | lexeme hx => cases hx
    | @rep _ _ n _ _ _ _ _ hmost h =>
      have hn := hmost 1 rfl
      obtain rfl | rfl : n = 0 ∨ n = 1 := by omega
      · exact Or.inl h
      · exact Or.inr h
  · rintro (h | h)
    · exact .rep (n := 0) (Nat.le_refl 0) (by simp) h
    · exact .rep (n := 1) (Nat.zero_le 1) (by simp) h

theorem matches_alt_cons_iff {options : List Expr} :
    Matches rules takes (.alt options :: es) i j ↔
      ∃ e ∈ options, Matches rules takes (e :: es) i j := by
  constructor
  · intro h
    cases h with
    | lexeme hx => cases hx
    | alt he h => exact ⟨_, he, h⟩
  · rintro ⟨e, he, h⟩
    exact .alt he h

/-- A right-hand side is any of its alternatives. -/
theorem Matches.of_mem_optionsOf {body : Expr} (he : e ∈ Build.optionsOf body)
    (h : Matches rules takes [e] i j) : Matches rules takes [body] i j := by
  cases body with
  | alt options => exact .alt he h
  | _ =>
    obtain rfl := List.mem_singleton.mp he
    exact h

/-! ## Productions -/

/-- All rules that expressions refer to are among the given ones. -/
def Closed (rules : List (String × Expr)) (es : List Expr) : Prop :=
  ∀ n ∈ Expr.referencesOf es, ∃ body, (n, body) ∈ rules

theorem closed_iff : Closed rules es ↔ ∀ e ∈ es, Closed rules [e] := by
  simp only [Closed, Expr.mem_referencesOf_iff, List.mem_singleton]
  constructor
  · rintro h e he n ⟨_, rfl, hn⟩
    exact h n ⟨_, he, hn⟩
  · rintro h n ⟨e, he, hn⟩
    exact h e he n ⟨e, rfl, hn⟩

theorem closed_name {n : String} {body : Expr} (hn : isTerminalName n = false)
    (hbody : (n, body) ∈ rules) : Closed rules [.name n] := by
  intro n' hn'
  rw [Expr.mem_referencesOf_iff] at hn'
  obtain ⟨e, he, hn'⟩ := hn'
  obtain rfl := List.mem_singleton.mp he
  simp only [Expr.references, hn, Bool.false_eq_true, if_false, List.mem_singleton] at hn'
  exact ⟨body, hn' ▸ hbody⟩

theorem closed_append_iff :
    Closed rules (es ++ es') ↔ Closed rules es ∧ Closed rules es' := by
  simp only [Closed, Expr.mem_referencesOf_iff, List.mem_append, or_and_right, exists_or, or_imp,
    forall_and]

/-- The productions of a draft are those of the rules of a source. -/
structure Draft.Realizes (d : Draft ρ) (b : Nat) (rules : List (String × Expr)) : Prop where
  nodup : d.ruleNames.toList.Nodup
  hasRule : ∀ e ∈ rules, d.HasRule b e.1 e.2
  closed : ∀ e ∈ rules, Closed rules [e.2]

variable {ρ : Type} {d : Draft ρ} {b r : Nat} {ss : List Symbol} {taken : Nat → Nat → Nat → Prop}

theorem Draft.mem_alternativesOf_iff {rhs : List Symbol} :
    rhs ∈ d.alternativesOf r ↔ ∃ p ∈ d.productions, p.lhs = r ∧ p.rhs = rhs := by
  simp [Draft.alternativesOf, and_assoc]

/-- Rules of the source with one index are one rule. -/
theorem Draft.Realizes.choices (hd : d.Realizes b rules) {n : String} {body : Expr}
    (hbody : (n, body) ∈ rules) (hr : d.ruleNames[r]? = some n) :
    ∃ choices : List Choice, Build.optionsOf body = choices.map (·.expr) ∧
      d.alternativesOf r = choices.map (·.rhs) ∧
      ∀ choice ∈ choices, Stands d [choice.expr] choice.rhs choice.made := by
  obtain ⟨r', -, hr', -, hchoices⟩ := hd.hasRule _ hbody
  rw [← Array.getElem?_toList] at hr hr'
  obtain rfl := (List.getElem?_inj (List.getElem?_eq_some_iff.mp hr).1 hd.nodup).mp
    (hr.trans hr'.symm)
  exact hchoices

theorem closed_of_mem_optionsOf {body : Expr} (he : e ∈ Build.optionsOf body)
    (h : Closed rules [body]) : Closed rules [e] := by
  cases body with
  | alt options =>
    have hall : Closed rules options := fun n hn => h n (by
      rw [Expr.mem_referencesOf_iff]
      exact ⟨_, List.mem_singleton.mpr rfl, hn⟩)
    exact closed_iff.mp hall e he
  | _ =>
    obtain rfl := List.mem_singleton.mp he
    exact h

theorem closed_seq_iff {parts : List Expr} :
    Closed rules (.seq parts :: es) ↔ Closed rules (parts ++ es) := by
  rw [closed_append_iff]
  simp only [Closed, Expr.referencesOf, Expr.references, List.mem_append, or_imp, forall_and]

theorem closed_cons_iff : Closed rules (e :: es) ↔ Closed rules [e] ∧ Closed rules es := by
  rw [← List.singleton_append, closed_append_iff]

theorem closed_replicate (h : Closed rules [e]) (n : Nat) :
    Closed rules (List.replicate n e) :=
  closed_iff.mpr fun _ he' => List.eq_of_mem_replicate he' ▸ h

/-- One of the choices of a rule has a right-hand side for its symbols, so its expression matches
what they derive. -/
theorem exists_choice_of_mem {choices : List Choice} {rhs : List Symbol}
    (hstands : ∀ choice ∈ choices, Stands d [choice.expr] choice.rhs choice.made)
    (hclosed : ∀ choice ∈ choices, Closed rules [choice.expr])
    (hrhs : rhs ∈ choices.map (·.rhs))
    (h : ∀ es made, Closed rules es → Stands d es rhs made → Matches rules takes es i j) :
    ∃ e ∈ choices.map (·.expr), Matches rules takes [e] i j := by
  obtain ⟨choice, hchoice, rfl⟩ := List.mem_map.mp hrhs
  exact ⟨choice.expr, List.mem_map_of_mem hchoice,
    h _ _ (hclosed choice hchoice) (hstands choice hchoice)⟩

/-- A repetition matches what a right-hand side of its rule derives. -/
theorem matches_rep_of_mem {body : Expr} {item : Symbol} {least : Nat} {most : Option Nat}
    {inner : List Nat} {rhs : List Symbol}
    (hr : d.alternativesOf r = repetitionsOf r item least most)
    (hitem : Stands d [body] [item] inner) (hclosed : Closed rules [.rep body least most])
    (hrhs : rhs ∈ repetitionsOf r item least most)
    (h : ∀ es made, Closed rules es → Stands d es rhs made → Matches rules takes es i j) :
    Matches rules takes [.rep body least most] i j := by
  have hbody : Closed rules [body] := fun n hn => hclosed n (by
    simpa [Expr.referencesOf, Expr.references] using hn)
  have hcopies : ∀ n, rhs = List.replicate n item →
      Matches rules takes (List.replicate n body ++ []) i j := fun n hn => by
    rw [List.append_nil]
    exact h _ _ (closed_replicate hbody n) (hn ▸ hitem.replicate n)
  cases most with
  | some most =>
    obtain ⟨n, hn, heq⟩ := List.mem_map.mp hrhs
    rw [List.mem_range'_1] at hn
    refine .rep hn.1 (fun m hm => ?_) (hcopies n heq.symm)
    obtain rfl := Option.some.inj hm
    omega
  | none =>
    rcases List.mem_cons.mp hrhs with heq | hrhs
    · exact .rep (Nat.le_refl _) (by simp) (hcopies least heq)
    · -- one more than what the rule itself derives
      obtain rfl := List.mem_singleton.mp hrhs
      have hmore := h _ _ (closed_cons_iff.mpr ⟨hclosed, hbody⟩) (.rep hr hitem hitem)
      cases hmore with
      | lexeme hx => cases hx
      | rep hleast _ hmatches =>
        refine .rep (Nat.le_succ_of_le hleast) (by simp) ?_
        rwa [List.replicate_succ', List.append_nil]

/-- What productions derive, the expressions match that their symbols stand for. -/
theorem matches_of_spans (hd : d.Realizes b rules)
    (htaken : ∀ t x k m, d.lexemeOf? t = some x → taken t k m → takes x k m)
    (h : Spans d.productions taken ss i j) :
    ∀ es made, Closed rules es → Stands d es ss made → Matches rules takes es i j := by
  induction h with
  | nil i =>
    intro es made hclosed hstands
    generalize hall : ([] : List Symbol) = all at hstands
    induction hstands with
    | nil => exact .nil i
    | flat _ ih => exact .seq (ih (closed_seq_iff.mp hclosed) hall)
    | _ => cases hall
  | @terminal t ss i k j ht hs ihs =>
    intro es made hclosed hstands
    generalize hall : Symbol.terminal t :: ss = all at hstands
    induction hstands with
    | lexeme hx hlexeme hrest _ =>
      cases hall
      exact .lexeme hx (htaken _ _ _ _ hlexeme ht) (ihs _ _ (closed_cons_iff.mp hclosed).2 hrest)
    | flat _ ih => exact .seq (ih (closed_seq_iff.mp hclosed) hall)
    | _ => cases hall
  | @rule p ss i k j hp h hs ih ihs =>
    intro es made hclosed hstands
    have hmem : p.rhs ∈ d.alternativesOf p.lhs := Draft.mem_alternativesOf_iff.mpr ⟨p, hp, rfl, rfl⟩
    generalize hall : Symbol.rule p.lhs :: ss = all at hstands
    -- sequences are taken apart until the first symbol is that of the first expression
    induction hstands with
    | nil => cases hall
    | lexeme => cases hall
    | @name n es r ss' made hn hr hrest _ =>
      cases hall
      obtain ⟨hhead, htail⟩ := closed_cons_iff.mp hclosed
      obtain ⟨body, hbody⟩ := hhead n (by simp [Expr.referencesOf, Expr.references, hn])
      obtain ⟨choices, hoptions, halternatives, hchoices⟩ := hd.choices hbody hr
      obtain ⟨e, he, hmatches⟩ := exists_choice_of_mem hchoices (fun choice hchoice =>
        closed_of_mem_optionsOf (hoptions ▸ List.mem_map_of_mem hchoice) (hd.closed _ hbody))
        (halternatives ▸ hmem) ih
      exact .name hn hbody (.of_mem_optionsOf (hoptions ▸ he) hmatches) (ihs _ _ htail hrest)
    | flat _ ih' => exact .seq (ih' (closed_seq_iff.mp hclosed) hall)
    | @seq parts es r rhs ss' inner made hr hparts hrest _ _ =>
      cases hall
      obtain rfl : p.rhs = rhs := by simpa [hr] using hmem
      obtain ⟨hhead, htail⟩ := closed_append_iff.mp (closed_seq_iff.mp hclosed)
      exact .seq ((ih _ _ hhead hparts).append (ihs _ _ htail hrest))
    | @alt es r ss' made choices hr hchoices hrest _ _ =>
      cases hall
      obtain ⟨hhead, htail⟩ := closed_cons_iff.mp hclosed
      have hoption : ∀ choice ∈ choices,
          choice.expr ∈ Build.optionsOf (.alt (choices.map (·.expr))) :=
        fun _ => List.mem_map_of_mem
      obtain ⟨e, he, hmatches⟩ := exists_choice_of_mem hchoices (fun choice hchoice =>
        closed_of_mem_optionsOf (hoption choice hchoice) hhead) (hr ▸ hmem) ih
      exact .alt he (hmatches.append (ihs _ _ htail hrest))
    | rep hr hitem hrest _ _ =>
      cases hall
      obtain ⟨hhead, htail⟩ := closed_cons_iff.mp hclosed
      exact (matches_rep_of_mem hr hitem hhead (hr ▸ hmem) ih).append (ihs _ _ htail hrest)

/-- A rule derives what one of its alternatives derives. -/
theorem spans_cons_of_alternative {rhs ss' : List Symbol} (hr : rhs ∈ d.alternativesOf r)
    (h : Spans d.productions taken (rhs ++ ss') i j) :
    Spans d.productions taken (.rule r :: ss') i j := by
  obtain ⟨p, hp, rfl, rfl⟩ := Draft.mem_alternativesOf_iff.mp hr
  obtain ⟨k, hleft, hright⟩ := spans_append_iff.mp h
  exact .rule hp hleft hright

/-- A rule made for a repetition derives as many items as it may. -/
theorem spans_of_copies {item : Symbol} {least n : Nat} {most : Option Nat} {ss' : List Symbol}
    (hr : d.alternativesOf r = repetitionsOf r item least most) (hleast : least ≤ n)
    (hmost : ∀ m ∈ most, n ≤ max m least)
    (h : Spans d.productions taken (List.replicate n item ++ ss') i j) :
    Spans d.productions taken (.rule r :: ss') i j := by
  cases most with
  | some most =>
    refine spans_cons_of_alternative ?_ h
    rw [hr, repetitionsOf]
    refine List.mem_map_of_mem (List.mem_range'_1.mpr ⟨hleast, ?_⟩)
    have hle := hmost most rfl
    omega
  | none =>
    clear hmost
    induction n, hleast using Nat.le_induction generalizing ss' with
    | base => exact spans_cons_of_alternative (hr ▸ List.mem_cons_self ..) h
    | succ n _ ih =>
      rw [List.replicate_succ', List.append_assoc] at h
      have hmem : [.rule r, item] ∈ d.alternativesOf r := by
        rw [hr]
        exact List.mem_cons_of_mem _ (List.mem_singleton.mpr rfl)
      exact spans_cons_of_alternative hmem (ih h)

/-- What expressions match, the productions derive that were made for them. -/
theorem spans_of_matches (hd : d.Realizes b rules)
    (htakes : ∀ t x k m, d.lexemeOf? t = some x → takes x k m → taken t k m)
    (h : Matches rules takes es i j) :
    (∀ ss made, Stands d es ss made → Spans d.productions taken ss i j) ∧
      ∀ options es', es = .alt options :: es' →
        ∃ e ∈ options, ∀ ss made, Stands d (e :: es') ss made →
          Spans d.productions taken ss i j := by
  induction h with
  | nil i =>
    refine ⟨fun ss made hstands => ?_, fun _ _ h => by cases h⟩
    cases hstands
    exact .nil i
  | lexeme hx ht _ ih =>
    refine ⟨fun ss made hstands => ?_, fun _ _ h => ?_⟩
    · cases hstands with
      | lexeme hx' hlexeme hrest =>
        obtain rfl := Option.some.inj (hx.symm.trans hx')
        exact .terminal (htakes _ _ _ _ hlexeme ht) (ih.1 _ _ hrest)
      | name hn => simp [Expr.lexeme?, hn] at hx
      | _ => cases hx
    · cases h
      cases hx
  | @name n body es i k j hn hbody _ _ ihbody ih =>
    refine ⟨fun ss made hstands => ?_, fun _ _ h => by cases h⟩
    have hoption : ∃ e ∈ Build.optionsOf body, ∀ ss made, Stands d [e] ss made →
        Spans d.productions taken ss i k := by
      cases body with
      | alt options => exact ihbody.2 options [] rfl
      | _ => exact ⟨_, List.mem_singleton.mpr rfl, ihbody.1⟩
    cases hstands with
    | lexeme hx => simp [Expr.lexeme?, hn] at hx
    | name _ hr hrest =>
      obtain ⟨choices, hoptions, halternatives, hchoices⟩ := hd.choices hbody hr
      obtain ⟨e, he, hspans⟩ := hoption
      rw [hoptions] at he
      obtain ⟨choice, hchoice, rfl⟩ := List.mem_map.mp he
      exact spans_cons_of_alternative (halternatives ▸ List.mem_map_of_mem hchoice)
        (spans_append_iff.mpr ⟨k, hspans _ _ (hchoices choice hchoice), ih.1 _ _ hrest⟩)
  | seq _ ih =>
    refine ⟨fun ss made hstands => ?_, fun _ _ h => by cases h⟩
    cases hstands with
    | lexeme hx => cases hx
    | flat h => exact ih.1 _ _ h
    | seq hr hparts hrest =>
      exact spans_cons_of_alternative (hr ▸ List.mem_singleton.mpr rfl)
        (ih.1 _ _ (hparts.append hrest))
  | alt he _ ih =>
    refine ⟨fun ss made hstands => ?_, fun options es' h => ?_⟩
    · cases hstands with
      | lexeme hx => cases hx
      | alt choices hr hchoices hrest =>
        obtain ⟨choice, hchoice, rfl⟩ := List.mem_map.mp he
        exact spans_cons_of_alternative (hr ▸ List.mem_map_of_mem hchoice)
          (ih.1 _ _ ((hchoices choice hchoice).append hrest))
    · cases h
      exact ⟨_, he, ih.1⟩
  | rep hleast hmost _ ih =>
    refine ⟨fun ss made hstands => ?_, fun _ _ h => by cases h⟩
    cases hstands with
    | lexeme hx => cases hx
    | rep hr hitem hrest =>
      exact spans_of_copies hr hleast hmost (ih.1 _ _ ((hitem.replicate _).append hrest))

/-- Symbols derive exactly what the expressions match that they stand for. -/
theorem spans_iff_matches (hd : d.Realizes b rules) (hclosed : Closed rules es)
    (htakes : ∀ t x k m, d.lexemeOf? t = some x → (taken t k m ↔ takes x k m))
    {made : List Nat} (hstands : Stands d es ss made) :
    Spans d.productions taken ss i j ↔ Matches rules takes es i j :=
  ⟨fun h => matches_of_spans hd (fun t x k m ht => (htakes t x k m ht).mp) h _ _ hclosed hstands,
    fun h => (spans_of_matches hd (fun t x k m ht => (htakes t x k m ht).mpr) h).1 _ _ hstands⟩

/-- A right-hand side matches what one of its alternatives matches. -/
theorem matches_iff_exists_option {body : Expr} : Matches rules takes [body] i j ↔
    ∃ e ∈ Build.optionsOf body, Matches rules takes [e] i j := by
  refine ⟨fun h => ?_, fun ⟨e, he, h⟩ => h.of_mem_optionsOf he⟩
  cases body with
  | alt options =>
    cases h with
    | lexeme hx => cases hx
    | alt he h => exact ⟨_, he, h⟩
  | _ => exact ⟨_, List.mem_singleton.mpr rfl, h⟩

/-- A rule of the source derives what its right-hand side matches. -/
theorem Draft.Realizes.rule_iff_matches (hd : d.Realizes b rules) {n : String} {body : Expr}
    (hbody : (n, body) ∈ rules) (hr : d.ruleNames[r]? = some n)
    (htakes : ∀ t x k m, d.lexemeOf? t = some x → (taken t k m ↔ takes x k m)) :
    (∃ p ∈ d.productions, p.lhs = r ∧ Spans d.productions taken p.rhs i j) ↔
      Matches rules takes [body] i j := by
  obtain ⟨choices, hoptions, halternatives, hstands⟩ := hd.choices hbody hr
  have hchoice : ∀ choice ∈ choices, Spans d.productions taken choice.rhs i j ↔
      Matches rules takes [choice.expr] i j := fun choice hmem =>
    spans_iff_matches hd (closed_of_mem_optionsOf (hoptions ▸ List.mem_map_of_mem hmem)
      (hd.closed _ hbody)) htakes (hstands choice hmem)
  rw [matches_iff_exists_option, hoptions]
  constructor
  · rintro ⟨p, hp, hlhs, hspans⟩
    have hmem : p.rhs ∈ choices.map (·.rhs) :=
      halternatives ▸ Draft.mem_alternativesOf_iff.mpr ⟨p, hp, hlhs, rfl⟩
    obtain ⟨choice, hmem, hrhs⟩ := List.mem_map.mp hmem
    exact ⟨choice.expr, List.mem_map_of_mem hmem, (hchoice choice hmem).mp (hrhs ▸ hspans)⟩
  · rintro ⟨e, he, hmatches⟩
    obtain ⟨choice, hmem, rfl⟩ := List.mem_map.mp he
    have hrhs : choice.rhs ∈ d.alternativesOf r := halternatives ▸ List.mem_map_of_mem hmem
    obtain ⟨p, hp, hlhs, hrhs⟩ := Draft.mem_alternativesOf_iff.mp hrhs
    exact ⟨p, hp, hlhs, hrhs ▸ (hchoice choice hmem).mpr hmatches⟩

end QueryGate
