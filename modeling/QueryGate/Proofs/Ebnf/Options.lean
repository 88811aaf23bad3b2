import Mathlib.Tactic.SplitIfs
import QueryGate.Ebnf.Source

/-!
# Choices have options

A choice that is read from a text has at least one option (`Expr.HasOptions`). The readers have no
other way to fail than not to give an expression, so this is shown of whatever they give
(`Reader.Yields`).
-/

namespace QueryGate

/-! ## What readers give -/

namespace Text.Reader

variable {α β : Type} {P : α → Prop} {p q : Reader α} {sep : Reader Unit}

/-- All values that the reader gives are of this kind. -/
def Yields (P : α → Prop) (p : Reader α) : Prop :=
  ∀ ⦃s a rest⦄, p s = some (a, rest) → P a

theorem Yields.orElse (hp : p.Yields P) (hq : q.Yields P) : (p.orElse q).Yields P := by
  intro s a rest h
  rcases Option.or_eq_some_iff.mp h with h | ⟨-, h⟩
  · exact hp h
  · exact hq h

theorem Yields.map {Q : β → Prop} {f : α → β} (hp : p.Yields P) (hf : ∀ a, P a → Q (f a)) :
    Yields Q fun s => (p s).map fun (a, rest) => (f a, rest) := by
  intro s b rest h
  obtain ⟨⟨a, rest'⟩, ha, heq⟩ := Option.map_eq_some_iff.mp h
  obtain ⟨rfl, -⟩ := Prod.mk.inj heq
  exact hf a (hp ha)

theorem Yields.many (hp : p.Yields P) (s : List Char) : ∀ a ∈ (Reader.many p s).1, P a := by
  fun_induction Reader.many p s with
  | case1 s a rest h _ as last hm ih =>
    rw [hm] at ih
    exact List.forall_mem_cons.mpr ⟨hp h, ih⟩
  | case2 => exact List.forall_mem_nil _
  | case3 => exact List.forall_mem_nil _

theorem Yields.sepBy1 (hp : p.Yields P) :
    (Reader.sepBy1 sep p).Yields fun as => as ≠ [] ∧ ∀ a ∈ as, P a := by
  intro s as rest h
  obtain ⟨⟨a, t⟩, ha, heq⟩ := Option.map_eq_some_iff.mp h
  obtain ⟨rfl, -⟩ := Prod.mk.inj heq
  refine ⟨List.cons_ne_nil _ _, List.forall_mem_cons.mpr ⟨hp ha, Yields.many ?_ t⟩⟩
  intro s b rest hb
  obtain ⟨⟨_, u⟩, -, hb⟩ := Option.bind_eq_some_iff.mp hb
  exact hp hb

end Text.Reader

namespace Ebnf

open Text Reader

/-- Every choice in the expression has an option. -/
inductive Expr.HasOptions : Expr → Prop
  | literal (value : String) (anyCase : Bool) : HasOptions (.literal value anyCase)
  | pattern (source flags : String) : HasOptions (.pattern source flags)
  | range (first last : Char) : HasOptions (.range first last)
  | name (symbol : String) : HasOptions (.name symbol)
  | seq {parts : List Expr} (h : ∀ e ∈ parts, HasOptions e) : HasOptions (.seq parts)
  | alt {options : List Expr} (hne : options ≠ []) (h : ∀ e ∈ options, HasOptions e) :
      HasOptions (.alt options)
  | rep {body : Expr} (least : Nat) (most : Option Nat) (h : HasOptions body) :
      HasOptions (.rep body least most)

variable {inner : Reader Expr} {es : List Expr} {e : Expr}

/-! ## Readers of expressions -/

theorem hasOptions_sequenceOf (h : ∀ e ∈ es, e.HasOptions) : (sequenceOf es).HasOptions := by
  unfold sequenceOf
  split
  · exact h _ (List.mem_singleton_self _)
  · exact .seq h

theorem hasOptions_choiceOf (hne : es ≠ []) (h : ∀ e ∈ es, e.HasOptions) :
    (choiceOf es).HasOptions := by
  unfold choiceOf
  split
  · exact h _ (List.mem_singleton_self _)
  · exact .alt hne h

theorem yields_readEnclosed {P : Expr → Prop} (hinner : inner.Yields P) (opening closing : Char) :
    (readEnclosed inner opening closing).Yields P := by
  intro s e rest h
  obtain ⟨⟨_, s₁⟩, -, h⟩ := Option.bind_eq_some_iff.mp h
  obtain ⟨⟨e', s₂⟩, h₂, h⟩ := Option.bind_eq_some_iff.mp h
  obtain ⟨⟨_, s₃⟩, -, heq⟩ := Option.map_eq_some_iff.mp h
  obtain ⟨rfl, -⟩ := Prod.mk.inj heq
  obtain ⟨⟨e, t⟩, ht, heq⟩ := Option.map_eq_some_iff.mp h₂
  obtain ⟨rfl, -⟩ := Prod.mk.inj heq
  exact hinner ht

theorem yields_readLiteral : readLiteral.Yields Expr.HasOptions := by
  intro s e rest h
  obtain ⟨⟨cs, t⟩, -, heq⟩ := Option.map_eq_some_iff.mp h
  obtain ⟨rfl, -⟩ := Prod.mk.inj heq
  exact .literal _ _

theorem yields_readRange : readRange.Yields Expr.HasOptions := by
  intro s e rest h
  obtain ⟨⟨a, s₁⟩, -, h⟩ := Option.bind_eq_some_iff.mp h
  obtain ⟨⟨_, s₂⟩, -, h⟩ := Option.bind_eq_some_iff.mp h
  obtain ⟨⟨b, s₃⟩, -, h⟩ := Option.bind_eq_some_iff.mp h
  dsimp only at h
  split at h
  · split_ifs at h
    obtain ⟨rfl, -⟩ := Prod.mk.inj (Option.some.inj h)
    exact .range _ _
  · cases h

theorem yields_readPattern : readPattern.Yields Expr.HasOptions := by
  intro s e rest h
  obtain ⟨⟨_, body⟩, -, h⟩ := Option.bind_eq_some_iff.mp h
  obtain ⟨⟨cs, t⟩, -, h⟩ := Option.bind_eq_some_iff.mp h
  dsimp only at h
  split_ifs at h
  obtain ⟨rfl, -⟩ := Prod.mk.inj (Option.some.inj h)
  exact .pattern _ _

theorem yields_readReference : readReference.Yields Expr.HasOptions := by
  intro s e rest h
  obtain ⟨⟨n, t⟩, -, h⟩ := Option.bind_eq_some_iff.mp h
  dsimp only at h
  split_ifs at h
  obtain ⟨rfl, -⟩ := Prod.mk.inj (Option.some.inj h)
  exact .name n

theorem yields_readAtom (hinner : inner.Yields Expr.HasOptions) :
    (readAtom inner).Yields Expr.HasOptions :=
  (yields_readEnclosed hinner '(' ')').orElse <|
    ((yields_readEnclosed hinner '[' ']').map (f := (.rep · 0 (some 1)))
      fun _ h => .rep 0 (some 1) h).orElse <|
    yields_readRange.orElse <| yields_readLiteral.orElse <|
    yields_readPattern.orElse yields_readReference

theorem yields_readItem (hinner : inner.Yields Expr.HasOptions) :
    (readItem inner).Yields Expr.HasOptions := by
  intro s e rest h
  obtain ⟨⟨e', t⟩, ht, heq⟩ := Option.map_eq_some_iff.mp h
  have hatom := yields_readAtom hinner ht
  dsimp only at heq
  split at heq
  · obtain ⟨rfl, -⟩ := Prod.mk.inj heq
    exact .rep _ _ hatom
  · obtain ⟨rfl, -⟩ := Prod.mk.inj heq
    exact hatom

theorem yields_readAlternative (hinner : inner.Yields Expr.HasOptions) :
    (readAlternative inner).Yields Expr.HasOptions := by
  have hitem : Yields Expr.HasOptions fun t => readItem inner (skipBlanks t) :=
    fun t e rest h => yields_readItem hinner h
  intro s e rest h
  have hitems := hasOptions_sequenceOf (hitem.many s)
  unfold readAlternative at h
  dsimp only at h
  split at h
  all_goals
    obtain ⟨rfl, -⟩ := Prod.mk.inj (Option.some.inj h)
    exact hitems

theorem yields_readChoice (hinner : inner.Yields Expr.HasOptions) :
    (readChoice inner).Yields Expr.HasOptions :=
  (yields_readAlternative hinner).sepBy1.map fun _ h => hasOptions_choiceOf h.1 h.2

theorem yields_readExprAt (depth : Nat) : (readExprAt depth).Yields Expr.HasOptions := by
  induction depth with
  | zero => exact fun s e rest h => nomatch h
  | succ depth ih => exact yields_readChoice ih

theorem yields_readExpr : readExpr.Yields Expr.HasOptions :=
  fun _ _ _ h => yields_readExprAt _ h

/-! ## Definitions -/

/-- Every choice in the expression of the definition has an option. -/
def Definition.HasOptions : Definition → Prop
  | .rule _ e | .terminal _ e | .ignore e => e.HasOptions
  | .imports _ _ => True

theorem hasOptions_of_readNamed {s rest : List Char} {d : Definition}
    (h : readNamed s = .ok (d, rest)) : d.HasOptions := by
  unfold readNamed at h
  cases hhead : readHead s with
  | error t =>
    rw [hhead] at h
    cases h
  | ok found =>
    obtain ⟨name, t⟩ := found
    simp only [hhead, bind, Except.bind] at h
    split at h
    · cases h
    · split at h
      · cases h
      · next e last he =>
        obtain ⟨rfl, -⟩ := Prod.mk.inj (Except.ok.inj h)
        split_ifs
        · exact yields_readExpr he
        · exact yields_readExpr he

theorem yields_readImportList : readImportList.Yields Definition.HasOptions := by
  intro s d rest h
  obtain ⟨⟨path, s₁⟩, -, h⟩ := Option.bind_eq_some_iff.mp h
  obtain ⟨⟨_, s₂⟩, -, h⟩ := Option.bind_eq_some_iff.mp h
  obtain ⟨⟨names, s₃⟩, -, h⟩ := Option.bind_eq_some_iff.mp h
  obtain ⟨⟨_, s₄⟩, -, heq⟩ := Option.map_eq_some_iff.mp h
  obtain ⟨rfl, -⟩ := Prod.mk.inj heq
  trivial

theorem yields_readImportOne : readImportOne.Yields Definition.HasOptions := by
  intro s d rest h
  obtain ⟨⟨path, s₁⟩, -, heq⟩ := Option.map_eq_some_iff.mp h
  dsimp only at heq
  split at heq
  all_goals
    obtain ⟨rfl, -⟩ := Prod.mk.inj heq
    trivial

theorem yields_readDirective : readDirective.Yields Definition.HasOptions := by
  refine Yields.orElse ?_ ?_
  · intro s d rest h
    obtain ⟨⟨_, t⟩, -, h⟩ := Option.bind_eq_some_iff.mp h
    exact yields_readImportList.orElse yields_readImportOne h
  · intro s d rest h
    obtain ⟨⟨_, t⟩, -, h⟩ := Option.bind_eq_some_iff.mp h
    exact yields_readExpr.map (Q := Definition.HasOptions) (f := .ignore) (fun _ => id) h

/-- Whatever definition a text has, every choice in it has an option. -/
theorem hasOptions_of_readDefinition {text : List Char} {d : Definition}
    (h : readDefinition text = .ok d) : d.HasOptions := by
  unfold readDefinition at h
  dsimp only at h
  split_ifs at h
  · cases hd : readDirective (skipBlanks text) with
    | none =>
      simp only [hd, bind, Except.bind] at h
      cases h
    | some found =>
      simp only [hd, bind, Except.bind] at h
      split_ifs at h
      obtain rfl := Except.ok.inj h
      exact yields_readDirective hd
  · cases hd : readNamed (skipBlanks text) with
    | error t =>
      simp only [hd, bind, Except.bind] at h
      cases h
    | ok found =>
      simp only [hd, bind, Except.bind] at h
      split_ifs at h
      obtain rfl := Except.ok.inj h
      exact hasOptions_of_readNamed hd

end Ebnf

end QueryGate
