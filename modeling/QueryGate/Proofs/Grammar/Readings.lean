import Mathlib.Logic.Relation
import QueryGate.Proofs.Grammar.Lexicon
import QueryGate.Proofs.Grammar.Meaning

/-!
# Readings of expressions

What becomes of a match when its lexemes are looked at one by one :

* `Matches.restrict` : only lexemes are taken that occur in the rules reached;
* `Matches.lt` : only what is nullable matches an empty piece;
* `Matches.within` : nothing is taken behind the end of the match;
* `Matches.reachable` : the end is reached from the start by taking lexemes;
* `Matches.transfer` : a match only depends on what its lexemes take.
-/

namespace QueryGate

open Ebnf

variable {rules : List (String × Expr)} {takes takes' : Lexeme → Nat → Nat → Prop} {e : Expr}
  {es : List Expr} {i j k b : Nat} {names : List String} {xs : List Lexeme}

/-- Expressions that refer to the given rules only, and whose lexemes are among the given ones. -/
def Confined (names : List String) (xs : List Lexeme) (es : List Expr) : Prop :=
  ∀ e ∈ es, e.references ⊆ names ∧ e.lexemes ⊆ xs

instance : Decidable (Confined names xs es) :=
  inferInstanceAs (Decidable (∀ e ∈ es, e.references ⊆ names ∧ e.lexemes ⊆ xs))

theorem confined_append {es' : List Expr} (h : Confined names xs es)
    (h' : Confined names xs es') : Confined names xs (es ++ es') :=
  fun e he => (List.mem_append.mp he).elim (h e) (h' e)

theorem Confined.of_seq {parts : List Expr} (h : Confined names xs (.seq parts :: es)) :
    Confined names xs (parts ++ es) := by
  refine confined_append (fun e he => ?_) fun e he => h e (List.mem_cons_of_mem _ he)
  obtain ⟨hnames, hxs⟩ := h _ (List.mem_cons_self ..)
  exact ⟨fun n hn => hnames (Expr.mem_referencesOf_iff.mpr ⟨e, he, hn⟩),
    fun x hx => hxs (Expr.mem_lexemesOf_iff.mpr ⟨e, he, hx⟩)⟩

theorem Confined.of_alt {options : List Expr} (h : Confined names xs (.alt options :: es))
    (he : e ∈ options) : Confined names xs (e :: es) := by
  obtain ⟨hnames, hxs⟩ := h _ (List.mem_cons_self ..)
  have hoption : Confined names xs [e] := fun e' he' => by
    obtain rfl := List.mem_singleton.mp he'
    exact ⟨fun n hn => hnames (Expr.mem_referencesOf_iff.mpr ⟨e', he, hn⟩),
      fun x hx => hxs (Expr.mem_lexemesOf_iff.mpr ⟨e', he, hx⟩)⟩
  exact confined_append hoption fun e he => h e (List.mem_cons_of_mem _ he)

theorem Confined.of_rep {body : Expr} {least n : Nat} {most : Option Nat}
    (h : Confined names xs (.rep body least most :: es)) :
    Confined names xs (List.replicate n body ++ es) := by
  refine confined_append (fun e he => ?_) fun e he => h e (List.mem_cons_of_mem _ he)
  obtain ⟨hnames, hxs⟩ := h _ (List.mem_cons_self ..)
  rw [List.eq_of_mem_replicate he]
  exact ⟨by rwa [Expr.references] at hnames, by rwa [Expr.lexemes] at hxs⟩

mutual

/-- Whether an expression can match the empty piece, where no rule can. -/
def Ebnf.Expr.isNullable : Expr → Bool
  | .seq parts => areNullable parts
  | .alt options => isAnyNullable options
  | .rep body least _ => least == 0 || isNullable body
  | _ => false

/-- Whether all expressions can match the empty piece. -/
def Ebnf.Expr.areNullable : List Expr → Bool
  | [] => true
  | e :: es => isNullable e && areNullable es

/-- Whether one of the expressions can match the empty piece. -/
def Ebnf.Expr.isAnyNullable : List Expr → Bool
  | [] => false
  | e :: es => isNullable e || isAnyNullable es

end

/-- A match takes no other lexemes than those of the rules it can reach. -/
theorem Matches.restrict (hrules : ∀ e ∈ rules, e.1 ∈ names → Confined names xs [e.2])
    (hes : Confined names xs es) (h : Matches rules takes es i j) :
    Matches rules (fun x k m => x ∈ xs ∧ takes x k m) es i j := by
  induction h with
  | nil i => exact .nil i
  | lexeme hx ht _ ih =>
    refine .lexeme hx ⟨?_, ht⟩ (ih fun e he => hes e (List.mem_cons_of_mem _ he))
    refine (hes _ (List.mem_cons_self ..)).2 ?_
    rw [Expr.lexemes_of_lexeme? hx]
    exact List.mem_singleton.mpr rfl
  | @name n body es i k j hn hbody _ _ ihbody ih =>
    have hmem : n ∈ names :=
      (hes _ (List.mem_cons_self ..)).1 (by simp [Expr.references, hn])
    exact .name hn hbody (ihbody (hrules _ hbody hmem))
      (ih fun e he => hes e (List.mem_cons_of_mem _ he))
  | seq _ ih => exact .seq (ih hes.of_seq)
  | alt he _ ih => exact .alt he (ih (hes.of_alt he))
  | rep hleast hmost _ ih => exact .rep hleast hmost (ih hes.of_rep)

/-- The end of a match is reached by taking lexemes. -/
theorem Matches.reachable (h : Matches rules takes es i j) :
    Relation.ReflTransGen (fun k m => ∃ x, takes x k m) i j := by
  induction h with
  | nil => exact .refl
  | lexeme _ ht _ ih => exact .head ⟨_, ht⟩ ih
  | name _ _ _ _ ihbody ih => exact ihbody.trans ih
  | seq _ ih => exact ih
  | alt _ _ ih => exact ih
  | rep _ _ _ ih => exact ih

theorem le_of_reachable (hle : ∀ x k m, takes x k m → k ≤ m)
    (h : Relation.ReflTransGen (fun k m => ∃ x, takes x k m) i j) : i ≤ j := by
  induction h with
  | refl => exact Nat.le_refl _
  | tail _ hstep ih =>
    obtain ⟨x, hx⟩ := hstep
    exact Nat.le_trans ih (hle _ _ _ hx)

theorem Matches.le (hle : ∀ x k m, takes x k m → k ≤ m) (h : Matches rules takes es i j) :
    i ≤ j :=
  le_of_reachable hle h.reachable

theorem areNullable_eq_false_iff :
    Expr.areNullable es = false ↔ ∃ e ∈ es, e.isNullable = false := by
  induction es with
  | nil => simp [Expr.areNullable]
  | cons e es ih => cases h : e.isNullable <;> simp [Expr.areNullable, ih, h]

theorem isAnyNullable_eq_false_iff :
    Expr.isAnyNullable es = false ↔ ∀ e ∈ es, e.isNullable = false := by
  induction es with
  | nil => simp [Expr.isAnyNullable]
  | cons e es ih => simp [Expr.isAnyNullable, ih]

/-- Where no rule can match the empty piece, only what is nullable can. -/
theorem Matches.lt (hlt : ∀ x k m, takes x k m → k < m)
    (hrules : ∀ e ∈ rules, e.2.isNullable = false) (h : Matches rules takes es i j)
    (hes : ∃ e ∈ es, e.isNullable = false) : i < j := by
  have hle : ∀ x k m, takes x k m → k ≤ m := fun x k m hx => Nat.le_of_lt (hlt x k m hx)
  induction h with
  | nil => simp at hes
  | lexeme _ ht hs _ => exact Nat.lt_of_lt_of_le (hlt _ _ _ ht) (hs.le hle)
  | name _ hbody _ hs ihbody _ =>
    exact Nat.lt_of_lt_of_le (ihbody ⟨_, List.mem_singleton.mpr rfl, hrules _ hbody⟩) (hs.le hle)
  | @seq parts es _ _ _ ih =>
    obtain ⟨e, he, hnull⟩ := hes
    rcases List.mem_cons.mp he with rfl | he
    · rw [Expr.isNullable, areNullable_eq_false_iff] at hnull
      obtain ⟨e, he, hnull⟩ := hnull
      exact ih ⟨e, List.mem_append_left _ he, hnull⟩
    · exact ih ⟨e, List.mem_append_right _ he, hnull⟩
  | @alt option options es _ _ hoption _ ih =>
    obtain ⟨e, he, hnull⟩ := hes
    rcases List.mem_cons.mp he with rfl | he
    · rw [Expr.isNullable, isAnyNullable_eq_false_iff] at hnull
      exact ih ⟨option, List.mem_cons_self .., hnull option hoption⟩
    · exact ih ⟨e, List.mem_cons_of_mem _ he, hnull⟩
  | @rep body least n _ es _ _ hleast _ _ ih =>
    obtain ⟨e, he, hnull⟩ := hes
    rcases List.mem_cons.mp he with rfl | he
    · rw [Expr.isNullable, Bool.or_eq_false_iff, beq_eq_false_iff_ne] at hnull
      refine ih ⟨body, List.mem_append_left _ (List.mem_replicate.mpr ⟨?_, rfl⟩), hnull.2⟩
      have hpos := hnull.1
      omega
    · exact ih ⟨e, List.mem_append_right _ he, hnull⟩

/-- A match takes nothing behind its end. -/
theorem Matches.within (hle : ∀ x k m, takes x k m → k ≤ m) (h : Matches rules takes es i j)
    (hj : j ≤ b) : Matches rules (fun x k m => takes x k m ∧ m ≤ b) es i j := by
  induction h with
  | nil i => exact .nil i
  | lexeme hx ht hs ih => exact .lexeme hx ⟨ht, Nat.le_trans (hs.le hle) hj⟩ (ih hj)
  | name hn hbody _ hs ihbody ih =>
    exact .name hn hbody (ihbody (Nat.le_trans (hs.le hle) hj)) (ih hj)
  | seq _ ih => exact .seq (ih hj)
  | alt he _ ih => exact .alt he (ih hj)
  | rep hleast hmost _ ih => exact .rep hleast hmost (ih hj)

/-- Where related positions see the same lexemes taken, the same expressions match related
pieces. -/
theorem Matches.transfer {R : Nat → Nat → Prop}
    (hR : ∀ x k m k', R k k' → takes x k m → ∃ m', R m m' ∧ takes' x k' m')
    (h : Matches rules takes es i j) {i' : Nat} (hi : R i i') :
    ∃ j', R j j' ∧ Matches rules takes' es i' j' := by
  induction h generalizing i' with
  | nil => exact ⟨i', hi, .nil i'⟩
  | lexeme hx ht _ ih =>
    obtain ⟨k', hk, ht'⟩ := hR _ _ _ _ hi ht
    obtain ⟨j', hj, hrest⟩ := ih hk
    exact ⟨j', hj, .lexeme hx ht' hrest⟩
  | name hn hbody _ _ ihbody ih =>
    obtain ⟨k', hk, hmatch⟩ := ihbody hi
    obtain ⟨j', hj, hrest⟩ := ih hk
    exact ⟨j', hj, .name hn hbody hmatch hrest⟩
  | seq _ ih =>
    obtain ⟨j', hj, hrest⟩ := ih hi
    exact ⟨j', hj, .seq hrest⟩
  | alt he _ ih =>
    obtain ⟨j', hj, hrest⟩ := ih hi
    exact ⟨j', hj, .alt he hrest⟩
  | rep hleast hmost _ ih =>
    obtain ⟨j', hj, hrest⟩ := ih hi
    exact ⟨j', hj, .rep hleast hmost hrest⟩

/-- What takes more lexemes matches what is matched with fewer. -/
theorem Matches.imp (htakes : ∀ x k m, takes x k m → takes' x k m)
    (h : Matches rules takes es i j) : Matches rules takes' es i j := by
  have hmatches : ∃ j', j = j' ∧ Matches rules takes' es i j' :=
    h.transfer (R := Eq) (fun x k m k' hk hx => ⟨m, rfl, hk ▸ htakes x k m hx⟩) rfl
  obtain ⟨_, rfl, hmatches⟩ := hmatches
  exact hmatches

end QueryGate
