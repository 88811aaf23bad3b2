import QueryGate.Proofs.Grammar.Leaves
import QueryGate.Proofs.Grammar.Readings

/-!
# Brackets in what expressions match

Whether every round bracket is closed behind where it is opened can be seen from the expressions of
the rules, one by one (`Expr.isBalanced`) : where it is so for all rules, the brackets of what they
match are balanced (`Matches.balanced`).
-/

namespace QueryGate

open Ebnf

/-- The bracket that opens. -/
def openingLexeme : Lexeme := .literal "(" false

/-- The bracket that closes. -/
def closingLexeme : Lexeme := .literal ")" false

namespace Ebnf.Expr

mutual

/-- Whether an expression closes the brackets that it opens, and no others. -/
def isBalanced : Expr → Bool
  | .seq parts => closes 0 parts
  | .alt options => areBalanced options
  | .rep body _ _ => isBalanced body
  | e => e.lexeme? != some openingLexeme && e.lexeme? != some closingLexeme

/-- Whether expressions close as many brackets as given, besides those that they open. -/
def closes : Nat → List Expr → Bool
  | depth, [] => depth == 0
  | depth, e :: es =>
    if e.lexeme? = some openingLexeme then closes (depth + 1) es
    else if e.lexeme? = some closingLexeme then depth != 0 && closes (depth - 1) es
    else isBalanced e && closes depth es

/-- Whether all expressions close the brackets that they open. -/
def areBalanced : List Expr → Bool
  | [] => true
  | e :: es => isBalanced e && areBalanced es

end

variable {e : Expr} {es es' : List Expr} {n depth depth' : Nat}

theorem areBalanced_iff : areBalanced es = true ↔ ∀ e ∈ es, e.isBalanced = true := by
  induction es with
  | nil => simp [areBalanced]
  | cons e es ih => simp [areBalanced, ih]

theorem closes_append (h : closes depth es = true) (h' : closes depth' es' = true) :
    closes (depth + depth') (es ++ es') = true := by
  induction es generalizing depth with
  | nil =>
    obtain rfl := beq_iff_eq.mp h
    rwa [Nat.zero_add]
  | cons e es ih =>
    rw [List.cons_append]
    unfold closes at h ⊢
    split_ifs at h ⊢
    · have hmore := ih h
      rwa [Nat.add_right_comm] at hmore
    · rw [Bool.and_eq_true, bne_iff_ne] at h ⊢
      have hless := ih h.2
      rw [show depth + depth' - 1 = depth - 1 + depth' by omega]
      exact ⟨by omega, hless⟩
    · rw [Bool.and_eq_true] at h ⊢
      exact ⟨h.1, ih h.2⟩

/-- An expression that leaves no bracket open can stand anywhere. -/
theorem closes_cons (he : e.isBalanced = true) (hes : closes depth es = true) :
    closes depth (e :: es) = true := by
  have hnone : e.lexeme? ≠ some openingLexeme ∧ e.lexeme? ≠ some closingLexeme := by
    cases e with
    | seq | alt | rep => exact ⟨nofun, nofun⟩
    | _ => simpa [isBalanced] using he
  rw [closes, if_neg hnone.1, if_neg hnone.2, he, hes]
  rfl

theorem closes_replicate (he : e.isBalanced = true) (n : Nat) :
    closes 0 (List.replicate n e) = true := by
  induction n with
  | zero => rfl
  | succ n ih => exact closes_cons he ih

theorem closes_singleton (he : e.isBalanced = true) : closes 0 [e] = true :=
  closes_cons he (beq_self_eq_true 0)

/-- What is no terminal leaves no bracket open. -/
theorem of_closes_cons (hnone : e.lexeme? = none) (h : closes depth (e :: es) = true) :
    e.isBalanced = true ∧ closes depth es = true := by
  rwa [closes, if_neg (by simp [hnone]), if_neg (by simp [hnone]), Bool.and_eq_true] at h

end Ebnf.Expr

/-- How many more brackets have been opened than closed in front of a position. -/
def surplus (xs : List Lexeme) (k : Nat) : Int :=
  (xs.take k).count openingLexeme - (xs.take k).count closingLexeme

variable {rules : List (String × Expr)} {es : List Expr} {xs : List Lexeme} {x : Lexeme}
  {i j k depth : Nat}

theorem surplus_succ (h : xs[k]? = some x) : surplus xs (k + 1) =
    surplus xs k + (if x = openingLexeme then 1 else 0) - (if x = closingLexeme then 1 else 0) := by
  rw [surplus, surplus, List.take_add_one, h, Option.toList_some, List.count_append,
    List.count_append, List.count_singleton, List.count_singleton]
  simp only [beq_iff_eq]
  split_ifs <;> omega

/-- Between two positions no more than `depth` brackets are closed that have not been opened there,
and at the second one as many are. -/
def Descends (xs : List Lexeme) (depth i j : Nat) : Prop :=
  (∀ k, i ≤ k → k ≤ j → surplus xs i ≤ surplus xs k + depth) ∧ surplus xs i = surplus xs j + depth

theorem descends_refl (xs : List Lexeme) (i : Nat) : Descends xs 0 i i := by
  refine ⟨fun k hik hki => ?_, by simp⟩
  rw [Nat.le_antisymm hki hik]
  simp

theorem Descends.trans {depth' m : Nat} (h : Descends xs depth i m) (h' : Descends xs depth' m j) :
    Descends xs (depth + depth') i j := by
  obtain ⟨hfront, hmiddle⟩ := h
  obtain ⟨hback, hend⟩ := h'
  refine ⟨fun k hik hkj => ?_, by omega⟩
  rcases Nat.le_total k m with hkm | hmk
  · have hk := hfront k hik hkm
    omega
  · have hk := hback k hmk hkj
    omega

/-- One more lexeme in front, after which `depth'` brackets are left to be closed. -/
theorem Descends.cons {depth' : Nat} (h : Descends xs depth' (i + 1) j)
    (hdepth : surplus xs (i + 1) - depth' = surplus xs i - depth) : Descends xs depth i j := by
  obtain ⟨hopened, hend⟩ := h
  refine ⟨fun k hik hkj => ?_, by omega⟩
  rcases Nat.eq_or_lt_of_le hik with rfl | hlt
  · omega
  · have hk := hopened k hlt hkj
    omega

/-- In a match, brackets are closed as the expressions say. -/
theorem Matches.descends (hrules : ∀ e ∈ rules, e.2.isBalanced = true)
    (h : Matches rules (LexemeAt xs) es i j) (hes : Expr.closes depth es = true) :
    Descends xs depth i j := by
  induction h generalizing depth with
  | nil i =>
    obtain rfl := beq_iff_eq.mp hes
    exact descends_refl xs i
  | @lexeme e es x i k j hx ht _ ih =>
    obtain ⟨hstands, rfl⟩ := ht
    have hstep := surplus_succ hstands
    have hne : openingLexeme ≠ closingLexeme := by decide
    rw [Expr.closes, hx] at hes
    split_ifs at hes with hopening hclosing
    · rw [Option.some.inj hopening, if_pos rfl, if_neg hne] at hstep
      exact (ih hes).cons (by omega)
    · rw [Option.some.inj hclosing, if_neg hne.symm, if_pos rfl] at hstep
      rw [Bool.and_eq_true, bne_iff_ne] at hes
      exact (ih hes.2).cons (by omega)
    · rw [if_neg fun heq => hopening (congrArg some heq),
        if_neg fun heq => hclosing (congrArg some heq)] at hstep
      rw [Bool.and_eq_true] at hes
      exact (ih hes.2).cons (by omega)
  | @name n body es i m j hn hbody h hs ihbody ih =>
    have hnone : (Expr.name n).lexeme? = none := by simp [Expr.lexeme?, hn]
    obtain ⟨-, hrest⟩ := Expr.of_closes_cons hnone hes
    exact Nat.zero_add depth ▸ (ihbody (Expr.closes_singleton (hrules _ hbody))).trans (ih hrest)
  | seq _ ih =>
    obtain ⟨hparts, hrest⟩ := Expr.of_closes_cons rfl hes
    exact ih (Nat.zero_add depth ▸ Expr.closes_append hparts hrest)
  | alt he _ ih =>
    obtain ⟨hoptions, hrest⟩ := Expr.of_closes_cons rfl hes
    exact ih (Expr.closes_cons (Expr.areBalanced_iff.mp hoptions _ he) hrest)
  | rep _ _ _ ih =>
    obtain ⟨hbody, hrest⟩ := Expr.of_closes_cons rfl hes
    rw [Expr.isBalanced] at hbody
    exact ih (Nat.zero_add depth ▸ Expr.closes_append (Expr.closes_replicate hbody _) hrest)

/-- Brackets are balanced in what expressions match that leave none open. -/
theorem Matches.balanced (hrules : ∀ e ∈ rules, e.2.isBalanced = true)
    (h : Matches rules (LexemeAt xs) es 0 xs.length) (hes : Expr.closes 0 es = true) :
    (∀ k, (xs.take k).count closingLexeme ≤ (xs.take k).count openingLexeme) ∧
      xs.count closingLexeme = xs.count openingLexeme := by
  obtain ⟨hopened, hend⟩ := h.descends hrules hes
  have hzero : surplus xs 0 = 0 := rfl
  have hwhole : surplus xs xs.length = xs.count openingLexeme - xs.count closingLexeme := by
    rw [surplus, List.take_length]
  refine ⟨fun k => ?_, by omega⟩
  rcases Nat.le_total k xs.length with hk | hk
  · have hle := hopened k (Nat.zero_le k) hk
    rw [hzero, surplus] at hle
    omega
  · rw [List.take_of_length_le hk]
    omega

end QueryGate
