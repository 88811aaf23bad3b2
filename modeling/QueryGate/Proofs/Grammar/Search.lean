import QueryGate.Proofs.Grammar.Readings

/-!
# Finding matches

`derives rules fuel es xs` searches for a way in which the expressions match lexemes one after the
other, and what it finds is a match wherever the lexemes can be taken (`matches_of_derives`).
-/

namespace QueryGate

open Ebnf

variable {rules : List (String × Expr)} {takes : Lexeme → Nat → Nat → Prop} {es : List Expr}
  {xs : List Lexeme} {i j : Nat}

/-- Whether a match of the lexemes is found. Repetitions are tried as often as there are lexemes,
the bounds permitting. -/
def derives (rules : List (String × Expr)) : Nat → List Expr → List Lexeme → Bool
  | 0, _, _ => false
  | _ + 1, [], xs => xs.isEmpty
  | fuel + 1, e :: es, xs =>
    match e.lexeme?, e with
    | some x, _ => xs.head? == some x && derives rules fuel es xs.tail
    | none, .name n => (rules.lookup n).any fun body => derives rules fuel (body :: es) xs
    | none, .seq parts => derives rules fuel (parts ++ es) xs
    | none, .alt options => options.any fun e => derives rules fuel (e :: es) xs
    | none, .rep body least most =>
      (List.range (xs.length + 1)).any fun n =>
        (most.all fun m => decide (least + n ≤ max m least)) &&
          derives rules fuel (List.replicate (least + n) body ++ es) xs
    | none, _ => false

/-- The lexemes take the piece from one position to another, one after the other. -/
def TakesAll (takes : Lexeme → Nat → Nat → Prop) : List Lexeme → Nat → Nat → Prop
  | [], i, j => i = j
  | x :: xs, i, j => ∃ k, takes x i k ∧ TakesAll takes xs k j

/-- What the search finds is a match. -/
theorem matches_of_derives {fuel : Nat} (h : derives rules fuel es xs = true)
    (hxs : TakesAll takes xs i j) : Matches rules takes es i j := by
  induction fuel generalizing es xs i with
  | zero => cases h
  | succ fuel ih =>
    cases es with
    | nil =>
      obtain rfl := List.isEmpty_iff.mp h
      obtain rfl : i = j := hxs
      exact .nil i
    | cons e es =>
      cases hx : e.lexeme? with
      | some x =>
        simp only [derives, hx, Bool.and_eq_true, beq_iff_eq] at h
        obtain ⟨hhead, htail⟩ := h
        cases xs with
        | nil => cases hhead
        | cons y xs =>
          obtain rfl := Option.some.inj hhead
          obtain ⟨k, ht, hrest⟩ := hxs
          exact .lexeme hx ht (ih htail hrest)
      | none =>
        cases e with
        | name n =>
          have hn : isTerminalName n = false := by
            rw [Expr.lexeme?] at hx
            split_ifs at hx with hn
            exact Bool.eq_false_iff.mpr hn
          simp only [derives, hx] at h
          cases hlookup : rules.lookup n with
          | none => simp [hlookup] at h
          | some body =>
            rw [hlookup, Option.any_some] at h
            obtain ⟨before, after, hsplit, -⟩ := List.lookup_eq_some_iff.mp hlookup
            have hbody : (n, body) ∈ rules := by simp [hsplit]
            have hall : Matches rules takes ([body] ++ es) i j := ih h hxs
            obtain ⟨k, hfront, hrest⟩ := matches_append_iff.mp hall
            exact .name hn hbody hfront hrest
        | seq parts =>
          simp only [derives, hx] at h
          exact .seq (ih h hxs)
        | alt options =>
          simp only [derives, hx, List.any_eq_true] at h
          obtain ⟨e, he, h⟩ := h
          exact .alt he (ih h hxs)
        | rep body least most =>
          simp only [derives, hx, List.any_eq_true, Bool.and_eq_true] at h
          obtain ⟨n, -, hmost, h⟩ := h
          refine .rep (Nat.le_add_right least n) (fun m hm => ?_) (ih h hxs)
          rw [Option.mem_def.mp hm] at hmost
          exact of_decide_eq_true hmost
        | _ => cases hx

end QueryGate
