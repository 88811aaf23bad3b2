import QueryGate.Ebnf.Expr

/-!
# Equality of definitions

Whether two expressions are the same can be decided (`Expr.same_iff`), and with it whether two
definitions are.
-/

namespace QueryGate.Ebnf

namespace Expr

mutual

/-- Whether two expressions are the same. -/
def same : Expr → Expr → Bool
  | .literal value anyCase, .literal value' anyCase' => value == value' && anyCase == anyCase'
  | .pattern source flags, .pattern source' flags' => source == source' && flags == flags'
  | .range first last, .range first' last' => first == first' && last == last'
  | .name symbol, .name symbol' => symbol == symbol'
  | .seq parts, .seq parts' => sameAll parts parts'
  | .alt options, .alt options' => sameAll options options'
  | .rep body least most, .rep body' least' most' =>
    same body body' && least == least' && most == most'
  | _, _ => false

/-- Whether expressions are the same one by one. -/
def sameAll : List Expr → List Expr → Bool
  | [], [] => true
  | e :: es, e' :: es' => same e e' && sameAll es es'
  | _, _ => false

end

mutual

theorem same_iff : ∀ e e' : Expr, same e e' = true ↔ e = e'
  | .literal .., e' => by cases e' <;> simp [same]
  | .pattern .., e' => by cases e' <;> simp [same]
  | .range .., e' => by cases e' <;> simp [same]
  | .name _, e' => by cases e' <;> simp [same]
  | .seq parts, e' => by cases e' <;> simp [same, sameAll_iff parts]
  | .alt options, e' => by cases e' <;> simp [same, sameAll_iff options]
  | .rep body .., e' => by cases e' <;> simp [same, same_iff body, and_assoc]

theorem sameAll_iff : ∀ es es' : List Expr, sameAll es es' = true ↔ es = es'
  | [], es' => by cases es' <;> simp [sameAll]
  | e :: es, es' => by cases es' <;> simp [sameAll, same_iff e, sameAll_iff es]

end

end Expr

instance : DecidableEq Expr := fun e e' =>
  decidable_of_iff _ (Expr.same_iff e e')

deriving instance DecidableEq for Definition
deriving instance DecidableEq for Located

end QueryGate.Ebnf
