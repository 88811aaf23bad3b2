import QueryGate.Proofs.Ebnf.Expanded

/-!
# Expressions whose names can all be resolved

An expression can be resolved if nothing that its names lead to is undefined, the name of a rule or
part of a cycle (`Expr.Resolvable`). For one name this is well-founded (`Grounded`) : it is that of
a terminal whose expression has only such names in it. A cycle somewhere else does no harm, and
neither does a terminal that is referred to twice.

* `resolvable_iff` : both say the same, since there are only so many terminals;
* `names_expanded` : with everything in place that its names stand for, no names are left.
-/

namespace QueryGate.Ebnf

variable {terminals : List (String × Expr)} {name n : String} {e : Expr}

/-- A name in an expression, or one that such a name leads to. -/
def Expr.Reaches (terminals : List (String × Expr)) (e : Expr) (n : String) : Prop :=
  ∃ m ∈ e.names, Relation.ReflTransGen (Refers terminals) m n

/-- Whatever the names in an expression lead to is a terminal that is defined and does not refer to
itself, neither directly nor through others. -/
structure Expr.Resolvable (terminals : List (String × Expr)) (e : Expr) : Prop where
  isTerminalName : ∀ n, e.Reaches terminals n → isTerminalName n = true
  defined : ∀ n, e.Reaches terminals n → ∃ body, terminals.lookup n = some body
  acyclic : ∀ n, e.Reaches terminals n → ¬ Relation.TransGen (Refers terminals) n n

/-- The name of a terminal whose expression has only names of this kind in it. -/
inductive Grounded (terminals : List (String × Expr)) : String → Prop
  | intro {name : String} {e : Expr} (hname : isTerminalName name = true)
      (he : terminals.lookup name = some e) (h : ∀ n ∈ e.names, Grounded terminals n) :
      Grounded terminals name

namespace Grounded

theorem isTerminalName (h : Grounded terminals name) : isTerminalName name = true := by
  obtain ⟨hname, -, -⟩ := h
  exact hname

theorem of_refers (h : Grounded terminals name) (hrefers : Refers terminals name n) :
    Grounded terminals n := by
  obtain ⟨-, he, h⟩ := h
  obtain ⟨e, he', hn⟩ := hrefers
  obtain rfl := Option.some.inj (he.symm.trans he')
  exact h n hn

theorem of_reaches (h : Grounded terminals name)
    (hpath : Relation.ReflTransGen (Refers terminals) name n) : Grounded terminals n := by
  induction hpath with
  | refl => exact h
  | tail _ hrefers ih => exact ih.of_refers hrefers

/-- A cycle through a name would be one through a name in its expression. -/
theorem not_refers_self (h : Grounded terminals name) :
    ¬ Relation.TransGen (Refers terminals) name name := by
  induction h with
  | @intro name e _ he _ ih =>
    intro hcycle
    obtain ⟨n, hrefers, hback⟩ := Relation.TransGen.head'_iff.mp hcycle
    obtain ⟨e', he', hn⟩ := hrefers
    obtain rfl := Option.some.inj (he.symm.trans he')
    exact ih n hn (.tail' hback ⟨e, he, hn⟩)

theorem loopFree (h : Grounded terminals name) : LoopFree terminals name :=
  fun _ hpath => (h.of_reaches hpath).not_refers_self

end Grounded

/-- What an expression reaches is reached from its names. -/
theorem Expr.Resolvable.grounded (h : e.Resolvable terminals) : ∀ n ∈ e.names,
    Grounded terminals n := by
  suffices hreached : ∀ k n, rank terminals n = k → e.Reaches terminals n → Grounded terminals n
    from fun n hn => hreached _ n rfl ⟨n, hn, .refl⟩
  -- what a name refers to is of lower rank
  intro k
  induction k using Nat.strong_induction_on with
  | _ k ih =>
    rintro n rfl hn
    obtain ⟨body, hbody⟩ := h.defined n hn
    refine .intro (h.isTerminalName n hn) hbody fun m hm => ?_
    have hrefers : Refers terminals n m := ⟨body, hbody, hm⟩
    obtain ⟨n₀, hn₀, hpath⟩ := hn
    have hreaches : e.Reaches terminals m := ⟨n₀, hn₀, hpath.tail hrefers⟩
    obtain ⟨body', hbody'⟩ := h.defined m hreaches
    exact ih _ (rank_lt_rank (h.acyclic m hreaches) hrefers hbody') m rfl hreaches

/-- An expression can be resolved exactly if its names are grounded. -/
theorem resolvable_iff : e.Resolvable terminals ↔ ∀ n ∈ e.names, Grounded terminals n := by
  refine ⟨Expr.Resolvable.grounded, fun h => ?_⟩
  have hreached : ∀ n, e.Reaches terminals n → Grounded terminals n := by
    rintro n ⟨m, hm, hpath⟩
    exact (h m hm).of_reaches hpath
  refine ⟨fun n hn => (hreached n hn).isTerminalName, fun n hn => ?_,
    fun n hn => (hreached n hn).not_refers_self⟩
  obtain ⟨-, he, -⟩ := hreached n hn
  exact ⟨_, he⟩

/-! ## No names are left -/

mutual

/-- The names of an expression with others in place of its names are those of the others. -/
theorem Expr.names_expand (named : String → Expr) : ∀ e : Expr,
    (e.expand named).names = e.names.flatMap fun n => (named n).names
  | .literal _ _ | .pattern _ _ | .range _ _ => rfl
  | .name _ => (List.flatMap_singleton ..).symm
  | .seq parts => Expr.namesOf_expandAll named parts
  | .alt options => Expr.namesOf_expandAll named options
  | .rep body _ _ => Expr.names_expand named body

theorem Expr.namesOf_expandAll (named : String → Expr) : ∀ es : List Expr,
    Expr.namesOf (Expr.expandAll named es) = (Expr.namesOf es).flatMap fun n => (named n).names
  | [] => rfl
  | e :: es => by
    rw [Expr.expandAll, Expr.namesOf, Expr.namesOf, List.flatMap_append,
      Expr.names_expand named e, Expr.namesOf_expandAll named es]

end

theorem Grounded.names_expanded (h : Grounded terminals name) :
    ((Expr.name name).expanded terminals).names = [] := by
  induction h with
  | @intro name e hname he h ih =>
    rw [expanded_name (Grounded.intro hname he h).loopFree he, Expr.names, Expr.namesOf,
      Expr.namesOf, List.append_nil, Expr.expanded, Expr.names_expand]
    exact List.flatMap_eq_nil_iff.mpr ih

/-- With everything in place, no names are left. -/
theorem names_expanded (h : ∀ n ∈ e.names, Grounded terminals n) :
    (e.expanded terminals).names = [] := by
  rw [Expr.expanded, Expr.names_expand]
  exact List.flatMap_eq_nil_iff.mpr fun n hn => (h n hn).names_expanded

end QueryGate.Ebnf
