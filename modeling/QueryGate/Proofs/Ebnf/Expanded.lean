import Mathlib.Data.Finset.Card
import Mathlib.Logic.Relation
import QueryGate.Ebnf.Expr

/-!
# Names in place

Names in an expression stand for the expressions of terminals. Where no terminal refers to itself,
not even through others (`Acyclic`, and `LoopFree` for those that a name leads to), following names
as deep as there are terminals leaves none that stands for something (`Expr.expanded`), and a name
is the same as its expression in a group of its own (`expanded_name`). Terminals are ranked by how
many others they refer to, directly or not (`rank_lt_rank`).
-/

namespace QueryGate.Ebnf

/-! ## Expressions in place of names -/

namespace Expr

mutual

/-- The names in an expression. -/
def names : Expr → List String
  | .name symbol => [symbol]
  | .seq parts => namesOf parts
  | .alt options => namesOf options
  | .rep body _ _ => names body
  | _ => []

/-- The names in expressions. -/
def namesOf : List Expr → List String
  | [] => []
  | e :: es => names e ++ namesOf es

end

mutual

/-- An expression with others in place of its names. -/
def expand (named : String → Expr) : Expr → Expr
  | .name symbol => named symbol
  | .seq parts => .seq (expandAll named parts)
  | .alt options => .alt (expandAll named options)
  | .rep body least most => .rep (expand named body) least most
  | e => e

/-- Expressions with others in place of their names. -/
def expandAll (named : String → Expr) : List Expr → List Expr
  | [] => []
  | e :: es => expand named e :: expandAll named es

end

variable {named named' : String → Expr}

theorem namesOf_eq (es : List Expr) : namesOf es = es.flatMap names := by
  induction es with
  | nil => rfl
  | cons e es ih => rw [namesOf, ih, List.flatMap_cons]

theorem expandAll_eq (named : String → Expr) (es : List Expr) :
    expandAll named es = es.map (expand named) := by
  induction es with
  | nil => rfl
  | cons e es ih => rw [expandAll, ih, List.map_cons]

mutual

/-- Only the names in the expression matter. -/
theorem expand_congr : ∀ e : Expr, (∀ n ∈ e.names, named n = named' n) →
    e.expand named = e.expand named'
  | .literal _ _, _ | .pattern _ _, _ | .range _ _, _ => rfl
  | .name symbol, h => h symbol (List.mem_singleton_self _)
  | .seq parts, h => by rw [expand, expand, expandAll_congr parts h]
  | .alt options, h => by rw [expand, expand, expandAll_congr options h]
  | .rep body least most, h => by rw [expand, expand, expand_congr body h]

theorem expandAll_congr : ∀ es : List Expr, (∀ n ∈ namesOf es, named n = named' n) →
    expandAll named es = expandAll named' es
  | [], _ => rfl
  | e :: es, h => by
    rw [expandAll, expandAll, expand_congr e fun n hn => h n (List.mem_append_left _ hn),
      expandAll_congr es fun n hn => h n (List.mem_append_right _ hn)]

end

end Expr

/-- What a name stands for when names are followed so deep : its expression in a group of its own.
Names of nothing are left. -/
def expansion (terminals : List (String × Expr)) : Nat → String → Expr
  | 0, name => .name name
  | depth + 1, name =>
    match terminals.lookup name with
    | none => .name name
    | some e => .seq [e.expand (expansion terminals depth)]

/-- An expression with everything in place that its names stand for. -/
def Expr.expanded (terminals : List (String × Expr)) (e : Expr) : Expr :=
  e.expand (expansion terminals terminals.length)

/-! ## Terminals that do not refer to themselves -/

/-- The expression of a terminal has the name in it. -/
def Refers (terminals : List (String × Expr)) (name n : String) : Prop :=
  ∃ e, terminals.lookup name = some e ∧ n ∈ e.names

/-- No terminal refers to itself, neither directly nor through others. -/
def Acyclic (terminals : List (String × Expr)) : Prop :=
  ∀ name, ¬ Relation.TransGen (Refers terminals) name name

/-- No terminal that a name leads to refers to itself. -/
def LoopFree (terminals : List (String × Expr)) (name : String) : Prop :=
  ∀ n, Relation.ReflTransGen (Refers terminals) name n →
    ¬ Relation.TransGen (Refers terminals) n n

variable {terminals : List (String × Expr)} {name n : String} {e : Expr} {depth depth' : Nat}

theorem Acyclic.loopFree (hacyclic : Acyclic terminals) (name : String) :
    LoopFree terminals name :=
  fun n _ => hacyclic n

theorem LoopFree.of_refers (h : LoopFree terminals name) (hrefers : Refers terminals name n) :
    LoopFree terminals n :=
  fun m hm => h m (.head hrefers hm)

theorem LoopFree.not_refers_self (h : LoopFree terminals name) :
    ¬ Relation.TransGen (Refers terminals) name name :=
  h name .refl

/-- Terminals that only refer to smaller ones do not refer to themselves. -/
theorem acyclic_of_lt (size : String → Nat)
    (h : ∀ t ∈ terminals, ∀ n ∈ t.2.names, size n < size t.1) : Acyclic terminals := by
  have hlt : ∀ {name n}, Refers terminals name n → size n < size name := by
    rintro name n ⟨e, he, hn⟩
    obtain ⟨before, after, rfl, -⟩ := List.lookup_eq_some_iff.mp he
    exact h (name, e) (List.mem_append_right _ (List.mem_cons_self ..)) n hn
  have hpath : ∀ {name n}, Relation.TransGen (Refers terminals) name n → size n < size name := by
    intro name n hpath
    induction hpath with
    | single hrefers => exact hlt hrefers
    | tail _ hrefers ih => exact (hlt hrefers).trans ih
  exact fun name h => Nat.lt_irrefl _ (hpath h)

open Classical in
/-- The terminals that a terminal refers to, directly or through others. -/
noncomputable def below (terminals : List (String × Expr)) (name : String) : Finset String :=
  (terminals.map Prod.fst).toFinset.filter (Relation.TransGen (Refers terminals) name)

/-- How many terminals a terminal refers to, directly or through others. -/
noncomputable def rank (terminals : List (String × Expr)) (name : String) : Nat :=
  (below terminals name).card

theorem mem_below_iff (h : terminals.lookup n = some e) :
    n ∈ below terminals name ↔ Relation.TransGen (Refers terminals) name n := by
  obtain ⟨before, after, rfl, -⟩ := List.lookup_eq_some_iff.mp h
  simp [below]

theorem below_subset (name : String) :
    below terminals name ⊆ (terminals.map Prod.fst).toFinset := by
  classical exact Finset.filter_subset ..

theorem rank_lt_length (hself : ¬ Relation.TransGen (Refers terminals) name name)
    (h : terminals.lookup name = some e) : rank terminals name < terminals.length := by
  have hname : name ∈ (terminals.map Prod.fst).toFinset := by
    obtain ⟨before, after, rfl, -⟩ := List.lookup_eq_some_iff.mp h
    simp
  have hproper : below terminals name ⊂ (terminals.map Prod.fst).toFinset :=
    (below_subset name).ssubset_of_mem_notMem hname
      fun hmem => hself ((mem_below_iff h).mp hmem)
  calc rank terminals name < (terminals.map Prod.fst).toFinset.card := Finset.card_lt_card hproper
    _ ≤ (terminals.map Prod.fst).length := List.toFinset_card_le _
    _ = terminals.length := List.length_map ..

/-- What a terminal refers to is of lower rank. -/
theorem rank_lt_rank (hself : ¬ Relation.TransGen (Refers terminals) n n)
    (hrefers : Refers terminals name n) (h : terminals.lookup n = some e) :
    rank terminals n < rank terminals name := by
  classical
  have hsubset : below terminals n ⊆ below terminals name := fun n' hn' =>
    Finset.mem_filter.mpr ⟨below_subset n hn', .head hrefers (Finset.mem_filter.mp hn').2⟩
  exact Finset.card_lt_card (hsubset.ssubset_of_mem_notMem
    ((mem_below_iff h).mpr (.single hrefers)) fun hmem => hself ((mem_below_iff h).mp hmem))

theorem expansion_of_lookup (h : terminals.lookup name = some e) (depth : Nat) :
    expansion terminals (depth + 1) name = .seq [e.expand (expansion terminals depth)] := by
  rw [expansion, h]

theorem expansion_of_lookup_none (h : terminals.lookup name = none) (depth : Nat) :
    expansion terminals depth name = .name name := by
  cases depth with
  | zero => rfl
  | succ depth => rw [expansion, h]

/-- Following names deeper than their rank makes no difference. -/
theorem expansion_eq_expansion (hloops : LoopFree terminals name)
    (h : rank terminals name < depth) (h' : rank terminals name < depth') :
    expansion terminals depth name = expansion terminals depth' name := by
  induction depth generalizing depth' name with
  | zero => omega
  | succ depth ih =>
    obtain ⟨depth', rfl⟩ : ∃ k, depth' = k + 1 := ⟨depth' - 1, by omega⟩
    cases hname : terminals.lookup name with
    | none => rw [expansion_of_lookup_none hname, expansion_of_lookup_none hname]
    | some e =>
      rw [expansion_of_lookup hname, expansion_of_lookup hname]
      refine congrArg (fun e => Expr.seq [e]) (Expr.expand_congr e fun n hn => ?_)
      cases hn' : terminals.lookup n with
      | none => rw [expansion_of_lookup_none hn', expansion_of_lookup_none hn']
      | some e' =>
        have hloops' : LoopFree terminals n := hloops.of_refers ⟨e, hname, hn⟩
        have hlt := rank_lt_rank hloops'.not_refers_self ⟨e, hname, hn⟩ hn'
        exact ih hloops' (by omega) (by omega)

/-- A name is its expression in a group of its own. -/
theorem expanded_name (hloops : LoopFree terminals name) (h : terminals.lookup name = some e) :
    (Expr.name name).expanded terminals = .seq [e.expanded terminals] := by
  have hlt := rank_lt_length hloops.not_refers_self h
  rw [Expr.expanded, Expr.expand,
    expansion_eq_expansion hloops hlt (Nat.lt_succ_of_lt hlt), expansion_of_lookup h]
  rfl

end QueryGate.Ebnf
