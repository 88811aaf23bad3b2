import QueryGate.Proofs.Ebnf.Grounded
import QueryGate.Proofs.Grammar.Lexicon

/-!
# What the resolver writes

A pattern that the resolver gives for an expression is that of the expression with everything in
place of its names (`Expr.written`), in whatever order patterns were asked for before
(`Resolver.Reached`) : a pattern that is known is the one that would be written again
(`Resolver.Sound`). The names in such an expression are in a scope (`Resolver.Scope`) : they are
grounded, and where no terminal refers to itself all names may count as such.
-/

namespace QueryGate

open Ebnf TerminalPattern

namespace Ebnf.Expr

mutual

/-- The pattern of an expression without names. -/
def written : Expr → List Char
  | .literal value anyCase => ofLiteral value anyCase
  | .pattern source flags => ofPattern source flags
  | .range first last => ofRange first last
  | .name _ => []
  | .seq parts => grouped (writtenAll parts).flatten
  | .alt options => grouped ((writtenAll options).intersperse ['|']).flatten
  | .rep body least most => grouped (written body) ++ repetition least most

/-- The patterns of expressions without names. -/
def writtenAll : List Expr → List (List Char)
  | [] => []
  | e :: es => written e :: writtenAll es

end

theorem writtenAll_eq (es : List Expr) : writtenAll es = es.map written := by
  induction es with
  | nil => rfl
  | cons e es ih => rw [writtenAll, ih, List.map_cons]

end Ebnf.Expr

/-! ## Steps of the resolver -/

namespace Resolver

/-- Names that lead to no cycle. A terminal belongs to them if all names in its expression do. -/
structure Scope (terminals : List (String × Expr)) (scope : String → Prop) : Prop where
  loopFree : ∀ n, scope n → LoopFree terminals n
  intro : ∀ n e, isTerminalName n = true → terminals.lookup n = some e →
    (∀ m ∈ e.names, scope m) → scope n

theorem scope_grounded (terminals : List (String × Expr)) : Scope terminals (Grounded terminals) :=
  ⟨fun _ h => h.loopFree, fun _ _ hname he h => .intro hname he h⟩

theorem scope_of_acyclic {terminals : List (String × Expr)} (hacyclic : Acyclic terminals) :
    Scope terminals fun _ => True :=
  ⟨fun n _ => hacyclic.loopFree n, fun _ _ _ _ _ => trivial⟩

/-- The names in an expression are in scope, and the pattern is what is written for it. -/
structure IsWritten (terminals : List (String × Expr)) (scope : String → Prop) (e : Expr)
    (p : List Char) : Prop where
  names : ∀ n ∈ e.names, scope n
  eq_written : p = (e.expanded terminals).written

/-- The names in expressions are in scope, and the patterns are what is written for them. -/
structure AreWritten (terminals : List (String × Expr)) (scope : String → Prop) (es : List Expr)
    (ps : List (List Char)) : Prop where
  names : ∀ n ∈ Expr.namesOf es, scope n
  eq_written : ps = Expr.writtenAll (Expr.expandAll (expansion terminals terminals.length) es)

/-- The pattern is what is written for the terminal with the name. -/
def IsWrittenFor (terminals : List (String × Expr)) (scope : String → Prop) (name : String)
    (p : List Char) : Prop :=
  ∃ e, terminals.lookup name = some e ∧ IsWritten terminals scope e p

/-- Every known pattern is what is written for the terminal. -/
def Sound (terminals : List (String × Expr)) (scope : String → Prop) (known : Resolver) : Prop :=
  ∀ name p, known.resolved.lookup name = some p → IsWrittenFor terminals scope name p

/-- Where the step succeeds, its result is as it should be, and what is known stays right. Names in
progress are those it began with. -/
def Ensures {α : Type} (terminals : List (String × Expr)) (scope : String → Prop)
    (step : Resolve α) (post : α → Prop) : Prop :=
  ∀ known a known', known.Sound terminals scope → step known = .ok (a, known') →
    post a ∧ known'.Sound terminals scope ∧ known'.inProgress = known.inProgress

variable {α β : Type} {terminals : List (String × Expr)} {scope : String → Prop}
  {known known' : Resolver} {a : α} {post : α → Prop} {post' : β → Prop} {step : Resolve α}
  {next : α → Resolve β} {name owner : String} {e : Expr} {p : List Char} {fuel : Nat}
  {named : String → String → Resolve (List Char)}

theorem sound_empty : Sound terminals scope {} := by
  intro name p h
  cases h

theorem Sound.cons {resolved : List (String × List Char)} {names names' : List String}
    (h : Sound terminals scope ⟨resolved, names⟩) (he : terminals.lookup name = some e)
    (hp : IsWritten terminals scope e p) :
    Sound terminals scope ⟨(name, p) :: resolved, names'⟩ := by
  intro n q hn
  rw [List.lookup_cons] at hn
  split at hn
  · next heq =>
    obtain rfl := beq_iff_eq.mp heq
    exact ⟨e, he, Option.some.inj hn ▸ hp⟩
  · exact h n q hn

theorem ensures_pure (h : post a) : Ensures terminals scope (pure a) post := by
  intro known a' known' hsound hrun
  obtain ⟨rfl, rfl⟩ := Prod.mk.inj (Except.ok.inj hrun)
  exact ⟨h, hsound, rfl⟩

theorem ensures_throw (fault : GrammarError) : Ensures terminals scope (throw fault) post := by
  intro known a known' hsound hrun
  cases hrun

theorem Ensures.bind (hstep : Ensures terminals scope step post)
    (hnext : ∀ a, post a → Ensures terminals scope (next a) post') :
    Ensures terminals scope (step >>= next) post' := by
  intro known b known' hsound hrun
  obtain ⟨a, k, hrun, hrun'⟩ := Build.bind_eq_ok.mp hrun
  obtain ⟨ha, hsound', hprogress⟩ := hstep _ _ _ hsound hrun
  obtain ⟨hb, hsound'', hprogress'⟩ := hnext a ha _ _ _ hsound' hrun'
  exact ⟨hb, hsound'', hprogress'.trans hprogress⟩

theorem IsWrittenFor.grouped (hscope : Scope terminals scope) (hname : isTerminalName name = true)
    (h : IsWrittenFor terminals scope name p) :
    IsWritten terminals scope (.name name) (TerminalPattern.grouped p) := by
  obtain ⟨e, he, hnames, rfl⟩ := h
  have hin : scope name := hscope.intro name e hname he hnames
  refine ⟨fun n hn => List.mem_singleton.mp hn ▸ hin, ?_⟩
  rw [expanded_name (hscope.loopFree name hin) he, Expr.written, Expr.writtenAll, Expr.writtenAll,
    List.flatten_singleton]

mutual

/-- What is written for an expression, if this is so for its names. -/
theorem ensures_patternOf (hscope : Scope terminals scope)
    (hnamed : ∀ name owner,
      Ensures terminals scope (named name owner) (IsWrittenFor terminals scope name))
    (owner : String) : ∀ e : Expr,
    Ensures terminals scope (patternOf named owner e) (IsWritten terminals scope e)
  | .literal _ _ | .pattern _ _ | .range _ _ => ensures_pure ⟨nofun, rfl⟩
  | .name symbol => by
    rw [patternOf]
    split_ifs with hname
    · exact (hnamed symbol owner).bind fun p hp => ensures_pure (hp.grouped hscope hname)
    · exact ensures_throw _
  | .seq parts => (ensures_patternsOf hscope hnamed owner parts).bind
      fun ps hps => ensures_pure ⟨hps.names, by rw [hps.eq_written]; rfl⟩
  | .alt options => (ensures_patternsOf hscope hnamed owner options).bind
      fun ps hps => ensures_pure ⟨hps.names, by rw [hps.eq_written]; rfl⟩
  | .rep body least most => (ensures_patternOf hscope hnamed owner body).bind
      fun p hp => ensures_pure ⟨hp.names, by rw [hp.eq_written]; rfl⟩

theorem ensures_patternsOf (hscope : Scope terminals scope)
    (hnamed : ∀ name owner,
      Ensures terminals scope (named name owner) (IsWrittenFor terminals scope name))
    (owner : String) : ∀ es : List Expr,
    Ensures terminals scope (patternsOf named owner es) (AreWritten terminals scope es)
  | [] => ensures_pure ⟨nofun, rfl⟩
  | e :: es => (ensures_patternOf hscope hnamed owner e).bind fun p hp =>
      (ensures_patternsOf hscope hnamed owner es).bind fun ps hps => ensures_pure
        ⟨List.forall_mem_append.mpr ⟨hp.names, hps.names⟩,
          by rw [hp.eq_written, hps.eq_written]; rfl⟩

end

/-- A pattern that is given for a name was known, or it is written now. -/
theorem cases_of_namedPattern
    (hrun : namedPattern terminals fuel name owner known = .ok (p, known')) :
    (known.resolved.lookup name = some p ∧ known' = known) ∨
      ∃ n e k, fuel = n + 1 ∧ terminals.lookup name = some e ∧
        patternOf (namedPattern terminals n) name e
          { known with inProgress := name :: known.inProgress } = .ok (p, k) ∧
        known' = ⟨(name, p) :: k.resolved, k.inProgress.erase name⟩ := by
  cases hknown : known.resolved.lookup name with
  | some p' =>
    obtain ⟨rfl, rfl⟩ := Prod.mk.inj (Except.ok.inj
      ((namedPattern_of_resolved hknown).symm.trans hrun))
    exact Or.inl ⟨rfl, rfl⟩
  | none =>
    cases he : terminals.lookup name with
    | none => cases (namedPattern_of_lookup_none hknown he).symm.trans hrun
    | some e =>
      by_cases hbusy : name ∈ known.inProgress
      · cases (namedPattern_of_mem_inProgress hknown he hbusy).symm.trans hrun
      · cases fuel with
        | zero =>
          unfold TerminalPattern.namedPattern at hrun
          simp only [get_bind_apply, hknown, he, List.contains_iff_mem, if_neg hbusy] at hrun
          cases hrun
        | succ n =>
          rw [namedPattern_of_lookup hknown he hbusy] at hrun
          obtain ⟨⟨q, k⟩, hpattern, hrun⟩ := except_bind_eq_ok.mp hrun
          obtain ⟨rfl, rfl⟩ := Prod.mk.inj (Except.ok.inj hrun)
          exact Or.inr ⟨n, e, k, rfl, rfl, hpattern, rfl⟩

/-- The pattern of a name is what is written for its terminal. -/
theorem ensures_namedPattern (hscope : Scope terminals scope) (fuel : Nat) (name owner : String) :
    Ensures terminals scope (namedPattern terminals fuel name owner)
      (IsWrittenFor terminals scope name) := by
  induction fuel generalizing name owner with
  | zero =>
    intro known p known' hsound hrun
    rcases cases_of_namedPattern hrun with ⟨hp, rfl⟩ | ⟨n, e, k, hn, -⟩
    · exact ⟨hsound name p hp, hsound, rfl⟩
    · cases hn
  | succ n ih =>
    intro known p known' hsound hrun
    rcases cases_of_namedPattern hrun with ⟨hp, rfl⟩ | ⟨_, e, k, hn, he, hpattern, rfl⟩
    · exact ⟨hsound name p hp, hsound, rfl⟩
    · obtain rfl := Nat.succ.inj hn
      have hstart : Sound terminals scope ⟨known.resolved, name :: known.inProgress⟩ := hsound
      obtain ⟨hp, hk, hprogress⟩ := ensures_patternOf hscope ih name e _ _ _ hstart hpattern
      exact ⟨⟨e, he, hp⟩, hk.cons he hp, by simp [hprogress]⟩

/-! ## From pattern to pattern -/

/-- What is known after patterns have been asked for, one by one. -/
inductive Reached (terminals : List (String × Expr)) : Resolver → Prop
  | start : Reached terminals {}
  | ofName {known known' : Resolver} {name owner : String} {p : List Char}
      (h : Reached terminals known) (hrun : ofName terminals name owner known = .ok (p, known')) :
      Reached terminals known'
  | ofExpr {known known' : Resolver} {owner : String} {e : Expr} {p : List Char}
      (h : Reached terminals known) (hrun : ofExpr terminals owner e known = .ok (p, known')) :
      Reached terminals known'

/-- The pattern of an expression among terminals is what is written for it. -/
theorem isWritten_ofExpr (hscope : Scope terminals scope) (owner : String) (e : Expr) :
    Ensures terminals scope (ofExpr terminals owner e) (IsWritten terminals scope e) :=
  ensures_patternOf hscope (ensures_namedPattern hscope _) owner e

/-- Between patterns, what is known is right and nothing is in progress. -/
theorem Reached.soundIn (hscope : Scope terminals scope) (h : Reached terminals known) :
    known.Sound terminals scope ∧ known.inProgress = [] := by
  induction h with
  | start => exact ⟨sound_empty, rfl⟩
  | ofName _ hrun ih =>
    obtain ⟨-, hsound, hprogress⟩ := ensures_namedPattern hscope _ _ _ _ _ _ ih.1 hrun
    exact ⟨hsound, hprogress.trans ih.2⟩
  | ofExpr _ hrun ih =>
    obtain ⟨-, hsound, hprogress⟩ := isWritten_ofExpr hscope _ _ _ _ _ ih.1 hrun
    exact ⟨hsound, hprogress.trans ih.2⟩

/-! ## Where no terminal refers to itself -/

theorem ensures_ofName (hacyclic : Acyclic terminals) (name owner : String) :
    Ensures terminals (fun _ => True) (ofName terminals name owner)
      fun p => ∃ e, terminals.lookup name = some e ∧ p = (e.expanded terminals).written := by
  intro known p known' hsound hrun
  obtain ⟨⟨e, he, hp⟩, hkept⟩ :=
    ensures_namedPattern (scope_of_acyclic hacyclic) _ name owner _ _ _ hsound hrun
  exact ⟨⟨e, he, hp.eq_written⟩, hkept⟩

theorem ensures_ofExpr (hacyclic : Acyclic terminals) (owner : String) (e : Expr) :
    Ensures terminals (fun _ => True) (ofExpr terminals owner e)
      (· = (e.expanded terminals).written) := by
  intro known p known' hsound hrun
  obtain ⟨hp, hkept⟩ := isWritten_ofExpr (scope_of_acyclic hacyclic) owner e _ _ _ hsound hrun
  exact ⟨hp.eq_written, hkept⟩

theorem Reached.sound (hacyclic : Acyclic terminals) (h : Reached terminals known) :
    known.Sound terminals (fun _ => True) ∧ known.inProgress = [] :=
  h.soundIn (scope_of_acyclic hacyclic)

end Resolver

end QueryGate
