import QueryGate.Proofs.Grammar.Resolution
import QueryGate.Proofs.Regex.Printed

/-!
# Terminals read as they stand

An expression of a terminal can be read as it stands, without a pattern : a text matches itself, the
first alternative is preferred to the others, and more repetitions to fewer (`Expr.rests`). The
pattern that the resolver writes for such an expression, nested however deep, matches what the
direct reading prefers (`matchLength?_of_isDirect`).
-/

namespace QueryGate

open Ebnf TerminalPattern

namespace Ebnf.Expr

mutual

/-- What is left of a text behind the matches of an expression without names, in order of
preference. Regular expressions are not read here. -/
def rests : Expr → Matcher
  | .literal value anyCase => .inOrder (value.toList.map (Matcher.spelled anyCase))
  | .range first last => .char fun c => first ≤ c && c ≤ last
  | .seq parts => .inOrder (restsAll parts)
  | .alt options => .firstOf (restsAll options)
  | .rep body least most => (rests body).repeated least most
  | .name _ | .pattern _ _ => fun _ => []

/-- What is left of a text behind the matches of expressions. -/
def restsAll : List Expr → List Matcher
  | [] => []
  | e :: es => rests e :: restsAll es

end

theorem restsAll_eq (es : List Expr) : restsAll es = es.map rests := by
  induction es with
  | nil => rfl
  | cons e es ih => rw [restsAll, ih, List.map_cons]

end Ebnf.Expr

/-- An expression that can be read directly : it is put together without regular expressions, its
names are those of terminals of this kind, and what is repeated cannot match the empty text. -/
inductive IsDirect (terminals : List (String × Expr)) : Expr → Prop
  | literal (value : String) (anyCase : Bool) : IsDirect terminals (.literal value anyCase)
  | range (first last : Char) : IsDirect terminals (.range first last)
  | name {symbol : String} {e : Expr} (hname : isTerminalName symbol = true)
      (hlookup : terminals.lookup symbol = some e) (he : IsDirect terminals e) :
      IsDirect terminals (.name symbol)
  | seq {parts : List Expr} (hparts : ∀ e ∈ parts, IsDirect terminals e) :
      IsDirect terminals (.seq parts)
  | alt {options : List Expr} (hne : options ≠ [])
      (hoptions : ∀ e ∈ options, IsDirect terminals e) : IsDirect terminals (.alt options)
  | rep {body : Expr} (least : Nat) (most : Option Nat) (hbody : IsDirect terminals body)
      (htakes : (body.expanded terminals).rests [] = []) :
      IsDirect terminals (.rep body least most)

variable {terminals : List (String × Expr)} {e : Expr} {es : List Expr} {name owner : String}
  {known : Resolver} {fuel bound : Nat} {p : List Char} {r : Regex} {s : List Char}

/-! ## Patterns are written -/

/-- The names in an expression that can be read directly are those of terminals that can be. -/
theorem IsDirect.of_mem_names (he : IsDirect terminals e) (hname : name ∈ e.names) :
    isTerminalName name = true ∧ ∃ e', terminals.lookup name = some e' ∧ IsDirect terminals e' := by
  induction he with
  | literal value anyCase => cases hname
  | range first last => cases hname
  | name hsymbol hlookup he =>
    obtain rfl := List.mem_singleton.mp hname
    exact ⟨hsymbol, _, hlookup, he⟩
  | seq hparts ih =>
    rw [Expr.names, Expr.namesOf_eq] at hname
    obtain ⟨e, he, hname⟩ := List.mem_flatMap.mp hname
    exact ih e he hname
  | alt hne hoptions ih =>
    rw [Expr.names, Expr.namesOf_eq] at hname
    obtain ⟨e, he, hname⟩ := List.mem_flatMap.mp hname
    exact ih e he hname
  | rep least most hbody htakes ih => exact ih hname

theorem IsDirect.of_reaches (he : IsDirect terminals e) (hreaches : e.Reaches terminals name) :
    isTerminalName name = true ∧ ∃ e', terminals.lookup name = some e' ∧ IsDirect terminals e' := by
  obtain ⟨n, hn, hpath⟩ := hreaches
  induction hpath with
  | refl => exact he.of_mem_names hn
  | tail _ hrefers ih =>
    obtain ⟨-, e', hlookup, he'⟩ := ih
    obtain ⟨e'', hlookup', hname⟩ := hrefers
    obtain rfl := Option.some.inj (hlookup.symm.trans hlookup')
    exact he'.of_mem_names hname

theorem IsDirect.resolvable (hacyclic : Acyclic terminals) (he : IsDirect terminals e) :
    e.Resolvable terminals where
  isTerminalName n hn := (he.of_reaches hn).1
  defined n hn := by
    obtain ⟨-, e', hlookup, -⟩ := he.of_reaches hn
    exact ⟨e', hlookup⟩
  acyclic n _ := hacyclic n

namespace Resolver

theorem succeeds_ofExpr (hacyclic : Acyclic terminals) (hknown : Reached terminals known)
    (he : IsDirect terminals e) (owner : String) :
    ∃ p known', ofExpr terminals owner e known = .ok (p, known') :=
  exists_ofExpr hknown (he.resolvable hacyclic).grounded owner

theorem succeeds_ofName (hacyclic : Acyclic terminals) (hknown : Reached terminals known)
    (hlookup : terminals.lookup name = some e) (he : IsDirect terminals e) (owner : String) :
    ∃ p known', ofName terminals name owner known = .ok (p, known') :=
  exists_ofName hknown hlookup (he.resolvable hacyclic).grounded (hacyclic name) owner

end Resolver

/-! ## Patterns match -/

open Regex

theorem forall₂_writes (h : ∀ e ∈ es, Writes e.written e.rests) :
    List.Forall₂ Writes (Expr.writtenAll es) (Expr.restsAll es) := by
  rw [Expr.writtenAll_eq, Expr.restsAll_eq, List.forall₂_map_left_iff, List.forall₂_map_right_iff,
    List.forall₂_same]
  exact h

/-- What is written for an expression matches as it is read directly. -/
theorem IsDirect.writes (hacyclic : Acyclic terminals) (he : IsDirect terminals e) :
    Writes (e.expanded terminals).written (e.expanded terminals).rests := by
  induction he with
  | literal value anyCase => exact writes_ofLiteral value anyCase
  | range first last => exact writes_ofRange first last
  | name hname hlookup he ih =>
    rw [expanded_name (hacyclic.loopFree _) hlookup]
    exact (writes_flatten (.cons ih .nil)).inside.grouped
  | seq hparts ih =>
    have hall := forall₂_writes (List.forall_mem_map.mpr ih)
    rw [Expr.expanded, Expr.expand, Expr.expandAll_eq]
    exact (writes_flatten hall).inside.grouped
  | alt hne hoptions ih =>
    have hall := forall₂_writes (List.forall_mem_map.mpr ih)
    rw [Expr.expanded, Expr.expand, Expr.expandAll_eq]
    refine (writesInside_alternatives hall ?_).grouped
    rw [Expr.writtenAll_eq]
    simpa using hne
  | rep least most hbody htakes ih => exact ih.repeated htakes least most

/-- The pattern that is written for an expression matches what the direct reading prefers, and fails
where the direct reading has no match. -/
theorem matchLength?_of_isDirect (hacyclic : Acyclic terminals)
    (hknown : Resolver.Reached terminals known) (he : IsDirect terminals e) (owner : String) :
    ∃ p known', ofExpr terminals owner e known = .ok (p, known') ∧
      (∀ name, terminals.lookup name = some e →
        ∃ known'', ofName terminals name owner known = .ok (p, known'')) ∧
      ∀ name (r : Regex), Build.anchored name p = .ok r → ∀ s,
        (∀ t ∈ (e.expanded terminals).rests s, t <:+ s) ∧
        r.matchLength? none s =
          ((e.expanded terminals).rests s).head?.map fun t => s.length - t.length := by
  obtain ⟨p, known', hrun⟩ := Resolver.succeeds_ofExpr hacyclic hknown he owner
  have hsound := (hknown.sound hacyclic).1
  obtain ⟨rfl, -⟩ := Resolver.ensures_ofExpr hacyclic _ _ _ _ _ hsound hrun
  refine ⟨_, known', hrun, fun name hlookup => ?_, fun name r hr s => ?_⟩
  · obtain ⟨p, known'', hrun'⟩ := Resolver.succeeds_ofName hacyclic hknown hlookup he owner
    obtain ⟨⟨e', he', rfl⟩, -⟩ := Resolver.ensures_ofName hacyclic _ _ _ _ _ hsound hrun'
    obtain rfl := Option.some.inj (hlookup.symm.trans he')
    exact ⟨known'', hrun'⟩
  · have hinside := (he.writes hacyclic).inside
    exact ⟨fun t ht => hinside.suffix ht, hinside.matchLength? hr s⟩

/-- Terminals for numbers, each put together from the ones before it. -/
def numerals : List (String × Expr) :=
  [("DIGIT", .range '0' '9'), ("INT", .rep (.name "DIGIT") 1 none),
    ("NUMBER", .alt [.seq [.name "INT", .literal "." false, .name "INT"], .name "INT"])]

/-- A mark and one or two numbers with a plus sign behind each. -/
def addends : Expr :=
  .seq [.literal "k*" true, .rep (.seq [.name "NUMBER", .literal "+" false]) 1 (some 2)]

theorem isDirect_addends : IsDirect numerals addends := by
  have hint : IsDirect numerals (.name "INT") :=
    .name rfl rfl (.rep 1 none (.name rfl rfl (.range '0' '9')) (by decide +kernel))
  have hnumber : IsDirect numerals (.name "NUMBER") := by
    refine .name rfl rfl (.alt (List.cons_ne_nil _ _) ?_)
    refine List.forall_mem_cons.mpr ⟨.seq ?_, List.forall_mem_singleton.mpr hint⟩
    exact List.forall_mem_cons.mpr ⟨hint, List.forall_mem_cons.mpr
      ⟨.literal "." false, List.forall_mem_singleton.mpr hint⟩⟩
  refine .seq (List.forall_mem_cons.mpr ⟨.literal "k*" true, List.forall_mem_singleton.mpr ?_⟩)
  refine .rep 1 (some 2) (.seq ?_) (by decide +kernel)
  exact List.forall_mem_cons.mpr ⟨hnumber, List.forall_mem_singleton.mpr (.literal "+" false)⟩

theorem matchLength?_addends : ∃ p known', ofExpr numerals "TOTAL" addends {} = .ok (p, known') ∧
    ∃ r : Regex, Build.anchored "TOTAL" p = .ok r ∧
      r.matchLength? none "K*12.5+3+7+ rest".toList = some 9 := by
  have hacyclic : Acyclic numerals :=
    acyclic_of_lt (numerals.map Prod.fst).idxOf (by decide +kernel)
  obtain ⟨p, known', hrun, -, hmatch⟩ :=
    matchLength?_of_isDirect hacyclic .start isDirect_addends "TOTAL"
  have hok : ((ofExpr numerals "TOTAL" addends {}).toOption.any fun found =>
      (Build.anchored "TOTAL" found.1).toOption.any fun _ : Regex => true) = true := by
    decide +kernel
  have hrests : ((addends.expanded numerals).rests "K*12.5+3+7+ rest".toList).head? =
      some "7+ rest".toList := by decide +kernel
  rw [hrun] at hok
  cases hr : Build.anchored (ρ := Regex) "TOTAL" p with
  | error fault => simp [Except.toOption, hr] at hok
  | ok r =>
    refine ⟨p, known', hrun, r, hr, ?_⟩
    rw [(hmatch "TOTAL" r hr _).2, hrests]
    rfl

end QueryGate
