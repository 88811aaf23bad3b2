import QueryGate.Proofs.Ebnf.Equality
import QueryGate.Proofs.Grammar.Compiled

/-!
# What names stand for

A definition of a rule or a terminal is refused if its name is bound already. An import is not : it
binds its names whatever stood for them before, and the last binding counts.

* `Grammar.bindings_of_compile` : in a grammar that compiles, only imports bind a name again;
* `Grammar.exists_bound_twice` : sources in which they do.
-/

namespace QueryGate

open Ebnf

variable {c c' : Collected} {d : Located} {ds before after : List Located} {name : String}
  {e : Expr}

/-! ## Bindings of terminals -/

/-- The terminals an import binds, with the patterns that can be imported. -/
def importBindings (names : List (String × String)) : List (String × Expr) :=
  names.filterMap fun n => (commonTerminals.lookup n.2).map fun source => (n.1, .pattern source "")

/-- The terminals a definition binds, in order. -/
def Ebnf.Located.bindings (d : Located) : List (String × Expr) :=
  match d.definition with
  | .terminal name e => [(name, e)]
  | .imports _ names => importBindings names
  | _ => []

/-- The terminals of a source, each as often as it is bound. -/
def terminalBindings (ds : List Located) : List (String × Expr) :=
  ds.flatMap Located.bindings

theorem terminals_addImports {names : List (String × String)} (h : c.addImports names = .ok c') :
    c'.terminals = (importBindings names).reverse ++ c.terminals := by
  induction names generalizing c with
  | nil =>
    obtain rfl := Except.ok.inj h
    rfl
  | cons n names ih =>
    obtain ⟨own, imported⟩ := n
    rw [Collected.addImports] at h
    split at h
    · cases h
    · next source hsource =>
      have hcons : importBindings ((own, imported) :: names) =
          (own, .pattern source "") :: importBindings names := by
        simp [importBindings, hsource]
      rw [ih h, hcons, List.reverse_cons, List.append_assoc]
      rfl

/-- A definition binds its terminals in front of those bound before. -/
theorem terminals_add (h : c.add d = .ok c') :
    c'.terminals = d.bindings.reverse ++ c.terminals := by
  unfold Collected.add at h
  unfold Located.bindings
  split at h
  · split at h
    · cases h
    · next hdef _ =>
      obtain rfl := Except.ok.inj h
      simp [hdef]
  · split at h
    · cases h
    · next hdef _ =>
      obtain rfl := Except.ok.inj h
      simp [hdef]
  · split at h
    · cases h
    · next hdef _ => simp [hdef, terminals_addImports h]
  · next hdef =>
    obtain rfl := Except.ok.inj h
    simp [hdef]

/-- A terminal is defined only where its name is not bound. -/
theorem lookup_eq_none_of_add (hd : d.definition = .terminal name e) (h : c.add d = .ok c') :
    c.terminals.lookup name = none := by
  simp only [Collected.add, hd] at h
  split at h
  · cases h
  · next hnew => exact Option.not_isSome_iff_eq_none.mp hnew

/-- Collecting keeps all bindings, the last one first. -/
theorem terminals_of_foldlM (h : ds.foldlM Collected.add c = .ok c') :
    c'.terminals = (terminalBindings ds).reverse ++ c.terminals := by
  induction ds generalizing c with
  | nil =>
    obtain rfl := Except.ok.inj h
    rfl
  | cons d ds ih =>
    obtain ⟨c₁, hadd, h⟩ := except_bind_eq_ok.mp (List.foldlM_cons.symm.trans h)
    rw [ih h, terminals_add hadd, terminalBindings, terminalBindings, List.flatMap_cons,
      List.reverse_append, List.append_assoc]

theorem terminals_of_collect (h : collect ds = .ok c) :
    c.terminals = (terminalBindings ds).reverse :=
  (terminals_of_foldlM h).trans (List.append_nil _)

/-- The definition of a terminal stands in front of all other bindings of its name. -/
theorem notMem_bindings_of_collect (h : collect (before ++ d :: after) = .ok c)
    (hd : d.definition = .terminal name e) : name ∉ (terminalBindings before).map (·.1) := by
  obtain ⟨c₁, hbefore, h⟩ := except_bind_eq_ok.mp (List.foldlM_append.symm.trans h)
  obtain ⟨c₂, hadd, -⟩ := except_bind_eq_ok.mp (List.foldlM_cons.symm.trans h)
  have hnone := lookup_eq_none_of_add hd hadd
  rw [terminals_of_collect hbefore, List.lookup_eq_none_iff] at hnone
  intro hmem
  obtain ⟨binding, hbinding, rfl⟩ := List.mem_map.mp hmem
  simpa using hnone binding (List.mem_reverse.mpr hbinding)

/-- The last of several bindings counts. -/
theorem lookup_of_collect {front back : List (String × Expr)} (h : collect ds = .ok c)
    (hbindings : terminalBindings ds = front ++ (name, e) :: back)
    (hlast : name ∉ back.map (·.1)) : c.terminals.lookup name = some e := by
  have hback : back.reverse.lookup name = none := by
    refine List.lookup_eq_none_iff.mpr fun binding hbinding => ?_
    have hne : binding.1 ≠ name := fun heq =>
      hlast (heq ▸ List.mem_map_of_mem (List.mem_reverse.mp hbinding))
    simpa using hne.symm
  rw [terminals_of_collect h, hbindings, List.reverse_append, List.reverse_cons, List.append_assoc,
    List.lookup_append, hback]
  simp

/-! ## Compiled grammars -/

namespace Grammar

variable {ρ : Type} [Scanner ρ] {g : Grammar ρ} {source root : String}

/-- In a source that compiles, no two rules have one name, and of the definitions that bind a
terminal only imports can stand behind another one. The grammar is built with the last binding of
every name. -/
theorem bindings_of_compile (hds : definitions source = .ok ds) (h : compile source root = .ok g) :
    ((ruleBodies ds).map (·.1)).Nodup ∧
      (∀ before d after, ds = before ++ d :: after → ∀ name ∈ d.bindings.map (·.1),
        name ∈ (terminalBindings before).map (·.1) →
          ∃ module names, d.definition = .imports module names) ∧
      ∃ c d rootRule ignored, g = ofDraft source rootRule d ignored ∧
        Build.rules c {} = .ok ((), d) ∧ c.rules = (ruleBodies ds).reverse ∧
        ∀ front name e back, terminalBindings ds = front ++ (name, e) :: back →
          name ∉ back.map (·.1) → c.terminals.lookup name = some e := by
  obtain ⟨ds', c, d, rootRule, ignored, resolver, hds', hc, hd, -, -, -, rfl⟩ :=
    exists_of_compile h
  obtain rfl : ds = ds' := Except.ok.inj (hds.symm.trans hds')
  refine ⟨?_, ?_, c, d, rootRule, ignored, rfl, hd, rules_of_collect hc,
    fun front name e back hbindings hlast => lookup_of_collect hc hbindings hlast⟩
  · have hnodup := nodup_of_collect hc
    rwa [rules_of_collect hc, List.map_reverse, List.nodup_reverse] at hnodup
  · rintro before d after rfl name hname hbound
    cases hdef : d.definition with
    | imports module names => exact ⟨module, names, rfl⟩
    | terminal name' e =>
      obtain rfl : name = name' := by simpa [Located.bindings, hdef] using hname
      exact absurd hbound (notMem_bindings_of_collect hc hdef)
    | rule => simp [Located.bindings, hdef] at hname
    | ignore => simp [Located.bindings, hdef] at hname

/-- A terminal that is defined, and then bound by two imports. -/
def reboundSource : String :=
  "%import common (DIGIT, WORD)\nX: \"x\"\nstart: X \"!\"\n%import common.INT -> X\n" ++
    "%import common.WORD -> X\n"

theorem bindings_of_compile_rebound : ∃ ds, ∃ g : Grammar,
    definitions reboundSource = .ok ds ∧ compile reboundSource "start" = .ok g ∧
      ((ruleBodies ds).map (·.1)).Nodup ∧ ∃ c d rootRule ignored,
        g = ofDraft reboundSource rootRule d ignored ∧ Build.rules c {} = .ok ((), d) ∧
        c.terminals.lookup "X" = some (.pattern "[A-Za-z]+" "") := by
  have hbindings : (definitions reboundSource).toOption.any (fun ds =>
      terminalBindings ds = [("DIGIT", .pattern "[0-9]" ""), ("WORD", .pattern "[A-Za-z]+" ""),
        ("X", .literal "x" false), ("X", .pattern "[0-9]+" "")] ++
        [("X", .pattern "[A-Za-z]+" "")]) = true := by decide +kernel
  have hcompiles : (compile reboundSource "start").toOption.any
      (fun _ : Grammar => True) = true := by decide +kernel
  obtain ⟨ds, hds, hbindings⟩ := exists_ok_of_any hbindings
  obtain ⟨g, h, -⟩ := exists_ok_of_any hcompiles
  obtain ⟨hnodup, -, c, d, rootRule, ignored, hg, hd, -, hlast⟩ := bindings_of_compile hds h
  exact ⟨ds, g, hds, h, hnodup, c, d, rootRule, ignored, hg, hd,
    hlast _ _ _ _ hbindings (by simp)⟩

/-- A terminal that is defined, and then imported. -/
def replacedSource : String :=
  "start: INT\nINT: \"x\"\n%import common.INT\n"

/-- Two terminals imported under one name. -/
def aliasSource : String :=
  "start: X\n%import common.INT -> X\n%import common.WORD -> X\n"

/-- Both sources compile. In the first one the terminal no longer matches what it was defined as, in
the second one only what was imported last. -/
theorem exists_bound_twice :
    (∃ ds g, definitions replacedSource = .ok ds ∧ compile replacedSource "start" = .ok g ∧
      terminalBindings ds = [("INT", .literal "x" false), ("INT", .pattern "[0-9]+" "")] ∧
      g.lexemeOf? 0 = some (.named "INT") ∧ g.matchTerminal? 0 "x".toList 0 = none ∧
      g.matchTerminal? 0 "1".toList 0 = some 1) ∧
    ∃ ds g, definitions aliasSource = .ok ds ∧ compile aliasSource "start" = .ok g ∧
      terminalBindings ds = [("X", .pattern "[0-9]+" ""), ("X", .pattern "[A-Za-z]+" "")] ∧
      g.lexemeOf? 0 = some (.named "X") ∧ g.matchTerminal? 0 "1".toList 0 = none ∧
      g.matchTerminal? 0 "x".toList 0 = some 1 := by
  have hreplaced : (definitions replacedSource).toOption.any (fun ds =>
      terminalBindings ds = [("INT", .literal "x" false), ("INT", .pattern "[0-9]+" "")]) =
        true := by decide +kernel
  have halias : (definitions aliasSource).toOption.any (fun ds =>
      terminalBindings ds = [("X", .pattern "[0-9]+" ""), ("X", .pattern "[A-Za-z]+" "")]) =
        true := by decide +kernel
  have hreplacedRuns : (compile replacedSource "start").toOption.any (fun g : Grammar =>
      g.lexemeOf? 0 = some (.named "INT") ∧ g.matchTerminal? 0 "x".toList 0 = none ∧
      g.matchTerminal? 0 "1".toList 0 = some 1) = true := by decide +kernel
  have haliasRuns : (compile aliasSource "start").toOption.any (fun g : Grammar =>
      g.lexemeOf? 0 = some (.named "X") ∧ g.matchTerminal? 0 "1".toList 0 = none ∧
      g.matchTerminal? 0 "x".toList 0 = some 1) = true := by decide +kernel
  obtain ⟨ds, hds, hbindings⟩ := exists_ok_of_any hreplaced
  obtain ⟨g, h, hg⟩ := exists_ok_of_any hreplacedRuns
  obtain ⟨ds', hds', hbindings'⟩ := exists_ok_of_any halias
  obtain ⟨g', h', hg'⟩ := exists_ok_of_any haliasRuns
  exact ⟨⟨ds, g, hds, h, hbindings, hg⟩, ds', g', hds', h', hbindings', hg'⟩

end Grammar

end QueryGate
