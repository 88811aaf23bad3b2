import QueryGate.Proofs.Grammar.Faithful

/-!
# Rules made for groups and repetitions are the rules the source does not name

Such a rule is found by its name like all others, so it is new only as long as the source does not
use the name itself (`FreshHelpers`). Then the rules of a compiled grammar that the source does not
name are those made for its groups and repetitions, one for each, with the productions of that one
alone, and no name that the source refers to is left undefined.

* `Grammar.fresh_helpers_of_compile` : the rules made, rule by rule of the source.
* `Grammar.exists_clashing_helper` : a source that uses such a name.
-/

namespace QueryGate

open Ebnf

namespace Grammar

variable {g : Grammar} {source root : String} {ds : List Located}

/-- Every group and every repetition that gets a rule gets one of its own. `owners` lists the rules
of the source with the rules made for them, which are different from each other and from all that
the source defines or refers to. -/
theorem fresh_helpers_of_compile (hds : definitions source = .ok ds)
    (h : compile source root = .ok g) (hfresh : FreshHelpers (ruleBodies ds)) :
    (∀ e ∈ ruleBodies ds, ∀ n ∈ e.2.references, ∃ body, (n, body) ∈ ruleBodies ds) ∧
      ∃ d b rootRule ignored, ∃ owners : List Owner, g = ofDraft source rootRule d ignored ∧
        owners.map Owner.rule = ruleBodies ds ∧ (∀ o ∈ owners, d.Owns b o) ∧
        (owners.flatMap (·.made)).Nodup ∧
        ∀ r, r ∈ owners.flatMap (·.made) ↔ r < g.ruleNames.size ∧
          ∀ e ∈ ruleBodies ds, ∀ n ∈ e.1 :: e.2.references, g.ruleNames[r]? ≠ some n := by
  obtain ⟨d, b, rootRule, ignored, rfl, hrealizes, -, owners, howners, howns, hadds⟩ :=
    exists_owners_of_compile hds h hfresh
  refine ⟨fun e he n hn => hrealizes.closed e he n (by simpa [Expr.referencesOf] using hn),
    d, b, rootRule, ignored, owners, rfl, howners, howns, hadds.nodup, fun r => ?_⟩
  have hmade : d.Made (Draft.ruleNames (ρ := Regex) {}).size r ↔ r < d.ruleNames.size :=
    ⟨fun hr => hr.lt, fun hr => ⟨Nat.zero_le r, hr⟩⟩
  rw [hadds.mem_iff, hmade]
  refine and_congr_right' ⟨fun hnames e he n hn => ?_, fun hnames n hn => ?_⟩
  · exact hnames n (List.mem_flatMap.mpr ⟨e, he, hn⟩)
  · obtain ⟨e, he, hn⟩ := List.mem_flatMap.mp hn
    exact hnames e he n hn

/-- A rule whose name begins like those made for groups and repetitions, and a group and a
repetition within each other. -/
def tailSource : String :=
  "start: (\"+\" | \"-\" \"!\"*) __tail\n__tail: (\"?\" __tail)~1..2 |\n"

theorem fresh_helpers_of_compile_tail : ∃ ds, ∃ g : Grammar,
    definitions tailSource = .ok ds ∧ compile tailSource "start" = .ok g ∧
      FreshHelpers (ruleBodies ds) ∧ ∃ d b rootRule ignored, ∃ owners : List Owner,
        g = ofDraft tailSource rootRule d ignored ∧ owners.map Owner.rule = ruleBodies ds ∧
        (∀ o ∈ owners, d.Owns b o) ∧ (owners.flatMap (·.made)).Nodup := by
  have hcompiles : (compile tailSource "start").toOption.any
      (fun _ : Grammar => True) = true := by decide +kernel
  have hreads : (definitions tailSource).toOption.any (fun ds =>
      ∀ e ∈ ruleBodies ds, ∀ n ∈ e.1 :: e.2.references, ∀ owner ∈ (ruleBodies ds).map (·.1),
        ¬(helperMark ++ owner ++ "_").toList <+: n.toList) = true := by decide +kernel
  obtain ⟨g, h, -⟩ := exists_ok_of_any hcompiles
  obtain ⟨ds, hds, hnot⟩ := exists_ok_of_any hreads
  have hfresh := freshHelpers_of_not_prefix hnot
  obtain ⟨-, d, b, rootRule, ignored, owners, hg, howners, howns, hnodup, -⟩ :=
    fresh_helpers_of_compile hds h hfresh
  exact ⟨ds, g, hds, h, hfresh, d, b, rootRule, ignored, owners, hg, howners, howns, hnodup⟩

/-- A rule with the name of the one made for the group in the other rule. -/
def clashSource : String :=
  "start: (\"+\" | \"-\") \"!\"\n__start_1: \"*\"\n"

/-- A reference to the rule made for the group in front of it. -/
def missingSource : String :=
  "start: (\"+\" | \"-\") __start_1\n"

/-- The group shares its rule with the one of the source, which has the productions of both, and the
reference to a rule that the source does not define is not noticed. -/
theorem exists_clashing_helper :
    (∃ ds, ∃ g : Grammar, definitions clashSource = .ok ds ∧
      compile clashSource "start" = .ok g ∧ ("__start_1", .literal "*" false) ∈ ruleBodies ds ∧
      g.ruleNames.idxOf? "__start_1" = some 1 ∧
      g.terminals.toList.map (·.lexeme) =
        [.literal "+" false, .literal "-" false, .literal "!" false, .literal "*" false] ∧
      g.productions = #[⟨1, [.terminal 0]⟩, ⟨1, [.terminal 1]⟩, ⟨0, [.rule 1, .terminal 2]⟩,
        ⟨1, [.terminal 3]⟩]) ∧
    ∃ ds, ∃ g : Grammar, definitions missingSource = .ok ds ∧
      compile missingSource "start" = .ok g ∧
      ∃ e ∈ ruleBodies ds, ∃ n ∈ e.2.references, n ∉ (ruleBodies ds).map (·.1) := by
  have hclash : (compile clashSource "start").toOption.any (fun g : Grammar =>
      g.ruleNames.idxOf? "__start_1" = some 1 ∧
      g.terminals.toList.map (·.lexeme) =
        [.literal "+" false, .literal "-" false, .literal "!" false, .literal "*" false] ∧
      g.productions = #[⟨1, [.terminal 0]⟩, ⟨1, [.terminal 1]⟩, ⟨0, [.rule 1, .terminal 2]⟩,
        ⟨1, [.terminal 3]⟩]) = true := by decide +kernel
  have hbody : (definitions clashSource).toOption.any (fun ds =>
      ("__start_1", .literal "*" false) ∈ ruleBodies ds) = true := by decide +kernel
  have hcompiles : (compile missingSource "start").toOption.any
      (fun _ : Grammar => True) = true := by decide +kernel
  have hmissing : (definitions missingSource).toOption.any (fun ds =>
      ∃ e ∈ ruleBodies ds, ∃ n ∈ e.2.references, n ∉ (ruleBodies ds).map (·.1)) = true := by
    decide +kernel
  obtain ⟨g, h, hg⟩ := exists_ok_of_any hclash
  obtain ⟨ds, hds, hbody⟩ := exists_ok_of_any hbody
  obtain ⟨g', h', -⟩ := exists_ok_of_any hcompiles
  obtain ⟨ds', hds', hmissing⟩ := exists_ok_of_any hmissing
  exact ⟨⟨ds, g, hds, h, hbody, hg⟩, ds', g', hds', h', hmissing⟩

end Grammar

end QueryGate
