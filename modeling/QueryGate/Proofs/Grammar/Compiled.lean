import QueryGate.Proofs.Chart.Recognizer
import QueryGate.Proofs.Grammar.Lexicon
import QueryGate.Proofs.Grammar.Meaning

/-!
# Compiled grammars

`Grammar.IsFor g c` : the grammar `g` was compiled from the definitions `c`, so its rules derive
what their right-hand sides match (`Grammar.IsFor.spans_iff_matches`), and its terminals read what
their lexemes say.

* `exists_isFor` : definitions whose references are closed and whose lexemes can be read compile.
-/

namespace QueryGate

open Ebnf

/-! ## Building to the end -/

/-- The lexemes of a right-hand side are those of its alternatives. -/
theorem lexemesOf_optionsOf (body : Expr) :
    Expr.lexemesOf (Build.optionsOf body) = body.lexemes := by
  cases body with
  | alt options => rfl
  | _ => simp [Build.optionsOf, Expr.lexemesOf]

/-- Where symbols stand for expressions, there are terminals for all of their lexemes. -/
theorem Stands.exists_lexemeOf? {d : Draft Regex} {es : List Expr} {ss : List Symbol}
    {made : List Nat} (h : Stands d es ss made) :
    ∀ x ∈ Expr.lexemesOf es, ∃ t, d.lexemeOf? t = some x := by
  induction h with
  | nil => simp [Expr.lexemesOf]
  | @lexeme e es x t ss made hx ht _ ih =>
    rw [Expr.lexemesOf, Expr.lexemes_of_lexeme? hx]
    exact List.forall_mem_cons.mpr ⟨⟨t, ht⟩, ih⟩
  | name hn _ _ ih =>
    rw [Expr.lexemesOf]
    simpa [Expr.lexemes, Expr.lexeme?, hn] using ih
  | @flat parts es _ _ _ ih =>
    intro x hx
    refine ih x ?_
    rw [Expr.mem_lexemesOf_iff] at hx ⊢
    obtain ⟨e, he, hx⟩ := hx
    rcases List.mem_cons.mp he with rfl | he
    · obtain ⟨e, he, hx⟩ := Expr.mem_lexemesOf_iff.mp hx
      exact ⟨e, List.mem_append_left _ he, hx⟩
    · exact ⟨e, List.mem_append_right _ he, hx⟩
  | seq _ _ _ ih ihs => exact List.forall_mem_append.mpr ⟨ih, ihs⟩
  | alt choices _ _ _ ih ihs =>
    refine List.forall_mem_append.mpr ⟨fun x hx => ?_, ihs⟩
    obtain ⟨e, he, hx⟩ := Expr.mem_lexemesOf_iff.mp hx
    obtain ⟨choice, hchoice, rfl⟩ := List.mem_map.mp he
    exact ih choice hchoice x (Expr.mem_lexemesOf_iff.mpr ⟨_, List.mem_singleton.mpr rfl, hx⟩)
  | @rep body _ _ _ _ _ _ _ _ _ _ _ ih ihs =>
    refine List.forall_mem_append.mpr ⟨fun x hx => ?_, ihs⟩
    exact ih x (Expr.mem_lexemesOf_iff.mpr ⟨body, List.mem_singleton.mpr rfl, hx⟩)

namespace Build

variable {c : Collected} {d : Draft Regex} {b : Nat} {names : List String}

/-- The whole build succeeds where all lexemes can be read. -/
theorem total_rules (hread : ∀ e ∈ c.rules, ∀ x ∈ e.2.lexemes, ∃ r, x.Reads c.terminals r) :
    ∃ d, rules c {} = .ok ((), d) ∧ d.Lexical c.terminals := by
  have hrule : ∀ e ∈ c.rules.reverse,
      Total (Draft.Lexical c.terminals) (rule c.terminals e.1 e.2) := by
    intro e he
    unfold rule
    refine Total.bind (total_ruleId e.1) fun r => Total.bind (total_define r) fun _ => ?_
    exact total_symbolOf_alternatives_symbolsOf.2.1 r _ fun x hx =>
      hread e (List.mem_reverse.mp he) x (lexemesOf_optionsOf e.2 ▸ hx)
  have hall : Total (Draft.Lexical c.terminals) (rules c) := by
    unfold rules
    refine Total.bind (total_forIn (fun e : String × Expr => ruleId e.1)
      fun e _ => total_ruleId e.1) fun _ => ?_
    exact Total.bind (total_forIn (fun e : String × Expr => rule c.terminals e.1 e.2) hrule)
      fun _ => total_pure _
  obtain ⟨u, d, hrun, hd⟩ := hall {} ⟨⟨rfl, by simp⟩, by simp⟩
  exact ⟨d, hrun, hd⟩

end Build

/-- Where all rules of the source have their productions, every rule has some. -/
theorem undefined?_eq_none {d : Draft Regex} {b : Nat} {names : List String} (ht : d.Tidy names)
    (hrules : ∀ name ∈ names, ∃ body, d.HasRule b name body) : d.undefined? = none := by
  have hall : ∀ (r : Nat) name, d.ruleNames[r]? = some name → d.defined[r]? = some true := by
    intro r name hr
    rcases ht.known r name hr with hname | ⟨-, hdefined⟩
    · obtain ⟨body, r', -, hr', hdefined, -⟩ := hrules name hname
      obtain rfl := ht.index_unique hr hr'
      exact hdefined
    · exact hdefined
  have hnone : d.defined.findIdx? (!·) = none := by
    refine Array.findIdx?_eq_none_iff.mpr fun flag hflag => ?_
    obtain ⟨r, hlt, rfl⟩ := Array.mem_iff_getElem.mp hflag
    have hr : r < d.ruleNames.size := ht.size_defined ▸ hlt
    have hdefined := hall r _ (Array.getElem?_eq_getElem hr)
    rw [Array.getElem?_eq_getElem hlt] at hdefined
    simp [Option.some.inj hdefined]
  rw [Draft.undefined?, hnone]
  rfl

namespace Grammar

variable {g : Grammar} {c : Collected} {text : List Char} {x : Lexeme} {t i j k m : Nat}

/-- The lexeme of a terminal. -/
def lexemeOf? (g : Grammar) (t : Nat) : Option Lexeme :=
  g.terminals[t]?.map (·.lexeme)

/-- A terminal with the given lexeme takes the piece from one character to another, ignored text
included. -/
def ReadsAs (g : Grammar) (text : List Char) (x : Lexeme) (k m : Nat) : Prop :=
  ∃ t, g.lexemeOf? t = some x ∧ g.Reads text t k m

/-- The grammar of definitions with a start symbol. -/
def IsFor (g : Grammar) (c : Collected) (root : String) : Prop :=
  ∃ source rootRule d b ignored, g = ofDraft source rootRule d ignored ∧
    d.ruleNames[rootRule]? = some root ∧ d.Realizes b c.rules ∧ d.Within ∧ d.Lexical c.terminals

variable {root : String}

theorem IsFor.wellFormed (h : g.IsFor c root) : g.WellFormed := by
  obtain ⟨source, rootRule, d, b, ignored, rfl, -, -, hwithin, -⟩ := h
  exact ⟨hwithin, rfl, rfl⟩

/-- A terminal has the expression its lexeme reads. -/
theorem IsFor.reads (h : g.IsFor c root) {y : Terminal Regex} (hy : g.terminals[t]? = some y) :
    y.lexeme.Reads c.terminals y.regex := by
  obtain ⟨source, rootRule, d, b, ignored, rfl, -, -, -, hlexical⟩ := h
  exact hlexical.reads y (Array.mem_of_getElem? hy)

/-- Terminals with one lexeme read the same. -/
theorem IsFor.reads_iff (h : g.IsFor c root) (ht : g.lexemeOf? t = some x) :
    g.Reads text t k m ↔ g.ReadsAs text x k m := by
  refine ⟨fun hreads => ⟨t, ht, hreads⟩, ?_⟩
  rintro ⟨t', ht', n, hn, rfl⟩
  obtain ⟨⟨y, regex⟩, hy, rfl⟩ := Option.map_eq_some_iff.mp ht
  obtain ⟨⟨y', regex'⟩, hy', hsame⟩ := Option.map_eq_some_iff.mp ht'
  obtain rfl : y' = y := hsame
  have hregex : y'.Reads c.terminals regex := h.reads hy
  have hregex' : y'.Reads c.terminals regex' := h.reads hy'
  obtain rfl := hregex.unique hregex'
  refine ⟨n, ?_, rfl⟩
  rw [readLength?, take?, hy]
  rw [readLength?, take?, hy'] at hn
  exact hn

/-- The lexemes of the source are terminals. -/
theorem IsFor.exists_lexemeOf? (h : g.IsFor c root) {e : String × Expr} (he : e ∈ c.rules)
    (hx : x ∈ e.2.lexemes) : ∃ t, g.lexemeOf? t = some x := by
  obtain ⟨source, rootRule, d, b, ignored, rfl, -, hrealizes, -⟩ := h
  obtain ⟨r, -, -, -, choices, hoptions, -, hchoices⟩ := hrealizes.hasRule e he
  rw [← lexemesOf_optionsOf, hoptions] at hx
  obtain ⟨option, hoption, hx⟩ := Expr.mem_lexemesOf_iff.mp hx
  obtain ⟨choice, hchoice, rfl⟩ := List.mem_map.mp hoption
  exact (hchoices choice hchoice).exists_lexemeOf? x
    (Expr.mem_lexemesOf_iff.mpr ⟨_, List.mem_singleton.mpr rfl, hx⟩)

/-- A rule of the source derives what it matches. -/
theorem IsFor.spans_iff_matches (h : g.IsFor c root) {n : String} {body : Expr} {r : Nat}
    (hn : isTerminalName n = false) (hbody : (n, body) ∈ c.rules)
    (hr : g.ruleNames[r]? = some n) :
    Spans g.productions (g.Reads text) [.rule r] i j ↔
      Matches c.rules (g.ReadsAs text) [.name n] i j := by
  have hreads : ∀ t x k m, g.lexemeOf? t = some x →
      (g.Reads text t k m ↔ g.ReadsAs text x k m) := fun t x k m => h.reads_iff
  have hclosed := closed_name hn hbody
  obtain ⟨source, rootRule, d, b, ignored, rfl, -, hrealizes, -⟩ := h
  exact QueryGate.spans_iff_matches hrealizes hclosed hreads (.name hn hr .nil)

/-- A text is accepted if the start symbol matches it up to where only ignored text follows. -/
theorem IsFor.accepted_iff (h : g.IsFor c root) {body : Expr}
    (hroot : isTerminalName root = false) (hbody : (root, body) ∈ c.rules) :
    (recognize g text).accepted = true ↔ ∃ k, k ≤ text.length ∧
      skipIgnored g.ignored (text.drop k) = [] ∧
        Matches c.rules (g.ReadsAs text) [.name root] 0 k := by
  have hname : g.ruleNames[g.root]? = some root := by
    obtain ⟨source, rootRule, d, b, ignored, rfl, hname, -⟩ := h
    exact hname
  rw [recognize_accepted_iff_of_wellFormed h.wellFormed, exists_derives_iff]
  simp only [← h.spans_iff_matches hroot hbody hname, spans_rule_iff]

end Grammar

/-- Definitions without loose ends compile : their references are closed, their lexemes can be read,
and so can what is passed over. -/
theorem exists_isFor {source root : String} {ds : List Located} {c : Collected}
    {P : List Regex → Prop} (hds : definitions source = .ok ds) (hc : collect ds = .ok c)
    (hplain : ∀ e ∈ c.rules, IsPlainName e.1) (hclosed : ∀ e ∈ c.rules, Closed c.rules [e.2])
    (hread : ∀ e ∈ c.rules, ∀ x ∈ e.2.lexemes, ∃ r, x.Reads c.terminals r)
    (hroot : ∃ body, (root, body) ∈ c.rules)
    (hignored : ∀ known, TerminalPattern.Knows c.terminals known →
      ∃ ignored known', ignoredRegexes c known = .ok (ignored, known') ∧ P ignored) :
    ∃ g : Grammar, Grammar.compile source root = .ok g ∧ g.IsFor c root ∧ P g.ignored := by
  obtain ⟨d, hrun, hlexical⟩ := Build.total_rules hread
  have hnames : ∀ n ∈ c.rules.map (·.1), IsPlainName n := by simpa using fun a b => hplain (a, b)
  have hreferences : ∀ e ∈ c.rules, e.1 ∈ c.rules.map (·.1) ∧
      e.2.references ⊆ c.rules.map (·.1) := by
    refine fun e he => ⟨List.mem_map_of_mem he, fun n hn => ?_⟩
    obtain ⟨body, hbody⟩ := hclosed e he n (by simpa [Expr.referencesOf] using hn)
    exact List.mem_map_of_mem hbody
  obtain ⟨htidy, b, hrules⟩ :=
    Build.hasRule_of_rules (fun e _ => helperName_notMem hnames e.1) (nodup_of_collect hc)
      hreferences hrun
  have hundefined : d.undefined? = none := by
    refine undefined?_eq_none (b := b) htidy fun n hn => ?_
    obtain ⟨e, he, rfl⟩ := List.mem_map.mp hn
    exact ⟨e.2, hrules e he⟩
  obtain ⟨ignored, known, hrunIgnored, hP⟩ := hignored _ hlexical.knows
  obtain ⟨body, hbody⟩ := hroot
  obtain ⟨r, -, hr, -⟩ := hrules _ hbody
  obtain ⟨rootRule, hrootRule⟩ : ∃ rootRule, d.ruleNames.idxOf? root = some rootRule := by
    refine Option.ne_none_iff_exists'.mp fun hnone => ?_
    exact Array.idxOf?_eq_none_iff.mp hnone (Array.mem_of_getElem? hr)
  refine ⟨Grammar.ofDraft source rootRule d ignored, ?_,
    ⟨source, rootRule, d, b, ignored, rfl, Build.getElem?_of_idxOf? hrootRule,
      ⟨htidy.nodup, hrules, hclosed⟩, htidy.within, hlexical⟩, hP⟩
  unfold Grammar.compile
  refine except_bind_eq_ok.mpr ⟨ds, hds, except_bind_eq_ok.mpr ⟨c, hc,
    except_bind_eq_ok.mpr ⟨((), d), hrun, ?_⟩⟩⟩
  simp only [hundefined, hrootRule]
  exact except_bind_eq_ok.mpr ⟨(ignored, known), hrunIgnored, rfl⟩

end QueryGate
