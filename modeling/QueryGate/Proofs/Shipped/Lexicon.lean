import QueryGate.Proofs.Grammar.Compiled
import QueryGate.Proofs.Regex.Literal
import QueryGate.Proofs.Shipped.Source

/-!
# The terminals of the shipped grammar

The expressions of the terminals with a name (`named`), and what is passed over (`blank`). The
grammar compiles, and its terminals read what their lexemes say (`exists_shipped`).
-/

namespace QueryGate.Shipped

open Ebnf Regex

/-! ## Expressions -/

/-- Digits. -/
def digit : CharClass := .range '0' '9'

/-- What is passed over. -/
def blank : CharClass := .union (.single ' ') (.union (.single '\t') (.union (.single '\x0c')
  (.union (.single '\r') (.union (.single '\n') .empty))))

/-- The characters that an identifier begins with. -/
def front : CharClass :=
  .union (.range 'A' 'Z') (.union (.range 'a' 'z') (.union (.single '_') .empty))

/-- The characters of identifiers. -/
def inner : CharClass := .union (.range 'A' 'Z') (.union (.range 'a' 'z')
  (.union (.range '0' '9') (.union (.single '_') .empty)))

/-- The quotes of identifiers. -/
def backquote : CharClass := .single (Char.ofNat 96)

/-- The quotes of strings. -/
def quote : CharClass := .single '\''

/-- An identifier without quotes. -/
def bare : Regex := .seq (.chars front) (.more true (.chars inner))

/-- An identifier in quotes. -/
def quoted : Regex := .seq (.chars backquote)
  (.seq (.plus true (.chars (.compl backquote))) (.chars backquote))

/-- A string without its first quote. -/
def stringTail : Regex := .seq (.more true (.alt
    (.chars (.compl (.union quote (.union (.single '\\') .empty))))
    (.alt (.seq (.chars (.single '\\')) (.chars (.compl (.single '\n'))))
      (.seq (.chars quote) (.chars quote)))))
  (.chars quote)

/-- Digits with a point and an exponent. -/
def numeral : Regex := .seq (.plus true (.chars digit)) (.seq
  (.alt (.seq (.chars (.single '.')) (.plus true (.chars digit))) .empty)
  (.alt (.seq (.chars (.union (.single 'e') (.union (.single 'E') .empty)))
    (.seq (.alt (.chars (.union (.single '+') (.union (.single '-') .empty))) .empty)
      (.plus true (.chars digit)))) .empty))

/-- The terminals with a name and what they match. -/
def named : List (String × Regex) := [
  ("IDENTIFIER", .alt bare quoted),
  ("STRING", .seq (.chars quote) stringTail),
  ("NUMBER", numeral),
  ("INT", .plus true (.chars digit))]

/-- An expression where it is tried. -/
def atStart (r : Regex) : Regex := .seq (.look .start false) r

set_option maxRecDepth 100000 in
theorem reads_named : ∀ e ∈ named, (Lexeme.named e.1).Reads terminals (atStart e.2) := by
  have hall : ∀ e ∈ named, ∃ p, TerminalPattern.IsPlain terminals e.1 p ∧
      (Build.anchored e.1 p).toOption = some (atStart e.2) := by
    simp only [named, List.forall_mem_cons]
    refine ⟨⟨_, ⟨_, rfl, fun _ _ => rfl⟩, ?_⟩, ⟨_, ⟨_, rfl, fun _ _ => rfl⟩, ?_⟩,
      ⟨_, ⟨_, rfl, fun _ _ => rfl⟩, ?_⟩, ⟨_, ⟨_, rfl, fun _ _ => rfl⟩, ?_⟩, by simp⟩
    all_goals decide +kernel
  intro e he
  obtain ⟨p, hp, hr⟩ := hall e he
  exact ⟨p, hp, eq_ok_of_toOption hr⟩

/-! ## The grammar -/

variable {x : Lexeme} {value : String} {c : Char}

theorem size_literalClass_le (hc : c.isUpper = true) : (literalClass true c).size ≤ 1000 := by
  have hall : ((List.range 26).all fun k =>
      decide ((literalClass true (Char.ofNat (65 + k))).size ≤ 1000)) = true := by decide +kernel
  have hrange : 'A'.val ≤ c.val ∧ c.val ≤ 'Z'.val := of_decide_eq_true hc
  have hfirst : 65 ≤ c.toNat := hrange.1
  have hlast : c.toNat ≤ 90 := hrange.2
  have h := List.all_eq_true.mp hall (c.toNat - 65) (List.mem_range.mpr (by omega))
  rw [Nat.add_sub_cancel' hfirst, Char.ofNat_toNat] at h
  exact of_decide_eq_true h

/-- A word is small enough, whatever its letters are. -/
theorem wordSize_le (hlength : value.toList.length ≤ 100)
    (hupper : ∀ c ∈ value.toList, c.isUpper = true) :
    32 + literalSize value true ≤ sizeLimit :=
  calc 32 + literalSize value true
      ≤ 32 + value.toList.length * 1000 :=
        Nat.add_le_add_left (literalSize_le fun c hc => size_literalClass_le (hupper c hc)) 32
    _ ≤ 32 + 100 * 1000 := Nat.add_le_add_left (Nat.mul_le_mul_right _ hlength) 32
    _ ≤ sizeLimit := by decide


/-- The lexemes of the grammar are quoted texts and terminals with a name. -/
theorem exists_reads (hx : x ∈ Expr.lexemesOf (rules.map (·.2))) :
    ∃ r, x.Reads terminals r := by
  have hall : (Expr.lexemesOf (rules.map (·.2))).all (fun x => match x with
      | .literal value true => decide (value.toList.length ≤ 100) && value.toList.all Char.isUpper
      | .literal value false => decide (32 + literalSize value false ≤ sizeLimit)
      | .named name => (named.map (·.1)).contains name
      | _ => false) = true := by decide +kernel
  have hx' := List.all_eq_true.mp hall x hx
  cases x with
  | literal value anyCase =>
    refine ⟨_, _, rfl, anchored_ofLiteral _ ?_⟩
    cases anyCase with
    | false => exact of_decide_eq_true hx'
    | true =>
      obtain ⟨hlength, hupper⟩ := Bool.and_eq_true_iff.mp hx'
      exact wordSize_le (of_decide_eq_true hlength) (List.all_eq_true.mp hupper)
  | named name =>
    obtain ⟨e, he, rfl⟩ := List.mem_map.mp (List.contains_iff_mem.mp hx')
    exact ⟨_, reads_named e he⟩
  | _ => cases hx'

theorem isPlainName_of_mem_rules {e : String × Expr} (he : e ∈ rules) : IsPlainName e.1 := by
  have hall : (rules.all fun e => !(Grammar.helperMark.toList.isPrefixOf e.1.toList)) = true := by
    decide +kernel
  have h := List.all_eq_true.mp hall e he
  intro hpre
  rw [List.isPrefixOf_iff_prefix.mpr hpre] at h
  cases h

theorem closed_of_mem_rules {e : String × Expr} (he : e ∈ rules) :
    Closed collected.rules [e.2] := by
  have hall : (rules.all fun e =>
      e.2.references.all fun n => (rules.map (·.1)).contains n) = true := by decide +kernel
  intro n hn
  rw [Expr.mem_referencesOf_iff] at hn
  obtain ⟨_, hmem, hn⟩ := hn
  rw [List.mem_singleton.mp hmem] at hn
  have h := List.all_eq_true.mp (List.all_eq_true.mp hall e he) n hn
  obtain ⟨e', he', rfl⟩ := List.mem_map.mp (List.contains_iff_mem.mp h)
  exact ⟨e'.2, List.mem_reverse.mpr he'⟩

/-- What is passed over is blanks. -/
theorem ignoredRegexes_collected {known : Resolver}
    (hknown : TerminalPattern.Knows terminals known) : ∃ ignored known',
      ignoredRegexes collected known = .ok (ignored, known') ∧
        ignored = [atStart (.plus true (.chars blank))] := by
  have hplain : TerminalPattern.IsPlain terminals "WS"
      (TerminalPattern.ofPattern "[ \\t\\f\\r\\n]+" "") := ⟨_, rfl, fun _ _ => rfl⟩
  obtain ⟨known', hrun, -⟩ :=
    TerminalPattern.ofName_of_isPlain ignoreName hknown hplain
  have hanchored : Build.anchored ignoreName (TerminalPattern.grouped
      (TerminalPattern.ofPattern "[ \\t\\f\\r\\n]+" "")) =
        .ok (atStart (.plus true (.chars blank))) :=
    eq_ok_of_toOption (by decide +kernel)
  refine ⟨_, known', ?_, rfl⟩
  have hstep : (TerminalPattern.ofExpr terminals ignoreName (.name "WS") >>= fun p =>
      liftM (Build.anchored ignoreName p) : Resolve Regex) known =
        .ok (atStart (.plus true (.chars blank)), known') := by
    refine Build.bind_eq_ok.mpr ⟨_, known', Build.bind_eq_ok.mpr ⟨_, known', hrun, rfl⟩, ?_⟩
    rw [hanchored]
    rfl
  unfold ignoredRegexes
  change (List.mapM _ [Expr.name "WS"] : Resolve (List Regex)) known = _
  rw [List.mapM_cons, List.mapM_nil]
  exact Build.bind_eq_ok.mpr ⟨_, _, hstep, rfl⟩

/-- The shipped grammar compiles. -/
theorem exists_shipped : ∃ g, Grammar.shipped = .ok g ∧ g.IsFor collected Grammar.shippedRoot ∧
    g.ignored = [atStart (.plus true (.chars blank))] := by
  obtain ⟨ds, hds, hc⟩ := definitions_collect_shippedSource
  refine exists_isFor (P := fun ignored => ignored = [atStart (.plus true (.chars blank))]) hds hc
    (fun e he => isPlainName_of_mem_rules (List.mem_reverse.mp he))
    (fun e he => closed_of_mem_rules (List.mem_reverse.mp he)) (fun e he x hx => ?_)
    ⟨_, List.mem_reverse.mpr (List.mem_cons_self ..)⟩ fun known hknown =>
      ignoredRegexes_collected hknown
  refine exists_reads (Expr.mem_lexemesOf_iff.mpr ⟨e.2, ?_, hx⟩)
  exact List.mem_map_of_mem (List.mem_reverse.mp he)

end QueryGate.Shipped
