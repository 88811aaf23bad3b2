import QueryGate.Proofs.Grammar.Search
import QueryGate.Proofs.Shipped.Queries
import QueryGate.Statement.Normalize

/-!
# Texts that the shipped grammar accepts

An accepted text is a query with a directive behind it (`IsShipped.exists_form_of_accepted`). Where
statements have that directive too, the statement of the text is the query, and it is accepted with
a directive put behind it (`IsShipped.accepted_withFormat`).
-/

namespace QueryGate.Shipped

open Ebnf Regex Text Statement

variable {g : Grammar} {text tok rest : List Char} {i j : Nat} {c : Char}

/-- The keyword that statements begin with. -/
def selectLexeme : Lexeme := .literal "SELECT" true

/-- The keyword in front of common tables. -/
def withLexeme : Lexeme := .literal "WITH" true

/-- The keyword of the directive. -/
def formatLexeme : Lexeme := .literal "FORMAT" true

/-- The name that the directive must have. -/
def jsonLexeme : Lexeme := .literal "JSON" true

/-- The separator behind the directive. -/
def separatorLexeme : Lexeme := .literal ";" false

theorem nodup_rules : (collected.rules.map (·.1)).Nodup := by decide +kernel

theorem start_mem_rules : (Grammar.shippedRoot,
    .seq [.name "query", .name "format_clause", opt (sign ";")]) ∈ collected.rules :=
  List.mem_reverse.mpr (List.mem_cons_self ..)

theorem query_mem_rules : ("query", .seq [opt (.name "with_clause"), .name "select_statement",
    many [word "UNION", word "ALL", .name "select_statement"]]) ∈ collected.rules :=
  List.mem_reverse.mpr (by simp [rules])

theorem select_mem_rules : ("select_statement", .seq [word "SELECT", opt (word "DISTINCT"),
    .name "select_list", opt (.name "from_clause"), opt (.name "where_clause"),
    opt (.name "group_by_clause"), opt (.name "having_clause"), opt (.name "order_by_clause"),
    opt (.name "limit_clause")]) ∈ collected.rules :=
  List.mem_reverse.mpr (by simp [rules])

/-- An accepted text is one that the start symbol matches, up to blanks at the end. -/
theorem IsShipped.accepted_iff (hg : IsShipped g) : (recognize g text).accepted = true ↔
    ∃ e ≤ text.length, (∀ c ∈ text.drop e, blank.mem c = true) ∧
      Matches collected.rules (g.ReadsAs text) [.name "start"] 0 e := by
  rw [hg.isFor.accepted_iff (by decide) start_mem_rules]
  simp only [hg.skipIgnored_eq, List.dropWhile_eq_nil_iff]
  rfl

/-- What the start symbol matches. -/
theorem matches_start_iff {takes : Lexeme → Nat → Nat → Prop} :
    Matches collected.rules takes [.name "start"] i j ↔ ∃ k l m,
      Matches collected.rules takes [.name "query"] i k ∧ takes formatLexeme k l ∧
        takes jsonLexeme l m ∧ (m = j ∨ takes separatorLexeme m j) := by
  have hclause : ("format_clause", .seq [word "FORMAT", word "JSON"]) ∈ collected.rules :=
    List.mem_reverse.mpr (List.mem_cons_of_mem _ (List.mem_cons_self ..))
  have hnames : isTerminalName "start" = false ∧ isTerminalName "format_clause" = false := by decide
  have hseparator : ∀ m, Matches collected.rules takes [opt (sign ";")] m j ↔
      m = j ∨ takes separatorLexeme m j := fun m => by
    rw [opt, matches_optional_cons_iff, matches_nil_iff,
      matches_lexeme_cons_iff (x := separatorLexeme) rfl]
    simp only [matches_nil_iff, exists_eq_right]
  have hformat : ∀ k, Matches collected.rules takes [.name "format_clause", opt (sign ";")] k j ↔
      ∃ l m, takes formatLexeme k l ∧ takes jsonLexeme l m ∧
        (m = j ∨ takes separatorLexeme m j) := by
    intro k
    rw [matches_name_cons_iff nodup_rules hnames.2 hclause]
    simp only [matches_seq_cons_iff, List.append_nil, hseparator,
      matches_lexeme_cons_iff (x := formatLexeme) (e := word "FORMAT") rfl,
      matches_lexeme_cons_iff (x := jsonLexeme) (e := word "JSON") rfl, matches_nil_iff]
    constructor
    · rintro ⟨_, ⟨l, hl, m, hm, rfl⟩, hj⟩
      exact ⟨l, m, hl, hm, hj⟩
    · rintro ⟨l, m, hl, hm, hj⟩
      exact ⟨m, ⟨l, hl, m, hm, rfl⟩, hj⟩
  rw [matches_name_cons_iff nodup_rules hnames.1 start_mem_rules]
  simp only [matches_nil_iff, exists_eq_right, matches_seq_cons_iff, List.append_nil]
  rw [← List.singleton_append, matches_append_iff]
  simp only [hformat, exists_and_left]

/-- An accepted text is a query with a directive behind it, and blanks and separators at the end. -/
theorem IsShipped.exists_form_of_accepted (hg : IsShipped g)
    (h : (recognize g text).accepted = true) : ∃ j gap key space name rest,
      Matches collected.rules (g.ReadsAs text) [.name "query"] 0 j ∧
      text.drop j = gap ++ key ++ space ++ name ++ rest ∧
      (∀ c ∈ gap, blank.mem c = true) ∧ (∀ c ∈ space, blank.mem c = true) ∧
      g.TakesAs formatLexeme key (space ++ name ++ rest) ∧ g.TakesAs jsonLexeme name rest ∧
      ∀ c ∈ rest, c = ';' ∨ isWhite c = true := by
  obtain ⟨e, -, hend, hmatches⟩ := hg.accepted_iff.mp h
  obtain ⟨j, l, m, hquery, hformat, hjson, hseparator⟩ := matches_start_iff.mp hmatches
  obtain ⟨gap, key, rest, htext, hgap, -, hkey, -, -, hl⟩ := hg.exists_of_readsAs hformat
  obtain ⟨space, name, rest', htext', hspace, -, hname, -, -, hm⟩ := hg.exists_of_readsAs hjson
  obtain rfl : rest = space ++ name ++ rest' := hl.symm.trans htext'
  refine ⟨j, gap, key, space, name, rest', hquery, ?_, hgap, hspace, hkey, hname, ?_⟩
  · rw [htext]
    simp only [List.append_assoc]
  have hblank : ∀ c ∈ text.drop e, c = ';' ∨ isWhite c = true := fun c hc =>
    Or.inr (isWhite_of_mem_blank (hend c hc))
  rcases hseparator with rfl | hseparator
  · exact hm ▸ hblank
  · obtain ⟨gap', tok, rest, htail, hgap', -, htok, -, -, hrest⟩ := hg.exists_of_readsAs hseparator
    have hspells := hg.isFor.spells_of_takesAs htok
    rw [← hm, htail, ← hrest]
    simp only [List.forall_mem_append]
    refine ⟨⟨fun c hc => Or.inr (isWhite_of_mem_blank (hgap' c hc)), fun c hc => ?_⟩, hblank⟩
    obtain ⟨d, hd, hc⟩ := exists_mem_of_spells hspells hc
    rw [List.mem_singleton.mp hd] at hc
    exact Or.inl (List.mem_singleton.mp hc)

/-! ## Texts spelled out -/

/-- Whether a text consists of quoted texts, with blanks around them. -/
def spelledOut : List Lexeme → List Char → Bool
  | [], s => s.all blank.mem
  | .literal value anyCase :: xs, s =>
    let s := s.dropWhile blank.mem
    !value.toList.isEmpty && fits (value.toList.map (literalClass anyCase)) s &&
      (!(Lexeme.literal value anyCase).isKeyword ||
        !((s.drop value.toList.length).head?.any isWordChar)) &&
      spelledOut xs (s.drop value.toList.length)
  | _ :: _, _ => false

/-- The first lexeme of a text that is spelled out is taken, and the rest is spelled out. -/
theorem IsShipped.exists_readsAs_of_spelledOut (hg : IsShipped g) {x : Lexeme} {xs : List Lexeme}
    (hx : x ∈ Expr.lexemesOf (rules.map (·.2))) (h : spelledOut (x :: xs) (text.drop i) = true) :
    ∃ k ≤ text.length, g.ReadsAs text x i k ∧ spelledOut xs (text.drop k) = true := by
  cases x with
  | literal value anyCase =>
    simp only [spelledOut, Bool.and_eq_true, Bool.or_eq_true, Bool.not_eq_true',
      List.isEmpty_eq_false_iff] at h
    obtain ⟨⟨⟨hne, hfits⟩, hword⟩, hrest⟩ := h
    obtain ⟨tok, rest, hvalue, hspells⟩ := exists_of_fits hfits
    rw [List.forall₂_map_left_iff] at hspells
    rw [hvalue, hspells.length_eq, List.drop_left] at hword hrest
    have htok : tok ≠ [] := fun hnil => hne (List.forall₂_nil_right_iff.mp (hnil ▸ hspells))
    obtain ⟨gap, hgap, htext⟩ : ∃ gap, (∀ c ∈ gap, blank.mem c = true) ∧
        text.drop i = gap ++ tok ++ rest :=
      ⟨(text.drop i).takeWhile blank.mem, fun c hc => List.mem_takeWhile_imp hc, by
        rw [List.append_assoc, ← hvalue, List.takeWhile_append_dropWhile]⟩
    have hterminal : ∃ t, g.lexemeOf? t = some (.literal value anyCase) := by
      obtain ⟨e, he, hx⟩ := Expr.mem_lexemesOf_iff.mp hx
      obtain ⟨entry, hentry, rfl⟩ := List.mem_map.mp he
      exact hg.isFor.exists_lexemeOf? (List.mem_reverse.mpr hentry) hx
    have hreads : g.ReadsAs text (.literal value anyCase) i (i + gap.length + tok.length) := by
      refine (Grammar.readsAs_iff hg.skipIgnored_eq).mpr ⟨gap, tok, rest, htext, hgap,
        fun c hc => ?_, hg.isFor.takesAs_literal_iff.mpr ⟨hterminal, htok, hspells,
          fun hkeyword => ?_⟩, rfl⟩
      · have hnot := List.head?_dropWhile_not blank.mem (text.drop i)
        rw [hvalue, List.head?_append_of_ne_nil _ htok, Option.mem_def.mp hc] at hnot
        exact hnot
      · rw [hkeyword] at hword
        exact hword.resolve_left Bool.noConfusion
    have hdrop : text.drop (i + gap.length + tok.length) = rest := by
      rw [Nat.add_assoc, ← List.length_append, ← List.drop_drop, htext, List.drop_left]
    refine ⟨_, ?_, hreads, hdrop ▸ hrest⟩
    obtain ⟨t, -, hreads⟩ := hreads
    exact hreads.le_length
  | _ => cases h

/-- The lexemes of a text that is spelled out are taken, up to blanks at the end. -/
theorem IsShipped.exists_takesAll (hg : IsShipped g) {xs : List Lexeme}
    (hxs : ∀ x ∈ xs, x ∈ Expr.lexemesOf (rules.map (·.2))) (hi : i ≤ text.length)
    (h : spelledOut xs (text.drop i) = true) :
    ∃ j ≤ text.length, TakesAll (g.ReadsAs text) xs i j ∧
      ∀ c ∈ text.drop j, blank.mem c = true := by
  induction xs generalizing i with
  | nil => exact ⟨i, hi, rfl, List.all_eq_true.mp h⟩
  | cons x xs ih =>
    obtain ⟨hx, hxs⟩ := List.forall_mem_cons.mp hxs
    obtain ⟨k, hk, hreads, hrest⟩ := hg.exists_readsAs_of_spelledOut hx h
    obtain ⟨j, hj, hall, hend⟩ := ih hxs hk hrest
    exact ⟨j, hj, ⟨k, hreads, hall⟩, hend⟩

/-- Where the start symbol takes lexemes of which a text consists, behind what it has matched of it,
the text is accepted. -/
theorem IsShipped.accepted_of_spelledOut (hg : IsShipped g) {xs : List Lexeme}
    (hxs : ∀ x ∈ xs, x ∈ Expr.lexemesOf (rules.map (·.2))) (hi : i ≤ text.length)
    (h : spelledOut xs (text.drop i) = true)
    (hmatches : ∀ j, TakesAll (g.ReadsAs text) xs i j →
      Matches collected.rules (g.ReadsAs text) [.name "start"] 0 j) :
    (recognize g text).accepted = true := by
  obtain ⟨j, hj, hall, hend⟩ := hg.exists_takesAll hxs hi h
  exact hg.accepted_iff.mpr ⟨j, hj, hend, hmatches j hall⟩

/-- A text that spells out lexemes which the grammar derives is accepted. -/
theorem IsShipped.accepted_of_derives (hg : IsShipped g) (fuel : Nat) (xs : List Lexeme)
    (hxs : xs.all (Expr.lexemesOf (rules.map (·.2))).contains = true)
    (hwritten : spelledOut xs text = true)
    (hderives : derives collected.rules fuel [.name "start"] xs = true) :
    (recognize g text).accepted = true :=
  hg.accepted_of_spelledOut (fun x hx => List.contains_iff_mem.mp (List.all_eq_true.mp hxs x hx))
    (Nat.zero_le _) hwritten fun _ htakes => matches_of_derives hderives htakes

/-- Whether a word is spelled with its letters only, in either case. -/
def isLettered (value : String) : Bool :=
  value.toList.all fun d => (spellings true d).all fun c => c.isAlpha && c.toLower == d.toLower

theorem of_isLettered {value : String} (hvalue : isLettered value = true) :
    ∀ d ∈ value.toList, ∀ c ∈ spellings true d, c.isAlpha = true ∧ c.toLower = d.toLower :=
  fun d hd c hc => by
    simpa using List.all_eq_true.mp (List.all_eq_true.mp hvalue d hd) c hc

theorem isIdentChar_of_isLettered {value : String} (hvalue : isLettered value = true)
    (h : Spells true value.toList tok) : ∀ c ∈ tok, isIdentChar c = true := by
  intro c hc
  obtain ⟨d, hd, hmem⟩ := exists_mem_of_spells h hc
  rw [isIdentChar, Char.isAlphanum, (of_isLettered hvalue d hd c hmem).1, Bool.true_or,
    Bool.true_or]

theorem sameLetters_of_isLettered {value : String} (hvalue : isLettered value = true)
    (h : Spells true value.toList tok) : sameLetters tok value.toList = true := by
  refine beq_iff_eq.mpr (lower_eq_of_spells
    (fun d hd c hc _ => (of_isLettered hvalue d hd c hc).2) h fun c hc => ?_)
  obtain ⟨d, hd, hmem⟩ := exists_mem_of_spells h hc
  exact (of_isLettered hvalue d hd c hmem).1

/-- The keyword of the grammar is that of directives. -/
theorem sameLetters_of_takesAs_formatLexeme (hg : IsShipped g)
    (h : g.TakesAs formatLexeme tok rest) : sameLetters tok formatKeyword = true :=
  have hletters : isLettered "FORMAT" = true := by decide
  sameLetters_of_isLettered hletters (hg.isFor.spells_of_takesAs h)

theorem not_isWhite_of_takesAs_jsonLexeme (hg : IsShipped g) (h : g.TakesAs jsonLexeme tok rest) :
    ∀ c ∈ tok, isWhite c = false ∧ c ≠ ';' := by
  have hspells := hg.isFor.spells_of_takesAs h
  have hall : ("JSON".toList.all fun d => (spellings true d).all fun c =>
      !isWhite c && c != ';') = true := by decide
  intro c hc
  obtain ⟨d, hd, hmem⟩ := exists_mem_of_spells hspells hc
  simpa using List.all_eq_true.mp (List.all_eq_true.mp hall d hd) c hmem

/-- The directive of an accepted text is one for statements too, if its name is. -/
theorem directive_of_takesAs (hg : IsShipped g) {key space name : List Char}
    (hkey : g.TakesAs formatLexeme key (space ++ name ++ rest))
    (hspace : ∀ c ∈ space, blank.mem c = true) (hne : name ≠ [])
    (hname : ∀ c ∈ name, isIdentChar c = true) : Nonempty (Directive (key ++ space ++ name)) := by
  refine ⟨⟨key, space, name, rfl, sameLetters_of_takesAs_formatLexeme hg hkey, ?_,
    fun c hc => isWhite_of_mem_blank (hspace c hc),
    fun c hc => (of_mem_blank (hspace c (List.mem_of_getLast? hc))).2, hne, hname⟩⟩
  rintro rfl
  obtain ⟨-, -, -, hword⟩ := hg.isFor.takesAs_literal_iff.mp hkey
  obtain ⟨c, name, rfl⟩ := List.exists_cons_of_ne_nil hne
  have hnot : isWordChar c = false := hword (by decide)
  rw [isWordChar_of_isIdentChar (hname c (List.mem_cons_self ..))] at hnot
  cases hnot

/-- A query is accepted with a directive put behind it, without the blanks in front of it. -/
theorem IsShipped.accepted_withFormat_of_query (hg : IsShipped g) {lead b : List Char}
    (hs : text.take j = lead ++ b) (hlead : ∀ c ∈ lead, blank.mem c = true)
    (hquery : Matches collected.rules (g.ReadsAs text) [.name "query"] 0 j) :
    (recognize g (withFormat "JSON".toList b)).accepted = true := by
  have hall : ("FORMAT JSON".toList.all fun c => isIdentChar c || c == ' ') = true := by decide
  have htail : ∀ c ∈ "FORMAT JSON".toList, isIdentChar c = true ∨ c = ' ' := fun c hc => by
    simpa using List.all_eq_true.mp hall c hc
  obtain ⟨j', hdrop, hmatches⟩ := hg.matches_append htail hs hlead hquery
  have hformat : withFormat "JSON".toList b = b ++ ' ' :: "FORMAT JSON".toList := by
    simp [withFormat, formatKeyword]
  have hwritten : spelledOut [formatLexeme, jsonLexeme] " FORMAT JSON".toList = true := by decide
  have hlexemes : ∀ x ∈ [formatLexeme, jsonLexeme], x ∈ Expr.lexemesOf (rules.map (·.2)) := by
    decide +kernel
  have hj' : j' ≤ (b ++ ' ' :: "FORMAT JSON".toList).length := by
    refine Nat.le_of_not_lt fun hlt => ?_
    rw [List.drop_eq_nil_of_le (Nat.le_of_lt hlt)] at hdrop
    cases hdrop
  rw [hformat]
  refine hg.accepted_of_spelledOut hlexemes hj' (by rw [hdrop]; exact hwritten) fun k hall => ?_
  obtain ⟨l, hkey, m, hname, rfl⟩ := hall
  exact matches_start_iff.mpr ⟨j', l, m, hmatches, hkey, hname, Or.inl rfl⟩

/-- Where the statement of an accepted text is found behind its directive, it is accepted with a
directive put behind it. -/
theorem IsShipped.accepted_withFormat (hg : IsShipped g) {b : List Char}
    (h : (recognize g text).accepted = true) (hb : withoutTail text = some b)
    (hending : ∃ before, endingOf (trimSeparators (trim text)) = .directive before) :
    (recognize g (withFormat "JSON".toList b)).accepted = true := by
  obtain ⟨j, gap, key, space, name, rest, hquery, htext, hgap, hspace, hkey, hname, hrest⟩ :=
    hg.exists_form_of_accepted h
  have hreserved : formatKeyword ∈ g.reserved := by
    obtain ⟨t, ht, -⟩ := hkey
    exact hg.isFor.mem_reserved ht (by decide)
  have hreachable := (matches_step hquery).reachable
  have hsettled := hg.settled_of_reachable hreserved hreachable
  obtain ⟨lead, s, hs, hlead, hhead⟩ := hg.exists_lead hreserved hreachable
  have hne : name ≠ [] := hname.ne_nil
  have hall : text = lead ++ s ++ gap ++ (key ++ space ++ name) ++ rest := by
    rw [← List.take_append_drop j text, hs, htext]
    simp only [List.append_assoc]
  have hident : ∀ c ∈ name, isIdentChar c = true := by
    refine isIdentChar_of_endingOf_trim (s := lead ++ s ++ gap ++ (key ++ space)) (u := rest) ?_ hne
      (not_isWhite_of_takesAs_jsonLexeme hg hname) hrest
    rw [hall] at hending
    simpa only [List.append_assoc] using hending
  obtain ⟨hdirective⟩ := directive_of_takesAs hg hkey hspace hne hident
  have hwhite : ∀ {u : List Char}, (∀ c ∈ u, blank.mem c = true) → ∀ c ∈ u, isWhite c = true :=
    fun hu c hc => isWhite_of_mem_blank (hu c hc)
  rw [hs] at hsettled
  rw [hall] at hb hending
  obtain rfl : b = s := (hsettled.of_append_left (hwhite hlead)).eq_of_withoutTail hhead
    (hwhite hlead) (hwhite hgap) hdirective hrest hending hb
  exact hg.accepted_withFormat_of_query hs hlead hquery

end QueryGate.Shipped
