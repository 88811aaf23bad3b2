import QueryGate.Proofs.Shipped.Accepted
import QueryGate.Proofs.Text.Readers

/-!
# Texts that the shipped grammar rejects

An accepted text spells out a directive behind a place where a query ends
(`IsShipped.exists_spelledOut_of_accepted`). A text is rejected where such places are ruled out : no
query ends in front of what it has to select (`IsShipped.not_accepted_select`), and none ends behind
a place that its tokens do not pass (`IsShipped.le_of_isBarrier`, `IsShipped.not_accepted_glued`).
-/

namespace QueryGate.Shipped

open Ebnf Regex Text Statement

variable {g : Grammar} {text tok rest : List Char} {i j k m n : Nat} {x : Lexeme}

/-! ## Where a directive stands -/

/-- Quoted texts that are taken are spelled out. -/
theorem IsShipped.spelledOut_of_takesAll (hg : IsShipped g) {xs : List Lexeme}
    (hxs : ∀ x ∈ xs, x.isLiteral = true) (h : TakesAll (g.ReadsAs text) xs i j)
    (hend : ∀ c ∈ text.drop j, blank.mem c = true) : spelledOut xs (text.drop i) = true := by
  induction xs generalizing i with
  | nil =>
    obtain rfl : i = j := h
    exact List.all_eq_true.mpr hend
  | cons x xs ih =>
    obtain ⟨hx, hxs⟩ := List.forall_mem_cons.mp hxs
    obtain ⟨k, hreads, hrest⟩ := h
    have hspelled := ih hxs hrest
    obtain ⟨gap, tok, rest, htext, hgap, hhead, htok, -, -, hdrop⟩ := hg.exists_of_readsAs hreads
    cases x with
    | literal value anyCase =>
      obtain ⟨-, hne, hspells, hword⟩ := hg.isFor.takesAs_literal_iff.mp htok
      have hfits := (fits_append_iff (t := rest)).mpr ((List.forall₂_map_left_iff).mpr hspells)
      have hstart : (text.drop i).dropWhile blank.mem = tok ++ rest := by
        rw [htext, List.append_assoc]
        refine dropWhile_append_stop hgap fun c hc => ?_
        rw [List.head?_append_of_ne_nil _ hne] at hc
        exact hhead c hc
      simp only [spelledOut, hstart, hspells.length_eq, List.drop_left, hfits.1, Bool.and_eq_true,
        Bool.or_eq_true, Bool.not_eq_true', List.isEmpty_eq_false_iff]
      refine ⟨⟨⟨fun hnil => hne ?_, trivial⟩, ?_⟩, hdrop ▸ hspelled⟩
      · exact List.forall₂_nil_left_iff.mp (hnil ▸ hspells)
      · exact (Bool.eq_false_or_eq_true _).symm.imp_right hword
    | _ => cases hx

/-- Behind the query of an accepted text a directive is spelled out. -/
theorem IsShipped.exists_spelledOut_of_accepted (hg : IsShipped g)
    (h : (recognize g text).accepted = true) : ∃ j,
      Matches collected.rules (g.ReadsAs text) [.name "query"] 0 j ∧
      (spelledOut [formatLexeme, jsonLexeme] (text.drop j) ||
        spelledOut [formatLexeme, jsonLexeme, separatorLexeme] (text.drop j)) = true := by
  obtain ⟨e, -, hend, hmatches⟩ := hg.accepted_iff.mp h
  obtain ⟨j, l, m, hquery, hformat, hjson, hseparator⟩ := matches_start_iff.mp hmatches
  refine ⟨j, hquery, Bool.or_eq_true_iff.mpr ?_⟩
  rcases hseparator with rfl | hseparator
  · exact Or.inl (hg.spelledOut_of_takesAll (by decide) ⟨l, hformat, m, hjson, rfl⟩ hend)
  · exact Or.inr (hg.spelledOut_of_takesAll (by decide) ⟨l, hformat, m, hjson, e, hseparator, rfl⟩
      hend)

/-- A text is rejected where no place that queries end at has a directive behind it. -/
theorem IsShipped.not_accepted_of_places (hg : IsShipped g) (places : List Nat)
    (hplaces : ∀ j ≤ text.length,
      Matches collected.rules (g.ReadsAs text) [.name "query"] 0 j → j ∈ places)
    (hnot : places.all (fun j => !(spelledOut [formatLexeme, jsonLexeme] (text.drop j) ||
      spelledOut [formatLexeme, jsonLexeme, separatorLexeme] (text.drop j))) = true) :
    (recognize g text).accepted = false := by
  refine Bool.eq_false_iff.mpr fun h => ?_
  obtain ⟨j, hquery, hspelled⟩ := hg.exists_spelledOut_of_accepted h
  have hj : j ≤ text.length := Nat.le_of_not_lt fun hlt => by
    rw [List.drop_eq_nil_of_le (Nat.le_of_lt hlt)] at hspelled
    cases hspelled
  have hmem := List.all_eq_true.mp hnot j (hplaces j hj hquery)
  rw [hspelled] at hmem
  cases hmem

/-! ## Places that queries do not pass -/

/-- How many characters the tokens of queries at the start of a text may have. -/
def tokenLengths (s : List Char) : List Nat :=
  (queryLexemes.filterMap fun x => match x with
    | .literal value anyCase =>
      if fits (value.toList.map (literalClass anyCase)) s then some value.toList.length else none
    | _ => none) ++
  named.filterMap fun e =>
    (e.2.matchLength? none s).filter fun n => upper (s.take n) != formatKeyword

theorem length_mem_tokenLengths (hg : IsShipped g) (hreserved : formatKeyword ∈ g.reserved)
    (hx : x ∈ queryLexemes) (h : g.TakesAs x tok rest) :
    tok.length ∈ tokenLengths (tok ++ rest) := by
  rcases cases_of_mem_queryLexemes hx with ⟨value, anyCase, rfl, -⟩ | ⟨e, he, rfl⟩
  · obtain ⟨-, -, hspells, -⟩ := hg.isFor.takesAs_literal_iff.mp h
    have hfits := (fits_append_iff (t := rest)).mpr ((List.forall₂_map_left_iff).mpr hspells)
    refine List.mem_append_left _ (List.mem_filterMap.mpr ⟨_, hx, ?_⟩)
    rw [← hspells.length_eq]
    exact if_pos hfits.1
  · obtain ⟨-, -, hmatch, -, hfree⟩ := (hg.isFor.takesAs_iff (reads_named e he)).mp h
    rw [atStart, matchLength?_anchored] at hmatch
    refine List.mem_append_right _ (List.mem_filterMap.mpr ⟨e, he, ?_⟩)
    rw [hmatch, Option.filter_eq_some_iff, List.take_left, bne_iff_ne]
    exact ⟨rfl, fun hupper => hfree rfl (hupper ▸ hreserved)⟩

/-- Whether no token of queries that begins in front of a place or at it goes past the place. -/
def isBarrier (text : List Char) (n : Nat) : Bool :=
  (List.range (n + 1)).all fun k =>
    let start := k + ((text.drop k).takeWhile blank.mem).length
    (tokenLengths (text.drop start)).all fun length => start + length ≤ n

/-- A query does not end behind a place that its tokens do not pass. -/
theorem IsShipped.le_of_isBarrier (hg : IsShipped g) (hreserved : formatKeyword ∈ g.reserved)
    (h : isBarrier text n = true)
    (hquery : Matches collected.rules (g.ReadsAs text) [.name "query"] 0 j) : j ≤ n := by
  have hreachable := (matches_step hquery).reachable
  clear hquery
  induction hreachable with
  | refl => exact Nat.zero_le n
  | @tail k m _ hstep ih =>
    obtain ⟨x, hx, hreads⟩ := hstep
    obtain ⟨gap, tok, rest, htext, hgap, hhead, htok, rfl, -, -⟩ := hg.exists_of_readsAs hreads
    have hstop : ∀ c ∈ (tok ++ rest).head?, blank.mem c = false := fun c hc => by
      rw [List.head?_append_of_ne_nil _ htok.ne_nil] at hc
      exact hhead c hc
    have hgapLength : ((text.drop k).takeWhile blank.mem).length = gap.length := by
      rw [htext, List.append_assoc, takeWhile_append_stop hgap hstop]
    have hstart : text.drop (k + gap.length) = tok ++ rest := by
      rw [← List.drop_drop, htext, List.append_assoc, List.drop_left]
    have hlengths := List.all_eq_true.mp h k (List.mem_range.mpr (Nat.lt_succ_of_le ih))
    dsimp only at hlengths
    rw [hgapLength, hstart] at hlengths
    have hle := List.all_eq_true.mp hlengths _ (length_mem_tokenLengths hg hreserved hx htok)
    rw [List.length_append, ← Nat.add_assoc]
    exact of_decide_eq_true hle

/-! ## Queries that select nothing -/

/-- A query begins with WITH, or with SELECT and something behind it that is not empty. -/
theorem matches_query_cases {takes : Lexeme → Nat → Nat → Prop} {i j : Nat}
    (h : Matches collected.rules takes [.name "query"] i j) : (∃ k, takes withLexeme i k) ∨
      ∃ k es, takes selectLexeme i k ∧ (∃ e ∈ es, e.isNullable = false) ∧
        Matches collected.rules takes es k j := by
  have hwith : ("with_clause", .seq [word "WITH", .name "cte", many [sign ",", .name "cte"]]) ∈
      collected.rules := List.mem_reverse.mpr (by simp [rules])
  have hnames : isTerminalName "query" = false ∧ isTerminalName "with_clause" = false ∧
      isTerminalName "select_statement" = false := by decide
  obtain ⟨hnquery, hnwith, hnselect⟩ := hnames
  rw [matches_name_cons_iff nodup_rules hnquery query_mem_rules] at h
  obtain ⟨j', h, hend⟩ := h
  obtain rfl := matches_nil_iff.mp hend
  rw [matches_seq_cons_iff, opt, List.cons_append, matches_optional_cons_iff] at h
  rcases h with h | h
  · rw [List.cons_append, matches_name_cons_iff nodup_rules hnselect select_mem_rules] at h
    obtain ⟨l, hstatement, hrest⟩ := h
    rw [matches_seq_cons_iff, List.cons_append,
      matches_lexeme_cons_iff (x := selectLexeme) rfl] at hstatement
    obtain ⟨k, htakes, hlist⟩ := hstatement
    exact Or.inr ⟨k, _, htakes, ⟨.name "select_list", by simp, rfl⟩, hlist.append hrest⟩
  · rw [matches_name_cons_iff nodup_rules hnwith hwith] at h
    obtain ⟨l, hclause, -⟩ := h
    rw [matches_seq_cons_iff, List.cons_append, matches_lexeme_cons_iff (x := withLexeme) rfl]
      at hclause
    obtain ⟨k, htakes, -⟩ := hclause
    exact Or.inl ⟨k, htakes⟩

theorem not_nullable_of_mem_rules : ∀ e ∈ collected.rules, e.2.isNullable = false := by
  have hall : (collected.rules.all fun e => !e.2.isNullable) = true := by decide +kernel
  intro e he
  simpa using List.all_eq_true.mp hall e he

/-- A match that is not empty begins with a token. -/
theorem IsShipped.exists_token (hg : IsShipped g) {es : List Expr} {k j : Nat}
    (hes : ∃ e ∈ es, e.isNullable = false)
    (h : Matches collected.rules (g.ReadsAs text) es k j) : ∃ gap tok rest,
      text.drop k = gap ++ tok ++ rest ∧ (∀ c ∈ tok.head?, blank.mem c = false) ∧ tok ≠ [] ∧
        k + (gap ++ tok).length ≤ j := by
  have hreads : ∀ x k m, g.ReadsAs text x k m → k < m := fun x k m ⟨_, _, hreads⟩ => hreads.lt
  have hlt : k < j := h.lt hreads not_nullable_of_mem_rules hes
  rcases Relation.ReflTransGen.cases_head h.reachable with rfl | ⟨m, ⟨x, hx⟩, hrest⟩
  · exact absurd hlt (Nat.lt_irrefl k)
  obtain ⟨gap, tok, rest, htext, -, hhead, htok, rfl, -, -⟩ := hg.exists_of_readsAs hx
  exact ⟨gap, tok, rest, htext, hhead, htok.ne_nil,
    le_of_reachable (fun x k m hx => Nat.le_of_lt (hreads x k m hx)) hrest⟩

/-- Where a text begins with a keyword that is read, its first character is one of the blanks in
front or stands for the keyword's first. -/
theorem first_of_spells {d first : Char} {ds s gap tok rest : List Char}
    (h : Spells true (d :: ds) tok) (htext : first :: s = gap ++ tok ++ rest) :
    first ∈ gap ∨ first ∈ spellings true d := by
  cases h with
  | @cons _ c _ tok hc _ =>
    cases gap with
    | nil =>
      obtain rfl : first = c := (List.cons.inj htext).1
      exact Or.inr (mem_literalClass_iff.mp hc)
    | cons b gap =>
      obtain rfl : first = b := (List.cons.inj htext).1
      exact Or.inl (List.mem_cons_self ..)

/-- A query that begins with SELECT and a blank goes on behind the blank. -/
theorem IsShipped.lt_of_matches_query (hg : IsShipped g) {s : List Char} {j : Nat}
    (h : Matches collected.rules (g.ReadsAs ("SELECT ".toList ++ s)) [.name "query"] 0 j) :
    7 < j := by
  rcases matches_query_cases h with ⟨k, hwith⟩ | ⟨k, es, hselect, hes, hmatches⟩
  · obtain ⟨gap, tok, rest, htext, hgap, -, htok, -, -, -⟩ := hg.exists_of_readsAs hwith
    rcases first_of_spells (hg.isFor.spells_of_takesAs htok) htext with hmem | hmem
    · exact absurd (hgap 'S' hmem) (by decide)
    · exact absurd hmem (by decide)
  · obtain ⟨gap, tok, rest, -, -, -, htok, rfl, -, -⟩ := hg.exists_of_readsAs hselect
    have htokLength : 6 = tok.length := (hg.isFor.spells_of_takesAs htok).length_eq
    obtain ⟨gap', tok', rest', htext', hhead, hne, hle⟩ := hg.exists_token hes hmatches
    have hpos : 0 < tok'.length := List.length_pos_of_ne_nil hne
    simp only [List.length_append] at hle htext'
    -- the blank that is left behind SELECT begins no token
    by_cases hk : gap.length = 0
    · rw [hk, ← htokLength] at htext'
      cases gap' with
      | nil =>
        obtain ⟨c, tok', rfl⟩ := List.exists_cons_of_ne_nil hne
        obtain rfl : ' ' = c := (List.cons.inj htext').1
        exact absurd (hhead ' ' rfl) (by decide)
      | cons b gap' =>
        rw [List.length_cons] at hle
        omega
    · omega

/-- A statement that selects nothing is rejected. -/
theorem IsShipped.not_accepted_select (hg : IsShipped g) :
    (recognize g "SELECT FORMAT JSON".toList).accepted = false := by
  refine hg.not_accepted_of_places ((List.range 19).filter (7 < ·)) (fun j hj h => ?_)
    (by decide +kernel)
  have hlt : 7 < j := hg.lt_of_matches_query (s := "FORMAT JSON".toList) h
  have hlength : "SELECT FORMAT JSON".toList.length = 18 := by decide
  simp only [List.mem_filter, List.mem_range, decide_eq_true_eq]
  omega

/-! ## Directives behind numbers -/

theorem IsShipped.formatKeyword_mem_reserved (hg : IsShipped g) : formatKeyword ∈ g.reserved := by
  have hx : formatLexeme ∈ Expr.lexemesOf (rules.map (·.2)) := by decide +kernel
  obtain ⟨e, he, hx⟩ := Expr.mem_lexemesOf_iff.mp hx
  obtain ⟨entry, hentry, rfl⟩ := List.mem_map.mp he
  obtain ⟨t, ht⟩ := hg.isFor.exists_lexemeOf? (List.mem_reverse.mpr hentry) hx
  exact hg.isFor.mem_reserved ht (by decide)

/-- A directive behind a directive is rejected, whatever the first one is glued to. -/
theorem IsShipped.not_accepted_glued (hg : IsShipped g) :
    (recognize g "SELECT 1FORMAT JSON FORMAT JSON".toList).accepted = false := by
  refine hg.not_accepted_of_places (List.range 9) (fun j _ h => ?_) (by decide +kernel)
  have hbarrier : isBarrier "SELECT 1FORMAT JSON FORMAT JSON".toList 8 = true := by decide +kernel
  exact List.mem_range.mpr
    (Nat.lt_succ_of_le (hg.le_of_isBarrier hg.formatKeyword_mem_reserved hbarrier h))

end QueryGate.Shipped
