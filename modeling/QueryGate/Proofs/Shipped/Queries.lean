import QueryGate.Proofs.Shipped.Tokens

/-!
# Queries of the shipped grammar

What has been read of a query is a settled text that begins with blanks only
(`IsShipped.settled_of_reachable`, `IsShipped.exists_lead`), and a query is still matched where the
text behind it is another directive (`IsShipped.matches_append`).
-/

namespace QueryGate.Shipped

open Ebnf Regex Text Statement

variable {g : Grammar} {text q tail rest lead gap tok : List Char} {i j k m : Nat} {x : Lexeme}
  {c : Char}

/-- The grammar of the shipped source. -/
structure IsShipped (g : Grammar) : Prop where
  isFor : g.IsFor collected Grammar.shippedRoot
  ignored : g.ignored = [atStart (.plus true (.chars blank))]

theorem isShipped_of_shipped (h : Grammar.shipped = .ok g) : IsShipped g := by
  obtain ⟨g', hg', hfor, hignored⟩ := exists_shipped
  obtain rfl := Except.ok.inj (h.symm.trans hg')
  exact ⟨hfor, hignored⟩

theorem IsShipped.skipIgnored_eq (hg : IsShipped g) (s : List Char) :
    skipIgnored g.ignored s = s.dropWhile blank.mem := by
  rw [hg.ignored]
  exact Grammar.skipIgnored_eq_dropWhile s

theorem of_mem_blank (h : blank.mem c = true) : isWhite c = true ∧ c.utf8Size ≤ 1 := by
  have hcases : c = ' ' ∨ c = '\t' ∨ c = '\x0c' ∨ c = '\r' ∨ c = '\n' := by
    simpa [blank, CharClass.mem] using h
  rcases hcases with rfl | rfl | rfl | rfl | rfl <;> decide

theorem isWhite_of_mem_blank (h : blank.mem c = true) : isWhite c = true :=
  (of_mem_blank h).1

/-- What is read is a token behind blanks. -/
theorem IsShipped.exists_of_readsAs (hg : IsShipped g) (h : g.ReadsAs text x k m) :
    ∃ gap tok rest, text.drop k = gap ++ tok ++ rest ∧ (∀ c ∈ gap, blank.mem c = true) ∧
      (∀ c ∈ tok.head?, blank.mem c = false) ∧ g.TakesAs x tok rest ∧
      m = k + (gap ++ tok).length ∧ text.take m = text.take k ++ gap ++ tok ∧
      text.drop m = rest := by
  obtain ⟨gap, tok, rest, htext, hgap, hhead, htok, rfl⟩ :=
    (Grammar.readsAs_iff hg.skipIgnored_eq).mp h
  rw [Nat.add_assoc, ← List.length_append]
  refine ⟨gap, tok, rest, htext, hgap, hhead, htok, rfl, ?_, ?_⟩
  · rw [List.take_add, htext, List.take_left, List.append_assoc]
  · rw [← List.drop_drop, htext, List.drop_left]

/-- A lexeme of queries takes a piece. -/
def Step (g : Grammar) (text : List Char) (x : Lexeme) (k m : Nat) : Prop :=
  x ∈ queryLexemes ∧ g.ReadsAs text x k m

theorem Step.le (h : Step g text x k m) : k ≤ m := by
  obtain ⟨t, -, hreads⟩ := h.2
  exact Nat.le_of_lt hreads.lt

/-! ## The query -/

/-- What has been read of a query is settled. -/
theorem IsShipped.settled_of_reachable (hg : IsShipped g) (hreserved : formatKeyword ∈ g.reserved)
    (h : Relation.ReflTransGen (fun k m => ∃ x, Step g text x k m) 0 j) :
    Settled (text.take j) (text.drop j).head? := by
  induction h with
  | refl => exact settled_nil _
  | @tail k m _ hstep ih =>
    obtain ⟨x, hstep⟩ := hstep
    obtain ⟨gap, tok, rest, htext, hgap, -, htok, -, htake, hdrop⟩ := hg.exists_of_readsAs hstep.2
    rw [htake, hdrop]
    refine Settled.append ?_ (fun c hc => isWhite_of_mem_blank (hgap c hc))
      (isToken_of_takesAs hg.isFor hreserved hstep.1 htok)
    rwa [htext, List.head?_append_of_ne_nil _ (by simp [htok.ne_nil])] at ih

/-- A query begins with blanks only. -/
theorem IsShipped.exists_lead (hg : IsShipped g) (hreserved : formatKeyword ∈ g.reserved)
    (h : Relation.ReflTransGen (fun k m => ∃ x, Step g text x k m) 0 j) :
    ∃ lead s, text.take j = lead ++ s ∧ (∀ c ∈ lead, blank.mem c = true) ∧
      ∀ c ∈ s.head?, isWhite c = false := by
  induction h with
  | refl => exact ⟨[], [], rfl, by simp, by simp⟩
  | @tail k m _ hstep ih =>
    obtain ⟨x, hstep⟩ := hstep
    obtain ⟨gap, tok, rest, -, hgap, -, htok, -, htake, -⟩ := hg.exists_of_readsAs hstep.2
    obtain ⟨lead, s, hs, hlead, hhead⟩ := ih
    have htoken := isToken_of_takesAs hg.isFor hreserved hstep.1 htok
    rw [htake, hs]
    by_cases hne : s = []
    · refine ⟨lead ++ gap, tok, by simp [hne], fun c hc => ?_, htoken.head⟩
      exact (List.mem_append.mp hc).elim (hlead c) (hgap c)
    · refine ⟨lead, s ++ gap ++ tok, by simp only [List.append_assoc], hlead, ?_⟩
      rwa [List.append_assoc, List.head?_append_of_ne_nil _ hne]

/-- How far a query has been read in a text and in one with another end. -/
def InStep (text q rest tail : List Char) (k k' : Nat) : Prop :=
  ∃ lead s, (∀ c ∈ lead, blank.mem c = true) ∧ text.drop k = lead ++ s ++ rest ∧
    q.drop k' = s ++ tail

/-- A token in front of the end is taken in both texts. -/
theorem IsShipped.step_of_inStep (hg : IsShipped g) {k' : Nat}
    (htail : ∀ c ∈ tail, isIdentChar c = true ∨ c = ' ')
    (hin : InStep text q (text.drop j) (' ' :: tail) k k') (hstep : Step g text x k m)
    (hm : m ≤ j) :
    ∃ m', InStep text q (text.drop j) (' ' :: tail) m m' ∧ g.ReadsAs q x k' m' := by
  obtain ⟨lead, s, hlead, hk, hk'⟩ := hin
  obtain ⟨gap, tok, rest, htext, hgap, hhead, htok, rfl, -, hdrop⟩ := hg.exists_of_readsAs hstep.2
  -- the end of the text stands behind the token
  obtain ⟨s', rfl⟩ : ∃ s', rest = s' ++ text.drop j := by
    refine ⟨rest.take (j - (k + (gap ++ tok).length)), ?_⟩
    conv_lhs => rw [← List.take_append_drop (j - (k + (gap ++ tok).length)) rest]
    rw [← hdrop, List.drop_drop, Nat.add_sub_cancel' hm]
  -- the blanks in front of the query are in front of the token
  obtain ⟨gap', rfl, hs⟩ : ∃ gap', gap = lead ++ gap' ∧
      s ++ text.drop j = gap' ++ tok ++ (s' ++ text.drop j) := by
    rw [hk, List.append_assoc, List.append_assoc] at htext
    rcases List.append_eq_append_iff.mp htext with ⟨a, rfl, ha⟩ | ⟨a, rfl, ha⟩
    · exact ⟨a, rfl, by rw [ha, List.append_assoc]⟩
    · cases a with
      | nil => exact ⟨[], by simp, by simpa using ha.symm⟩
      | cons d a =>
        obtain ⟨e, tok, rfl⟩ := List.exists_cons_of_ne_nil htok.ne_nil
        obtain rfl : e = d := (List.cons.inj ha).1
        have hblank := hlead e (by simp)
        rw [hhead e rfl] at hblank
        cases hblank
  obtain rfl : s = gap' ++ tok ++ s' := by
    rw [← List.append_assoc] at hs
    exact List.append_cancel_right hs
  refine ⟨k' + gap'.length + tok.length, ⟨[], s', by simp, by rw [hdrop]; rfl, ?_⟩,
    (Grammar.readsAs_iff hg.skipIgnored_eq).mpr ⟨gap', tok, s' ++ ' ' :: tail, ?_,
      fun c hc => hgap c (List.mem_append_right _ hc), hhead,
      takesAs_append hg.isFor hstep.1 htail htok, rfl⟩⟩
  · rw [Nat.add_assoc, ← List.length_append, ← List.drop_drop, hk', List.append_assoc _ s',
      List.drop_left]
  · rw [hk', List.append_assoc _ s']

/-- The lexemes of queries are all that a query takes. -/
theorem matches_queryLexemes {takes : Lexeme → Nat → Nat → Prop}
    (h : Matches collected.rules takes [.name "query"] i j) :
    Matches collected.rules (fun x k m => x ∈ queryLexemes ∧ takes x k m) [.name "query"] i j := by
  have hrules : ∀ e ∈ collected.rules, e.1 ∈ queryNames → Confined queryNames queryLexemes [e.2] :=
    fun e he hn => confined_of_mem_rules (List.mem_reverse.mp he) hn
  refine h.restrict hrules fun e he => ?_
  have hquery : "query" ∈ queryNames := by decide +kernel
  rw [List.mem_singleton.mp he]
  exact ⟨List.cons_subset.mpr ⟨hquery, List.nil_subset _⟩, List.nil_subset _⟩

theorem matches_step (h : Matches collected.rules (g.ReadsAs text) [.name "query"] i j) :
    Matches collected.rules (Step g text) [.name "query"] i j :=
  matches_queryLexemes h

/-- A query is matched whatever directive stands behind it. -/
theorem IsShipped.matches_append (hg : IsShipped g) {s : List Char}
    (htail : ∀ c ∈ tail, isIdentChar c = true ∨ c = ' ') (hstart : text.take j = lead ++ s)
    (hlead : ∀ c ∈ lead, blank.mem c = true)
    (h : Matches collected.rules (g.ReadsAs text) [.name "query"] 0 j) :
    ∃ j', (s ++ ' ' :: tail).drop j' = ' ' :: tail ∧
      Matches collected.rules (g.ReadsAs (s ++ ' ' :: tail)) [.name "query"] 0 j' := by
  have hsteps := (matches_step h).within (fun _ _ _ hstep => hstep.le) (Nat.le_refl j)
  have hin : InStep text (s ++ ' ' :: tail) (text.drop j) (' ' :: tail) 0 0 :=
    ⟨lead, s, hlead, by rw [← hstart, List.take_append_drop, List.drop_zero], rfl⟩
  obtain ⟨j', ⟨lead', s', -, htext, hq⟩, hmatches⟩ :=
    hsteps.transfer (R := InStep text (s ++ ' ' :: tail) (text.drop j) (' ' :: tail))
      (fun x k m k' hin hstep => hg.step_of_inStep htail hin hstep.1 hstep.2) hin
  refine ⟨j', ?_, hmatches⟩
  have hnil := List.append_eq_nil_iff.mp (List.append_left_eq_self.mp htext.symm)
  rw [hq, hnil.2]
  rfl

end QueryGate.Shipped
