import QueryGate.Proofs.Shipped.Queries
import QueryGate.Proofs.Statement.Quotes

/-!
# Quotes in queries

The lexemes of queries take tokens that close the quotes they open, with no separator outside them
(`keepsQuotes_of_takesAs`), and so does all that has been read of a query
(`IsShipped.keepsQuotes_of_reachable`). For this no backslash may stand between back quotes : there
the grammar does not know it, and statements do.
-/

namespace QueryGate.Shipped

open Ebnf Regex Text Statement Quote

variable {g : Grammar} {root : String} {text s tok rest : List Char} {x : Lexeme} {c mark : Char}
  {k j : Nat}

/-- A character that the grammar reads as statements do : one byte outside quotes, and no backslash
between back quotes. -/
def ReadAlike (q : Quote) (c : Char) : Prop :=
  Narrow q c ∧ (q = .inside (Char.ofNat 96) → c ≠ '\\')

instance (q : Quote) (c : Char) : Decidable (ReadAlike q c) :=
  inferInstanceAs (Decidable (Narrow q c ∧ (q = .inside (Char.ofNat 96) → c ≠ '\\')))

/-- Reading it outside quotes, the text closes its quotes and has no separator outside them. -/
structure KeepsQuotes (s : List Char) : Prop where
  closed : Quote.outside.after s = .outside
  unseparated : Everywhere Unseparated .outside s

theorem KeepsQuotes.append {t : List Char} (hs : KeepsQuotes s) (ht : KeepsQuotes t) :
    KeepsQuotes (s ++ t) where
  closed := by rw [after_append, hs.closed, ht.closed]
  unseparated := by
    rw [everywhere_append_iff, hs.closed]
    exact ⟨hs.unseparated, ht.unseparated⟩

theorem keepsQuotes_of_forall (hs : ∀ c ∈ s, isQuoteMark c = false ∧ c ≠ ';') : KeepsQuotes s where
  closed := after_outside_of_forall_not_isQuoteMark fun c hc => (hs c hc).1
  unseparated := everywhere_outside_of_forall (fun c hc => (hs c hc).1) fun c hc _ => (hs c hc).2

theorem keepsQuotes_of_blank (hs : ∀ c ∈ s, blank.mem c = true) : KeepsQuotes s := by
  refine keepsQuotes_of_forall fun c hc => ?_
  have hwhite := isWhite_of_mem_blank (hs c hc)
  refine ⟨not_isQuoteMark_of_isWhite hwhite, ?_⟩
  rintro rfl
  exact absurd hwhite (by decide)

/-! ## Quoted tokens -/

/-- Between quotes, what has neither their mark nor a backslash in it leaves them open. -/
theorem inside_of_forall (hs : ∀ c ∈ s, c ≠ mark ∧ c ≠ '\\') :
    (Quote.inside mark).after s = .inside mark ∧ Everywhere Unseparated (.inside mark) s := by
  induction s with
  | nil => exact ⟨rfl, everywhere_nil⟩
  | cons c s ih =>
    obtain ⟨⟨hmark, hback⟩, hs⟩ := List.forall_mem_cons.mp hs
    have hstep : (Quote.inside mark).step c = .inside mark := by
      simp [Quote.step, hmark, hback]
    rw [after_cons, everywhere_cons_iff, hstep]
    exact ⟨(ih hs).1, unseparated_of_ne_outside (by simp), (ih hs).2⟩

/-- Quotes around what leaves them open. -/
theorem keepsQuotes_of_inside (hmark : isQuoteMark mark = true)
    (h : (Quote.inside mark).after s = .inside mark ∧ Everywhere Unseparated (.inside mark) s) :
    KeepsQuotes (mark :: (s ++ [mark])) := by
  have hopen : Quote.outside.step mark = .inside mark := by simp [Quote.step, hmark]
  have hclose : (Quote.inside mark).step mark = .outside := by
    have hback : mark ≠ '\\' := by
      rintro rfl
      exact absurd hmark (by decide)
    simp [Quote.step, hback]
  have hsep : Unseparated .outside mark := fun _ => by
    rintro rfl
    exact absurd hmark (by decide)
  constructor
  · rw [after_cons, hopen, after_append, h.1, after_cons, hclose, after_nil]
  · rw [everywhere_cons_iff, hopen, everywhere_append_iff, h.1]
    exact ⟨hsep, h.2, unseparated_of_ne_outside (by simp), everywhere_nil⟩

/-- The characters of a string leave its quotes open, doubled quotes and what is escaped
included. -/
theorem inside_of_lang_string {a : Regex} (ha : ∀ s, Lang a s →
    (Quote.inside mark).after s = .inside mark ∧ Everywhere Unseparated (.inside mark) s)
    (h : Lang (.more true a) s) :
    (Quote.inside mark).after s = .inside mark ∧ Everywhere Unseparated (.inside mark) s := by
  generalize hr : Regex.more true a = r at h
  induction h with
  | done => exact ⟨rfl, everywhere_nil⟩
  | again hfirst _ _ ih =>
    cases hr
    obtain ⟨hafter, hsep⟩ := ha _ hfirst
    obtain ⟨hafter', hsep'⟩ := ih rfl
    rw [after_append, everywhere_append_iff, hafter]
    exact ⟨hafter', hsep, hsep'⟩
  | _ => cases hr

theorem keepsQuotes_of_lang_string (h : Lang (.seq (.chars quote) stringTail) s) :
    KeepsQuotes s := by
  obtain ⟨c, t, rfl, hc, htail⟩ := h.exists_cons
  obtain rfl : c = '\'' := (CharClass.mem_single _ _).mp hc
  cases htail with
  | seq hbody hlast =>
    cases hlast with
    | chars hlast =>
      obtain rfl := (CharClass.mem_single _ _).mp hlast
      refine keepsQuotes_of_inside (by decide) (inside_of_lang_string (fun s hs => ?_) hbody)
      have hinside : ∀ c, Unseparated (.inside '\'') c := fun c =>
        unseparated_of_ne_outside (by simp)
      cases hs with
      | altLeft hother =>
        cases hother with
        | @chars _ c hc =>
          have hne : c ≠ '\'' ∧ c ≠ '\\' := by
            constructor <;> rintro rfl <;> exact absurd hc (by decide)
          exact inside_of_forall (by simpa using hne)
      | altRight hs =>
        cases hs with
        | altLeft hescape =>
          obtain ⟨c, t, rfl, hc, ht⟩ := hescape.exists_cons
          obtain rfl := (CharClass.mem_single _ _).mp hc
          cases ht with
          | chars => exact ⟨rfl, hinside _, unseparated_of_ne_outside (by decide), everywhere_nil⟩
        | altRight hdouble =>
          obtain ⟨c, t, rfl, hc, ht⟩ := hdouble.exists_cons
          obtain rfl := (CharClass.mem_single _ _).mp hc
          cases ht with
          | chars hc =>
            obtain rfl := (CharClass.mem_single _ _).mp hc
            exact ⟨rfl, hinside _, fun _ => by decide, everywhere_nil⟩

/-- Between back quotes there is no backslash where statements and the grammar read alike. -/
theorem not_backslash_of_everywhere (hs : ∀ c ∈ s, c ≠ Char.ofNat 96)
    (h : Everywhere ReadAlike (.inside (Char.ofNat 96)) s) : ∀ c ∈ s, c ≠ '\\' := by
  induction s with
  | nil => simp
  | cons c s ih =>
    obtain ⟨hc, hs⟩ := List.forall_mem_cons.mp hs
    obtain ⟨hread, h⟩ := everywhere_cons_iff.mp h
    have hback := hread.2 rfl
    have hstep : (Quote.inside (Char.ofNat 96)).step c = .inside (Char.ofNat 96) := by
      rw [Quote.step, if_neg (by simpa using hback), if_neg (by simpa using hc)]
    rw [hstep] at h
    exact List.forall_mem_cons.mpr ⟨hback, ih hs h⟩

theorem keepsQuotes_of_lang_quoted (h : Lang quoted s) (hread : Everywhere ReadAlike .outside s) :
    KeepsQuotes s := by
  obtain ⟨c, t, rfl, hc, htail⟩ := h.exists_cons
  obtain rfl := (CharClass.mem_single _ _).mp hc
  cases htail with
  | @seq _ _ body _ hbody hlast =>
    cases hlast with
    | chars hlast =>
      obtain rfl := (CharClass.mem_single _ _).mp hlast
      have hmark : ∀ c ∈ body, c ≠ Char.ofNat 96 := by
        intro c hc
        obtain ⟨cls, hcls, hmem⟩ := hbody.exists_mem_alphabet c hc
        obtain rfl : cls = .compl backquote := List.mem_singleton.mp hcls
        rintro rfl
        exact absurd hmem (by decide)
      have hback := not_backslash_of_everywhere hmark
        (everywhere_append_iff.mp (everywhere_cons_iff.mp hread).2).1
      exact keepsQuotes_of_inside (by decide)
        (inside_of_forall fun c hc => ⟨hmark c hc, hback c hc⟩)

/-! ## Tokens -/

/-- Whether a quoted text has neither quotes nor separators in it, however it is spelled. -/
def isQuoteless (value : String) (anyCase : Bool) : Bool :=
  value.toList.all fun d => (spellings anyCase d).all fun c => !isQuoteMark c && c != ';'

theorem keepsQuotes_of_spells {value : String} {anyCase : Bool}
    (hvalue : isQuoteless value anyCase = true) (h : Spells anyCase value.toList tok) :
    KeepsQuotes tok := by
  refine keepsQuotes_of_forall fun c hc => ?_
  obtain ⟨d, hd, hmem⟩ := exists_mem_of_spells h hc
  simpa using List.all_eq_true.mp (List.all_eq_true.mp hvalue d hd) c hmem

theorem isQuoteless_of_isHarmless {value : String} {anyCase : Bool}
    (h : isHarmless value anyCase = true) : isQuoteless value anyCase = true := by
  refine List.all_eq_true.mpr fun d hd => List.all_eq_true.mpr fun c hc => ?_
  obtain ⟨⟨-, hsep⟩, hmark⟩ := ((of_isHarmless h).1 d hd c hc).1
  simp [hsep, hmark]

/-- A number has neither quotes nor separators in it. -/
theorem keepsQuotes_of_alphabet (h : ∀ c ∈ s, ∃ cls ∈ numeral.alphabet, cls.mem c = true) :
    KeepsQuotes s := by
  refine keepsQuotes_of_forall fun c hc => ?_
  obtain ⟨cls, hcls, hmem⟩ := h c hc
  refine ⟨?_, (bare_of_mem_alphabet_numeral hcls hmem).2⟩
  rcases cases_of_mem_alphabet_numeral hcls hmem with hident | rfl | rfl | rfl
  · exact not_isQuoteMark_of_isIdentChar hident
  all_goals decide

/-- What the lexemes of queries take closes the quotes it opens. -/
theorem keepsQuotes_of_takesAs (hg : g.IsFor collected root) (hx : x ∈ queryLexemes)
    (h : g.TakesAs x tok rest) (hread : Everywhere ReadAlike .outside tok) : KeepsQuotes tok := by
  rcases cases_of_mem_queryLexemes hx with ⟨value, anyCase, rfl, hvalue⟩ | ⟨e, he, rfl⟩
  · exact keepsQuotes_of_spells (isQuoteless_of_isHarmless hvalue) (hg.spells_of_takesAs h)
  · obtain ⟨-, -, hmatch, -, -⟩ := (hg.takesAs_iff (reads_named e he)).mp h
    rw [atStart, matchLength?_anchored] at hmatch
    have hlang := lang_of_matchLength? hmatch
    rw [List.take_left] at hlang
    simp only [named, List.mem_cons, List.not_mem_nil, or_false] at he
    rcases he with rfl | rfl | rfl | rfl
    · cases hlang with
      | altLeft hbare =>
        refine keepsQuotes_of_forall fun c hc => ?_
        have hident := isIdentChar_of_lang_bare hbare c hc
        exact ⟨not_isQuoteMark_of_isIdentChar hident, (bare_of_isIdentChar hident).2⟩
      | altRight hquoted => exact keepsQuotes_of_lang_quoted hquoted hread
    · exact keepsQuotes_of_lang_string hlang
    · exact keepsQuotes_of_alphabet hlang.exists_mem_alphabet
    · refine keepsQuotes_of_alphabet fun c hc => ?_
      obtain ⟨cls, hcls, hmem⟩ := hlang.exists_mem_alphabet c hc
      exact ⟨cls, by rw [List.mem_singleton.mp hcls]; exact List.mem_cons_self .., hmem⟩

/-- What has been read of a query closes the quotes it opens. -/
theorem IsShipped.keepsQuotes_of_reachable (hg : IsShipped g)
    (hread : Everywhere ReadAlike .outside text)
    (h : Relation.ReflTransGen (fun k m => ∃ x, Step g text x k m) 0 j) :
    KeepsQuotes (text.take j) := by
  induction h with
  | refl => exact keepsQuotes_of_forall (by simp)
  | @tail k m _ hstep ih =>
    obtain ⟨x, hstep⟩ := hstep
    obtain ⟨gap, tok, rest, htext, hgap, -, htok, -, htake, -⟩ := hg.exists_of_readsAs hstep.2
    have hbefore : KeepsQuotes (text.take k ++ gap) := ih.append (keepsQuotes_of_blank hgap)
    rw [htake]
    refine hbefore.append (keepsQuotes_of_takesAs hg.isFor hstep.1 htok ?_)
    rw [← List.take_append_drop k text, htext, ← List.append_assoc, ← List.append_assoc,
      everywhere_append_iff, everywhere_append_iff, hbefore.closed] at hread
    exact hread.1.2

end QueryGate.Shipped
