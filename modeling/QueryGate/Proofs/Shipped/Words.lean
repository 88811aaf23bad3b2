import QueryGate.Proofs.Eval.Clauses
import QueryGate.Proofs.Shipped.Queries

/-!
# Words in queries

The words that clauses are looked for by (`sought`) are reserved : what the grammar reads has them
nowhere but in the tokens that are these words, and in quotes (`absent_of_takesAs`). So they are
found nowhere in a piece that is read without such tokens (`IsShipped.absent_of_matches`).
-/

namespace QueryGate.Shipped

open Ebnf Regex Text Statement Eval

variable {g : Grammar} {root w : String} {text s t tok rest gap : List Char} {prev : Option Char}
  {x : Lexeme} {value : String} {anyCase : Bool} {c d : Char} {i j k m : Nat} {es : List Expr}

/-- The lexemes of the grammar. -/
def lexemes : List Lexeme :=
  Expr.lexemesOf (rules.map (·.2))

/-- The words that clauses are looked for by. -/
def sought : List String :=
  "GROUP" :: groupEnds

/-- A reserved word in upper case that does not begin like the exponent of a number. -/
structure IsSought (w : String) : Prop where
  letters : (lower w.toList).all Char.isLower = true
  ne_nil : w.toList ≠ []
  upper : upper w.toList = w.toList
  word : isWord w.toList = true
  lexeme : .literal w true ∈ lexemes
  head : w.toList.head?.all (fun d => d.toLower != 'e') = true

theorem isSought_of_mem_sought (hw : w ∈ sought) : IsSought w := by
  simp only [sought, groupEnds, List.mem_cons, List.not_mem_nil, or_false] at hw
  rcases hw with rfl | rfl | rfl | rfl | rfl <;> constructor <;> decide +kernel

theorem IsSought.mem_reserved (h : IsSought w) (hg : g.IsFor collected root) :
    w.toList ∈ g.reserved := by
  obtain ⟨e, he, hx⟩ := Expr.mem_lexemesOf_iff.mp h.lexeme
  obtain ⟨entry, hentry, rfl⟩ := List.mem_map.mp he
  obtain ⟨t, ht⟩ := hg.exists_lexemeOf? (List.mem_reverse.mpr hentry) hx
  exact hg.mem_reserved ht (by simp [Lexeme.keyword?, h.word, h.upper])

/-! ## Characters -/

theorem of_mem_blank_word (h : blank.mem c = true) :
    c.isAlpha = false ∧ isWordMember c = false ∧ isDecimalDigit c = false := by
  have hcases : c = ' ' ∨ c = '\t' ∨ c = '\x0c' ∨ c = '\r' ∨ c = '\n' := by
    simpa [blank, CharClass.mem] using h
  rcases hcases with rfl | rfl | rfl | rfl | rfl <;> decide

/-- Whether a character is one that words are spelled with : one of identifiers, or one that folds
to an ASCII letter. -/
def isSpelling (c : Char) : Bool :=
  isIdentChar c || c == '\u017f' || c == '\u212a'

theorem of_isSpelling (h : isSpelling c = true) : isWordMember c = true ∧ isWordChar c = true := by
  simp only [isSpelling, Bool.or_eq_true, beq_iff_eq] at h
  rcases h with (h | rfl) | rfl
  · exact ⟨isWordMember_of_isIdentChar h, isWordChar_of_isIdentChar h⟩
  all_goals constructor <;> decide +kernel

/-- Whether a quoted text is a word in every spelling, or has no characters of words in it. -/
def isWordOrSign (value : String) (anyCase : Bool) : Bool :=
  value.toList.all fun d => (spellings anyCase d).all fun c =>
    if isWord value.toList then isSpelling c && (!c.isAlpha || c.toLower == d.toLower)
    else decide (c.toNat < 128) && !isIdentChar c

/-- The lexemes of the grammar have names, or are words and signs, and none but the words that are
looked for have their letters. -/
theorem cases_of_mem_lexemes (hx : x ∈ lexemes) :
    (∃ value anyCase, x = .literal value anyCase ∧ isWordOrSign value anyCase = true ∧
      ∀ w ∈ sought, lower value.toList = lower w.toList → x = .literal w true) ∨
    ∃ e ∈ named, x = .named e.1 := by
  have hall : (lexemes.all fun x => match x with
      | .literal value anyCase => isWordOrSign value anyCase &&
        sought.all fun w => lower value.toList != lower w.toList || x == .literal w true
      | .named name => (named.map (·.1)).contains name
      | _ => false) = true := by decide +kernel
  have h := List.all_eq_true.mp hall x hx
  cases x with
  | literal value anyCase =>
    simp only [Bool.and_eq_true, List.all_eq_true, Bool.or_eq_true, bne_iff_ne, beq_iff_eq] at h
    exact Or.inl ⟨value, anyCase, rfl, h.1, fun w hw heq =>
      (h.2 w hw).resolve_left (not_not_intro heq)⟩
  | named name =>
    obtain ⟨e, he, rfl⟩ := List.mem_map.mp (List.contains_iff_mem.mp h)
    exact Or.inr ⟨e, he, rfl⟩
  | _ => cases h

/-! ## Tokens -/

theorem isIdentChar_of_isAlpha (h : c.isAlpha = true) : isIdentChar c = true := by
  rw [isIdentChar, Char.isAlphanum, h, Bool.true_or, Bool.true_or]

/-- A word that is read is no other word. -/
theorem absent_of_spells (hw : w ∈ sought) (hsort : isWordOrSign value anyCase = true)
    (hne : lower value.toList ≠ lower w.toList) (h : Spells anyCase value.toList tok)
    (hnext : (Lexeme.literal value anyCase).isKeyword = true → rest.head?.any isWordChar = false) :
    Absent (isWordAt w.toList) rest prev tok := by
  have hsought := isSought_of_mem_sought hw
  simp only [isWordOrSign, List.all_eq_true] at hsort
  by_cases hword : isWord value.toList = true
  · simp only [hword, if_true, Bool.and_eq_true, Bool.or_eq_true, Bool.not_eq_true',
      beq_iff_eq] at hsort
    refine absent_of_word hsought.letters (fun c hc => ?_) (fun c hc => ?_) ?_
    · obtain ⟨d, hd, hmem⟩ := exists_mem_of_spells h hc
      exact (of_isSpelling (hsort d hd c hmem).1).1
    · have hnot := hnext (by simp [Lexeme.isKeyword, Lexeme.keyword?, hword])
      rw [Option.mem_def.mp hc, Option.any_some] at hnot
      refine Bool.eq_false_iff.mpr fun halpha => ?_
      rw [isWordChar_of_isIdentChar (isIdentChar_of_isAlpha halpha)] at hnot
      cases hnot
    · refine Bool.eq_false_iff.mpr fun hsame => hne ?_
      rw [← beq_iff_eq.mp hsame]
      exact (lower_eq_of_spells (fun d hd c hc halpha =>
        (hsort d hd c hc).2.resolve_left (by simp [halpha])) h
          (isAlpha_of_sameLetters hsought.letters hsame)).symm
  · simp only [hword, Bool.false_eq_true, if_false, Bool.and_eq_true, Bool.not_eq_true'] at hsort
    refine absent_of_not_isAlpha hsought.letters hsought.ne_nil fun c hc => ?_
    obtain ⟨d, hd, hmem⟩ := exists_mem_of_spells h hc
    refine Bool.eq_false_iff.mpr fun halpha => ?_
    have hident := (hsort d hd c hmem).2
    rw [isIdentChar_of_isAlpha halpha] at hident
    cases hident

/-- A number has none of the words in it. -/
theorem absent_of_alphabet (hw : w ∈ sought)
    (h : ∀ c ∈ tok, ∃ cls ∈ numeral.alphabet, cls.mem c = true) :
    Absent (isWordAt w.toList) rest prev tok := by
  have hsought := isSought_of_mem_sought hw
  refine absent_of_head (fun c hc d hd heq => ?_) hsought.ne_nil
  have hletter : d.toLower.isLower = true := List.all_eq_true.mp hsought.letters _
    (List.mem_map_of_mem (List.mem_of_mem_head? hd))
  have halpha : c.isAlpha = true := isAlpha_of_toLower (heq ▸ hletter)
  have hexponent : d.toLower ≠ 'e' := bne_iff_ne.mp ((Option.all_eq_true ..).mp hsought.head d hd)
  obtain ⟨cls, hcls, hmem⟩ := h c hc
  rcases mem_alphabet_numeral_cases hcls hmem with hdigit | rfl | (rfl | rfl) | rfl | rfl
  · have hbounds := mem_digit_iff.mp hdigit
    have hcase := Bool.or_eq_true_iff.mp halpha
    rw [isUpper_iff, isLower_iff] at hcase
    omega
  · exact absurd halpha (by decide)
  · exact absurd heq.symm hexponent
  · exact absurd heq.symm hexponent
  · exact absurd halpha (by decide)
  · exact absurd halpha (by decide)

/-- A terminal with a name takes an identifier, a quoted text or a number. -/
theorem cases_of_takesAs_named (hg : g.IsFor collected root) {e : String × Regex} (he : e ∈ named)
    (h : g.TakesAs (.named e.1) tok rest) :
    ((∀ c ∈ tok, isIdentChar c = true) ∧ (∀ c ∈ rest.head?, isIdentChar c = false) ∧
        upper tok ∉ g.reserved) ∨
      (∃ mark, isQuoteMark mark = true ∧ tok.head? = some mark ∧ tok.getLast? = some mark) ∨
      ∀ c ∈ tok, ∃ cls ∈ numeral.alphabet, cls.mem c = true := by
  obtain ⟨-, -, hmatch, -, hfree⟩ := (hg.takesAs_iff (reads_named e he)).mp h
  rw [atStart, matchLength?_anchored] at hmatch
  have hlang := lang_of_matchLength? hmatch
  rw [List.take_left] at hlang
  have hquoted : ∀ {mark : Char} {r : Regex}, isQuoteMark mark = true →
      (Regex.seq (.chars (.single mark)) r).endings = [.single mark] →
      Lang (.seq (.chars (.single mark)) r) tok → tok.head? = some mark ∧
        tok.getLast? = some mark := by
    intro mark r hmark hends hlang
    refine ⟨?_, (bareOrQuoted_of_lang_quotes hmark hends hlang).2⟩
    obtain ⟨c, t, rfl, hc, -⟩ := hlang.exists_cons
    rw [(CharClass.mem_single _ _).mp hc, List.head?_cons]
  simp only [named, List.mem_cons, List.not_mem_nil, or_false] at he
  rcases he with rfl | rfl | rfl | rfl
  · cases hlang with
    | altLeft hbare =>
      exact Or.inl ⟨isIdentChar_of_lang_bare hbare,
        forall_mem_head?_of_matchLength?_bare hbare hmatch, hfree rfl⟩
    | altRight hlang => exact Or.inr (Or.inl ⟨_, by decide, hquoted (by decide) rfl hlang⟩)
  · exact Or.inr (Or.inl ⟨_, by decide, hquoted (by decide) rfl hlang⟩)
  · exact Or.inr (Or.inr hlang.exists_mem_alphabet)
  · refine Or.inr (Or.inr fun c hc => ?_)
    obtain ⟨cls, hcls, hmem⟩ := hlang.exists_mem_alphabet c hc
    exact ⟨cls, by rw [List.mem_singleton.mp hcls]; exact List.mem_cons_self .., hmem⟩

/-- What is read has none of the words in it, if it is not the word itself and does not quote
it. -/
theorem absent_of_takesAs (hg : g.IsFor collected root) (hw : w ∈ sought) (hx : x ∈ lexemes)
    (hne : x ≠ .literal w true) (h : g.TakesAs x tok rest)
    (hquote : (∃ c ∈ tok, isQuoteMark c = true) →
      ∃ prev, Absent (isWordAt w.toList) [] prev tok) :
    Absent (isWordAt w.toList) rest prev tok := by
  have hsought := isSought_of_mem_sought hw
  have hletter : ∀ {c}, isIdentChar c = false → c.isAlpha = false := fun hident =>
    Bool.eq_false_iff.mpr fun halpha => by
      rw [isIdentChar_of_isAlpha halpha] at hident
      cases hident
  rcases cases_of_mem_lexemes hx with ⟨value, anyCase, rfl, hsort, hother⟩ | ⟨e, he, rfl⟩
  · obtain ⟨-, -, hspells, hnext⟩ := hg.takesAs_literal_iff.mp h
    exact absent_of_spells hw hsort (fun heq => hne (hother w hw heq)) hspells hnext
  rcases cases_of_takesAs_named hg he h with
    ⟨hident, hnext, hfree⟩ | ⟨mark, hmark, hhead, hlast⟩ | hnumber
  · refine absent_of_word hsought.letters
      (fun c hc => isWordMember_of_isIdentChar (hident c hc)) (fun c hc => hletter (hnext c hc))
      (Bool.eq_false_iff.mpr fun hsame => hfree ?_)
    rw [upper_eq_of_sameLetters hsame, hsought.upper]
    exact hsought.mem_reserved hg
  · obtain ⟨prev', habsent⟩ := hquote ⟨mark, List.mem_of_mem_head? hhead, hmark⟩
    exact absent_of_quoted hsought.letters hsought.ne_nil (hletter (of_isQuoteMark hmark).2) hhead
      hlast habsent
  · exact absent_of_alphabet hw hnumber

/-- What stands behind a keyword does not go on with it, when it is looked for. -/
theorem isWordChar_of_takesAs (hg : g.IsFor collected root) (hx : x ∈ lexemes)
    (h : g.TakesAs x tok rest) : ∀ c ∈ tok.head?, isWordMember c = true → isWordChar c = true := by
  intro c hc hmember
  have hascii : c.toNat < 128 → isIdentChar c = true := fun hlt => by
    rwa [isWordMember_eq hlt] at hmember
  rcases cases_of_mem_lexemes hx with ⟨value, anyCase, rfl, hsort, -⟩ | ⟨e, he, rfl⟩
  · simp only [isWordOrSign, List.all_eq_true] at hsort
    obtain ⟨d, hd, hmem⟩ := exists_mem_of_spells (hg.spells_of_takesAs h)
      (List.mem_of_mem_head? hc)
    have hspelling := hsort d hd c hmem
    split_ifs at hspelling with hword
    · exact (of_isSpelling (Bool.and_eq_true_iff.mp hspelling).1).2
    · simp only [Bool.and_eq_true, decide_eq_true_eq] at hspelling
      exact isWordChar_of_isIdentChar (hascii hspelling.1)
  refine isWordChar_of_isIdentChar ?_
  rcases cases_of_takesAs_named hg he h with ⟨hident, -, -⟩ | ⟨mark, hmark, hhead, -⟩ | hnumber
  · exact hident c (List.mem_of_mem_head? hc)
  · obtain rfl := Option.some.inj (hc.symm.trans hhead)
    have hcode := toNat_of_isQuoteMark hmark
    exact hascii (by omega)
  · obtain ⟨cls, hcls, hmem⟩ := hnumber c (List.mem_of_mem_head? hc)
    rcases cases_of_mem_alphabet_numeral hcls hmem with hident | rfl | rfl | rfl
    · exact hident
    all_goals exact hascii (by decide)

/-! ## Pieces -/

/-- Whether a token has none of the words in it : it is none of them and does not quote one. -/
def spares (words : List String) (x : Lexeme) (s : List Char) : Bool :=
  words.all fun w => x != .literal w true && (!s.any isQuoteMark || !stands w.toList s)

/-- A token is read that has none of the words in it. -/
def ReadsPast (g : Grammar) (text : List Char) (words : List String) (x : Lexeme) (k m : Nat) :
    Prop :=
  g.ReadsAs text x k m ∧ spares words x (text.extract k m) = true

theorem matches_readsAs {words : List String}
    (h : Matches collected.rules (ReadsPast g text words) es i j) :
    Matches collected.rules (g.ReadsAs text) es i j :=
  h.imp fun _ _ _ hx => hx.1

theorem ReadsPast.le {words : List String} (h : ReadsPast g text words x k m) : k ≤ m := by
  obtain ⟨t, -, hreads⟩ := h.1
  exact Nat.le_of_lt hreads.lt

theorem extract_append (hij : i ≤ j) (hjk : j ≤ k) :
    text.extract i k = text.extract i j ++ text.extract j k := by
  have hlength : k - i = (j - i) + (k - j) := by omega
  simp only [List.extract_eq_take_drop]
  rw [hlength, List.take_add, List.drop_drop, Nat.add_sub_cancel' hij]

theorem extract_append_drop (hij : i ≤ j) : text.drop i = text.extract i j ++ text.drop j := by
  obtain ⟨a, rfl⟩ := Nat.exists_eq_add_of_le hij
  rw [List.extract_eq_take_drop, Nat.add_sub_cancel_left, ← List.drop_drop,
    List.take_append_drop]

theorem extract_zero (j : Nat) : text.extract 0 j = text.take j := by
  rw [List.extract_eq_take_drop, Nat.sub_zero, List.drop_zero]

/-- What is read is the blanks in front of a token, and the token. -/
theorem IsShipped.exists_extract (hg : IsShipped g) (h : g.ReadsAs text x k m) :
    ∃ gap tok, text.extract k m = gap ++ tok ∧ text.drop k = gap ++ (tok ++ text.drop m) ∧
      (∀ c ∈ gap, blank.mem c = true) ∧ g.TakesAs x tok (text.drop m) := by
  obtain ⟨gap, tok, rest, htext, hgap, -, htok, rfl, -, hdrop⟩ := hg.exists_of_readsAs h
  refine ⟨gap, tok, ?_, by rw [htext, hdrop, List.append_assoc], hgap, hdrop ▸ htok⟩
  rw [List.extract_eq_take_drop, Nat.add_sub_cancel_left, htext, List.take_left]

theorem IsSought.absent_of_blank (hw : IsSought w) (hgap : ∀ c ∈ gap, blank.mem c = true) :
    Absent (isWordAt w.toList) rest prev gap :=
  absent_of_not_isAlpha hw.letters hw.ne_nil fun c hc => (of_mem_blank_word (hgap c hc)).1

/-- A word is not found where a token without it is read. -/
theorem IsShipped.absent_of_readsPast (hg : IsShipped g) {words : List String} (hw : w ∈ sought)
    (hmem : w ∈ words) (hx : x ∈ lexemes) (h : ReadsPast g text words x k m) :
    Absent (isWordAt w.toList) (text.drop m) prev (text.extract k m) := by
  obtain ⟨hreads, hspares⟩ := h
  have hspared := List.all_eq_true.mp hspares w hmem
  simp only [Bool.and_eq_true, bne_iff_ne, Bool.or_eq_true, Bool.not_eq_true'] at hspared
  obtain ⟨gap, tok, hpiece, -, hgap, htok⟩ := hg.exists_extract hreads
  rw [hpiece] at hspared ⊢
  refine absent_append_iff.mpr ⟨(isSought_of_mem_sought hw).absent_of_blank hgap,
    absent_of_takesAs hg.isFor hw hx hspared.1 htok ?_⟩
  rintro ⟨c, hc, hmark⟩
  have hnot : stands w.toList (gap ++ tok) = false := by
    refine hspared.2.resolve_left fun hnone => ?_
    rw [List.any_eq_false] at hnone
    exact hnone c (List.mem_append_right _ hc) hmark
  exact ⟨_, (absent_append_iff.mp (absent_of_not_stands hnot)).2⟩

/-- The names of the rules. -/
def ruleNames : List String :=
  rules.map (·.1)

theorem confined_of_mem_collected :
    ∀ e ∈ collected.rules, e.1 ∈ ruleNames → Confined ruleNames lexemes [e.2] := by
  have hall : ∀ e ∈ collected.rules, Confined ruleNames lexemes [e.2] := by decide +kernel
  exact fun e he _ => hall e he

/-- A word is found nowhere in what is read in tokens without it. -/
theorem IsShipped.absent_of_matches (hg : IsShipped g) {words : List String} (hw : w ∈ sought)
    (hmem : w ∈ words) (hes : Confined ruleNames lexemes es)
    (h : Matches collected.rules (ReadsPast g text words) es i j) :
    Absent (isWordAt w.toList) (text.drop j) prev (text.extract i j) := by
  have hreachable := (h.restrict confined_of_mem_collected hes).reachable
  clear h
  have hle : ∀ {k m}, Relation.ReflTransGen
      (fun k m => ∃ x, x ∈ lexemes ∧ ReadsPast g text words x k m) k m → k ≤ m :=
    fun h => le_of_reachable (fun _ _ _ hx => hx.2.le) h
  induction hreachable with
  | refl =>
    rw [List.extract_eq_take_drop, Nat.sub_self, List.take_zero]
    trivial
  | @tail k m hfront hstep ih =>
    obtain ⟨x, hx, hreads⟩ := hstep
    rw [extract_append (hle hfront) hreads.le, absent_append_iff,
      ← extract_append_drop hreads.le]
    exact ⟨ih, hg.absent_of_readsPast hw hmem hx hreads⟩

end QueryGate.Shipped
