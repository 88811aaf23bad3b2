import QueryGate.Proofs.Grammar.Readings
import QueryGate.Proofs.Grammar.Tokens
import QueryGate.Proofs.Regex.Alphabet
import QueryGate.Proofs.Shipped.Lexicon
import QueryGate.Proofs.Statement.Tokens

/-!
# The tokens of queries

The lexemes of the shipped grammar that queries are made of, directives and the separator behind
them left out (`queryLexemes`), take tokens in the sense of statements (`isToken_of_takesAs`), and
what they take does not change where a directive is put behind the query (`takesAs_append`).
-/

namespace QueryGate.Shipped

open Ebnf Regex Text Statement

/-- The rules of queries. -/
def queryNames : List String :=
  (rules.map (·.1)).filter fun n => n != "start" && n != "format_clause"

/-- The lexemes of queries. -/
def queryLexemes : List Lexeme :=
  Expr.lexemesOf ((rules.filter fun e => queryNames.contains e.1).map (·.2))

theorem confined_of_mem_rules {e : String × Expr} (he : e ∈ rules) (hn : e.1 ∈ queryNames) :
    Confined queryNames queryLexemes [e.2] := by
  have hall : ((rules.filter fun e => queryNames.contains e.1).all fun e =>
      e.2.references.all fun n => queryNames.contains n) = true := by decide +kernel
  have hmem : e ∈ rules.filter fun e => queryNames.contains e.1 :=
    List.mem_filter.mpr ⟨he, List.contains_iff_mem.mpr hn⟩
  intro e' he'
  rw [List.mem_singleton.mp he']
  refine ⟨fun n hn => ?_, fun x hx => ?_⟩
  · have h := List.all_eq_true.mp (List.all_eq_true.mp hall e hmem) n hn
    exact List.contains_iff_mem.mp h
  · exact Expr.mem_lexemesOf_iff.mpr ⟨e.2, List.mem_map_of_mem hmem, hx⟩

/-! ## Characters -/

variable {c d : Char} {s t u tok rest : List Char} {value : String} {anyCase : Bool} {x : Lexeme}
  {r : Regex}

/-- A text without white space and semicolons, or in quotes. -/
def BareOrQuoted (s : List Char) : Prop :=
  (∀ c ∈ s, isWhite c = false ∧ c ≠ ';') ∨
    (∀ c ∈ s.head?, isQuoteMark c = true) ∧ ∀ c ∈ s.getLast?, isQuoteMark c = true

theorem mem_range_iff {a b : Char} :
    (CharClass.range a b).mem c = true ↔ a.toNat ≤ c.toNat ∧ c.toNat ≤ b.toNat := by
  simp only [CharClass.mem, Bool.and_eq_true, decide_eq_true_eq, Char.le_def,
    UInt32.le_iff_toNat_le]
  exact Iff.rfl

theorem mem_inner_iff : inner.mem c = true ↔ isIdentChar c = true := by
  change ((CharClass.range 'A' 'Z').mem c || ((CharClass.range 'a' 'z').mem c ||
    ((CharClass.range '0' '9').mem c || ((CharClass.range '_' '_').mem c || false)))) = true ↔ _
  simp only [Bool.or_eq_true, mem_range_iff, isIdentChar_iff, Bool.false_eq_true, or_false]
  change (65 ≤ c.toNat ∧ c.toNat ≤ 90) ∨ (97 ≤ c.toNat ∧ c.toNat ≤ 122) ∨
    (48 ≤ c.toNat ∧ c.toNat ≤ 57) ∨ 95 ≤ c.toNat ∧ c.toNat ≤ 95 ↔ _
  omega

theorem mem_inner_of_mem_front (h : front.mem c = true) : inner.mem c = true := by
  change ((CharClass.range 'A' 'Z').mem c || ((CharClass.range 'a' 'z').mem c ||
    ((CharClass.range '_' '_').mem c || false))) = true at h
  rw [mem_inner_iff, isIdentChar_iff]
  simp only [Bool.or_eq_true, mem_range_iff, Bool.false_eq_true, or_false] at h
  change (65 ≤ c.toNat ∧ c.toNat ≤ 90) ∨ (97 ≤ c.toNat ∧ c.toNat ≤ 122) ∨
    95 ≤ c.toNat ∧ c.toNat ≤ 95 at h
  omega

theorem mem_digit_iff : digit.mem c = true ↔ 48 ≤ c.toNat ∧ c.toNat ≤ 57 :=
  mem_range_iff

theorem bare_of_isIdentChar (h : isIdentChar c = true) : isWhite c = false ∧ c ≠ ';' := by
  refine ⟨not_isWhite_of_isIdentChar h, ?_⟩
  rintro rfl
  exact absurd h (by decide)

/-- The characters of numbers. -/
theorem mem_alphabet_numeral_cases {cls : CharClass} (hcls : cls ∈ numeral.alphabet)
    (h : cls.mem c = true) :
    digit.mem c = true ∨ c = '.' ∨ (c = 'e' ∨ c = 'E') ∨ c = '+' ∨ c = '-' := by
  change cls ∈ [digit, .single '.', digit, .union (.single 'e') (.union (.single 'E') .empty),
    .union (.single '+') (.union (.single '-') .empty), digit] at hcls
  simp only [List.mem_cons, List.not_mem_nil, or_false] at hcls
  rcases hcls with rfl | rfl | rfl | rfl | rfl | rfl
  · exact Or.inl h
  · exact Or.inr (Or.inl (by simpa using h))
  · exact Or.inl h
  · exact Or.inr (Or.inr (Or.inl (by simpa [CharClass.mem] using h)))
  · exact Or.inr (Or.inr (Or.inr (by simpa [CharClass.mem] using h)))
  · exact Or.inl h

theorem cases_of_mem_alphabet_numeral {cls : CharClass} (hcls : cls ∈ numeral.alphabet)
    (h : cls.mem c = true) : isIdentChar c = true ∨ c = '.' ∨ c = '+' ∨ c = '-' := by
  rcases mem_alphabet_numeral_cases hcls h with h | rfl | (rfl | rfl) | h
  · exact Or.inl (isIdentChar_iff.mpr (Or.inl (mem_digit_iff.mp h)))
  · exact Or.inr (Or.inl rfl)
  · exact Or.inl (by decide)
  · exact Or.inl (by decide)
  · exact Or.inr (Or.inr h)

/-- Numbers have neither white space nor semicolons in them. -/
theorem bare_of_mem_alphabet_numeral {cls : CharClass} (hcls : cls ∈ numeral.alphabet)
    (h : cls.mem c = true) : isWhite c = false ∧ c ≠ ';' := by
  rcases cases_of_mem_alphabet_numeral hcls h with hident | rfl | rfl | rfl
  · exact bare_of_isIdentChar hident
  all_goals decide

/-! ## Languages -/

theorem isIdentChar_of_lang_bare (h : Lang bare s) : ∀ c ∈ s, isIdentChar c = true := by
  intro c hc
  obtain ⟨cls, hcls, hmem⟩ := h.exists_mem_alphabet c hc
  change cls ∈ [front, inner] at hcls
  simp only [List.mem_cons, List.not_mem_nil, or_false] at hcls
  rcases hcls with rfl | rfl
  · exact mem_inner_iff.mp (mem_inner_of_mem_front hmem)
  · exact mem_inner_iff.mp hmem

/-- What begins and ends with one and the same quote. -/
theorem bareOrQuoted_of_lang_quotes {mark : Char} (hmark : isQuoteMark mark = true)
    (hends : (Regex.seq (.chars (.single mark)) r).endings = [.single mark])
    (h : Lang (.seq (.chars (.single mark)) r) s) : BareOrQuoted s ∧ s.getLast? = some mark := by
  have hlast : ∀ c ∈ s.getLast?, c = mark := by
    intro c hc
    obtain ⟨cls, hcls, hmem⟩ := h.exists_mem_endings c hc
    rw [hends, List.mem_singleton] at hcls
    rwa [hcls, CharClass.mem_single] at hmem
  obtain ⟨c, t, rfl, hc, -⟩ := h.exists_cons
  rw [CharClass.mem_single] at hc
  obtain ⟨d, hd⟩ := Option.isSome_iff_exists.mp (List.getLast?_isSome.mpr (List.cons_ne_nil c t))
  refine ⟨Or.inr ⟨?_, fun d hd => hlast d hd ▸ hmark⟩, by rw [hd, hlast d hd]⟩
  simpa [hc] using hmark

theorem bareOrQuoted_of_lang_named {e : String × Regex} (he : e ∈ named) (h : Lang e.2 s) :
    BareOrQuoted s := by
  have hnumber : (∀ c ∈ s, ∃ cls ∈ numeral.alphabet, cls.mem c = true) → BareOrQuoted s :=
    fun hall => Or.inl fun c hc => by
      obtain ⟨cls, hcls, hmem⟩ := hall c hc
      exact bare_of_mem_alphabet_numeral hcls hmem
  simp only [named, List.mem_cons, List.not_mem_nil, or_false] at he
  rcases he with rfl | rfl | rfl | rfl
  · cases h with
    | altLeft h => exact Or.inl fun c hc => bare_of_isIdentChar (isIdentChar_of_lang_bare h c hc)
    | altRight h => exact (bareOrQuoted_of_lang_quotes (by decide) rfl h).1
  · exact (bareOrQuoted_of_lang_quotes (by decide) rfl h).1
  · exact hnumber h.exists_mem_alphabet
  · refine hnumber fun c hc => ?_
    obtain ⟨cls, hcls, hmem⟩ := h.exists_mem_alphabet c hc
    exact ⟨cls, by rw [List.mem_singleton.mp hcls]; exact List.mem_cons_self .., hmem⟩

/-! ## Quoted texts -/

/-- Whether a quoted text can be told from directives, however it is spelled : there are no white
space and no quote marks in it, letters stay letters, only words have letters, and no keyword stands
at its end. -/
def isHarmless (value : String) (anyCase : Bool) : Bool :=
  value.toList.all (fun d => (spellings anyCase d).all fun c =>
      !isWhite c && c != ';' && !isQuoteMark c && (!c.isAlpha || c.toLower == d.toLower)) &&
    (isWord value.toList || value.toList.all fun d => (spellings anyCase d).all (!·.isAlpha)) &&
    !(lower formatKeyword).isSuffixOf (lower value.toList)

/-- The lexemes of queries are harmless texts and the terminals with a name. -/
theorem cases_of_mem_queryLexemes (hx : x ∈ queryLexemes) :
    (∃ value anyCase, x = .literal value anyCase ∧ isHarmless value anyCase = true) ∨
      ∃ e ∈ named, x = .named e.1 := by
  have hall : (queryLexemes.all fun x => match x with
      | .literal value anyCase => isHarmless value anyCase
      | .named name => (named.map (·.1)).contains name
      | _ => false) = true := by decide +kernel
  have h := List.all_eq_true.mp hall x hx
  cases x with
  | literal value anyCase => exact Or.inl ⟨value, anyCase, rfl, h⟩
  | named name =>
    obtain ⟨e, he, rfl⟩ := List.mem_map.mp (List.contains_iff_mem.mp h)
    exact Or.inr ⟨e, he, rfl⟩
  | _ => cases h

/-- Letters spell their like. -/
theorem lower_eq_of_spells (hletter : ∀ d ∈ s, ∀ c ∈ spellings anyCase d, c.isAlpha = true →
    c.toLower = d.toLower) (h : Spells anyCase s tok) (htok : ∀ c ∈ tok, c.isAlpha = true) :
    lower tok = lower s := by
  induction h with
  | nil => rfl
  | @cons d c s tok hhead _ ih =>
    rw [lower, lower, List.map_cons, List.map_cons,
      hletter d (List.mem_cons_self ..) c (mem_literalClass_iff.mp hhead)
        (htok c (List.mem_cons_self ..))]
    exact congrArg (_ :: ·) (ih (fun d hd => hletter d (List.mem_cons_of_mem _ hd))
      fun c hc => htok c (List.mem_cons_of_mem _ hc))

theorem of_isHarmless (h : isHarmless value anyCase = true) :
    (∀ d ∈ value.toList, ∀ c ∈ spellings anyCase d, ((isWhite c = false ∧ c ≠ ';') ∧
        isQuoteMark c = false) ∧ (c.isAlpha = true → c.toLower = d.toLower)) ∧
      (isWord value.toList = true ∨
        ∀ d ∈ value.toList, ∀ c ∈ spellings anyCase d, c.isAlpha = false) ∧
      ¬lower formatKeyword <:+ lower value.toList := by
  simp only [isHarmless, Bool.and_eq_true, Bool.or_eq_true, List.all_eq_true, bne_iff_ne, ne_eq,
    Bool.not_eq_true', beq_iff_eq] at h
  obtain ⟨⟨hchars, hword⟩, hkeyword⟩ := h
  refine ⟨fun d hd c hc => ?_, hword, fun hsuffix => ?_⟩
  · obtain ⟨hbare, hletter⟩ := hchars d hd c hc
    refine ⟨hbare, fun halpha => hletter.resolve_left ?_⟩
    rw [halpha]
    exact Bool.noConfusion
  · rw [List.isSuffixOf_iff_suffix.mpr hsuffix] at hkeyword
    cases hkeyword

/-! ## Expressions of the lexemes -/

/-- What lexemes of queries read has no white space in it, or stands in quotes. -/
theorem exists_reads_of_mem_queryLexemes (hx : x ∈ queryLexemes) :
    ∃ r, x.Reads terminals (atStart r) ∧ r.isPlain = true ∧ ∀ s, Lang r s → BareOrQuoted s := by
  have hmem : x ∈ Expr.lexemesOf (rules.map (·.2)) := by
    obtain ⟨e, he, hx⟩ := Expr.mem_lexemesOf_iff.mp hx
    obtain ⟨rule, hrule, rfl⟩ := List.mem_map.mp he
    exact Expr.mem_lexemesOf_iff.mpr ⟨rule.2, List.mem_map_of_mem (List.mem_filter.mp hrule).1, hx⟩
  rcases cases_of_mem_queryLexemes hx with ⟨value, anyCase, rfl, hvalue⟩ | ⟨e, he, rfl⟩
  · obtain ⟨_, p, rfl, hp⟩ := exists_reads hmem
    obtain rfl := eq_literalRegex_of_anchored hp
    refine ⟨_, ⟨_, rfl, hp⟩, isPlain_sequence_chars _, fun s hs => Or.inl fun c hc => ?_⟩
    obtain ⟨cls, hcls, hmem⟩ := hs.exists_mem_alphabet c hc
    rw [alphabet_sequence_chars] at hcls
    obtain ⟨d, hd, rfl⟩ := List.mem_map.mp hcls
    exact ((of_isHarmless hvalue).1 d hd c (mem_literalClass_iff.mp hmem)).1.1
  · have hplain : named.all (·.2.isPlain) = true := by decide +kernel
    exact ⟨e.2, reads_named e he, List.all_eq_true.mp hplain e he,
      fun s => bareOrQuoted_of_lang_named he⟩

/-! ## Tokens -/

variable {g : Grammar} {root : String} {next : Option Char} {tail : List Char}

theorem of_isQuoteMark (h : isQuoteMark c = true) :
    (isWhite c = false ∧ c ≠ ';') ∧ isIdentChar c = false := by
  refine ⟨⟨Bool.eq_false_iff.mpr fun hwhite => ?_, ?_⟩, Bool.eq_false_iff.mpr fun hident => ?_⟩
  · rw [not_isQuoteMark_of_isWhite hwhite] at h
    cases h
  · rintro rfl
    exact absurd h (by decide)
  · rw [not_isQuoteMark_of_isIdentChar hident] at h
    cases h

theorem BareOrQuoted.isToken (h : BareOrQuoted tok) (hne : tok ≠ [])
    (hword : ∀ c ∈ tok.getLast?, c.isAlpha = true → ∀ d ∈ next, isIdentChar d = false)
    (hkeyword : ¬EndsInKeyword tok) : IsToken tok next := by
  refine ⟨hne, fun c hc => ?_, fun c hc => ?_, fun c hc hwhite d hd => ?_, hword, hkeyword⟩
  · rcases h with h | ⟨hhead, -⟩
    · exact (h c (List.mem_of_mem_head? hc)).1
    · exact (of_isQuoteMark (hhead c hc)).1.1
  · rcases h with h | ⟨-, hlast⟩
    · exact (h c (List.mem_of_getLast? hc)).symm
    · exact (of_isQuoteMark (hlast c hc)).1.symm
  · rcases h with h | ⟨-, hlast⟩
    · rw [(h c hc).1] at hwhite
      cases hwhite
    · exact (of_isQuoteMark (hlast d hd)).2

/-- A token that ends in no letter. -/
theorem BareOrQuoted.isToken_of_not_isAlpha (h : BareOrQuoted tok) (hne : tok ≠ [])
    (hlast : ∀ c ∈ tok.getLast?, c.isAlpha = false) : IsToken tok next := by
  refine h.isToken hne (fun c hc halpha => ?_) ?_
  · rw [hlast c hc] at halpha
    cases halpha
  · rintro ⟨u, k, rfl, hk, -⟩
    have hkne := ne_nil_of_sameLetters_formatKeyword hk
    obtain ⟨c, hc⟩ := Option.isSome_iff_exists.mp (List.getLast?_isSome.mpr hkne)
    have halpha := isAlpha_of_sameLetters_formatKeyword hk c (List.mem_of_getLast? hc)
    rw [hlast c (by rwa [List.getLast?_append_of_ne_nil _ hkne])] at halpha
    cases halpha

theorem isWordChar_of_isIdentChar (h : isIdentChar c = true) : isWordChar c = true := by
  rw [isWordChar, isAlphanumeric, Bool.or_eq_true, Bool.or_eq_true]
  rcases Bool.or_eq_true_iff.mp h with h | h
  · rcases Bool.or_eq_true_iff.mp h with halpha | hdigit
    · exact Or.inl (Or.inl (isAlphabetic_of_isAlpha halpha))
    · have hlt : c.val < 128 := UInt32.lt_iff_toNat_lt.mpr
        (Nat.lt_of_le_of_lt (isDigit_iff.mp hdigit).2 (by decide))
      exact Or.inl (Or.inr (by rwa [isNumeric, if_pos hlt]))
  · exact Or.inr h

/-- A quoted text is a token. -/
theorem isToken_of_spells (hvalue : isHarmless value anyCase = true) (hne : tok ≠ [])
    (h : Spells anyCase value.toList tok)
    (hword : (Lexeme.literal value anyCase).isKeyword = true → rest.head?.any isWordChar = false) :
    IsToken tok rest.head? := by
  obtain ⟨hchars, hletters, hkeyword⟩ := of_isHarmless hvalue
  have hbare : BareOrQuoted tok := Or.inl fun c hc => by
    obtain ⟨d, hd, hmem⟩ := exists_mem_of_spells h hc
    exact (hchars d hd c hmem).1.1
  refine hbare.isToken hne (fun c hc halpha d hd => ?_) ?_
  · rcases hletters with hisWord | hnone
    · have hkey : (Lexeme.literal value anyCase).isKeyword = true := by
        simp [Lexeme.isKeyword, Lexeme.keyword?, hisWord]
      have hnot := hword hkey
      rw [Option.mem_def.mp hd, Option.any_some] at hnot
      exact Bool.eq_false_iff.mpr fun hident => by
        rw [isWordChar_of_isIdentChar hident] at hnot
        cases hnot
    · obtain ⟨d, hd, hmem⟩ := exists_mem_of_spells h (List.mem_of_getLast? hc)
      rw [hnone d hd c hmem] at halpha
      cases halpha
  · -- the keyword would be spelled by the end of the quoted text
    rintro ⟨u, k, rfl, hk, -⟩
    have hend := List.forall₂_drop_append _ _ _ h
    have hlower := lower_eq_of_spells
      (fun d hd c hc => (hchars d (List.mem_of_mem_drop hd) c hc).2) hend
      (isAlpha_of_sameLetters_formatKeyword hk)
    refine hkeyword ⟨lower (value.toList.take u.length), ?_⟩
    rw [← beq_iff_eq.mp hk, hlower, lower, lower, lower, ← List.map_append, List.take_append_drop]

/-- An identifier without quotes ends where no character of identifiers follows. -/
theorem forall_mem_head?_of_matchLength?_bare (h : Lang bare tok)
    (hmatch : (Regex.alt bare quoted).matchLength? none (tok ++ rest) = some tok.length) :
    ∀ c ∈ rest.head?, isIdentChar c = false := by
  have htail := isIdentChar_of_lang_bare h
  obtain ⟨c, t, rfl, hc, -⟩ := h.exists_cons
  have hback : backquote.mem c = false := by
    have hident := htail c (List.mem_cons_self ..)
    refine Bool.eq_false_iff.mpr fun hmem => ?_
    rw [(CharClass.mem_single _ _).mp hmem] at hident
    exact absurd hident (by decide)
  have hinner : ∀ d ∈ t, inner.mem d = true := fun d hd =>
    mem_inner_iff.mpr (htail d (List.mem_cons_of_mem _ hd))
  rw [List.cons_append, matchLength?, bare, quoted, matchFrom_alt_chars hc hback, matchFrom_more,
    List.takeWhile_append_of_pos (p := inner.mem) hinner, List.length_append,
    List.length_cons] at hmatch
  have hnil : rest.takeWhile inner.mem = [] := by
    have hlen := Option.some.inj hmatch
    exact List.length_eq_zero_iff.mp (by omega)
  intro d hd
  refine Bool.eq_false_iff.mpr fun hident => ?_
  cases rest with
  | nil => cases hd
  | cons e rest =>
    obtain rfl := Option.some.inj hd
    rw [List.takeWhile_cons_of_pos (mem_inner_iff.mpr hident)] at hnil
    cases hnil

/-- An identifier is a token, as the keyword of directives is reserved. -/
theorem isToken_of_identifier (hne : tok ≠ []) (h : Lang (.alt bare quoted) tok)
    (hmatch : (Regex.alt bare quoted).matchLength? none (tok ++ rest) = some tok.length)
    (hreserved : upper tok ≠ formatKeyword) : IsToken tok rest.head? := by
  have hbare : BareOrQuoted tok :=
    bareOrQuoted_of_lang_named (e := ("IDENTIFIER", .alt bare quoted)) (by simp [named]) h
  cases h with
  | altLeft h =>
    refine hbare.isToken hne (fun _ _ _ => forall_mem_head?_of_matchLength?_bare h hmatch) ?_
    rintro ⟨u, k, rfl, hk, hu⟩
    have hident := isIdentChar_of_lang_bare h
    rcases List.eq_nil_or_concat' u with rfl | ⟨u, c, rfl⟩
    · exact hreserved ((upper_eq_of_sameLetters hk).trans (by decide))
    · have hc := hu c (by simp)
      rw [hident c (by simp)] at hc
      cases hc
  | altRight h =>
    refine hbare.isToken_of_not_isAlpha hne fun c hc => ?_
    rw [(bareOrQuoted_of_lang_quotes (by decide) rfl h).2] at hc
    obtain rfl := Option.some.inj hc
    decide

/-- A number or a string is a token. -/
theorem isToken_of_mem_named {e : String × Regex} (he : e ∈ named) (hname : e.1 ≠ "IDENTIFIER")
    (hne : tok ≠ []) (h : Lang e.2 tok) : IsToken tok next := by
  have hends : ∀ cls ∈ e.2.endings, cls = digit ∨ cls = quote := by
    have hall : (named.all fun e => e.1 == "IDENTIFIER" ||
        e.2.endings.all fun cls => cls == digit || cls == quote) = true := by decide +kernel
    intro cls hcls
    have h := List.all_eq_true.mp hall e he
    rw [beq_false_of_ne hname, Bool.false_or] at h
    simpa using List.all_eq_true.mp h cls hcls
  refine (bareOrQuoted_of_lang_named he h).isToken_of_not_isAlpha hne fun c hc => ?_
  obtain ⟨cls, hcls, hmem⟩ := h.exists_mem_endings c hc
  refine Bool.eq_false_iff.mpr fun halpha => ?_
  have hbounds : (65 ≤ c.toNat ∧ c.toNat ≤ 90) ∨ (97 ≤ c.toNat ∧ c.toNat ≤ 122) := by
    rw [← isUpper_iff, ← isLower_iff]
    exact Bool.or_eq_true_iff.mp halpha
  rcases hends cls hcls with rfl | rfl
  · have hdigit := mem_digit_iff.mp hmem
    omega
  · rw [(CharClass.mem_single _ _).mp hmem] at hbounds
    exact absurd hbounds (by decide)

/-- What the lexemes of queries take are tokens of statements. -/
theorem isToken_of_takesAs (hg : g.IsFor collected root) (hreserved : formatKeyword ∈ g.reserved)
    (hx : x ∈ queryLexemes) (h : g.TakesAs x tok rest) : IsToken tok rest.head? := by
  rcases cases_of_mem_queryLexemes hx with ⟨value, anyCase, rfl, hvalue⟩ | ⟨e, he, rfl⟩
  · obtain ⟨-, hne, hspells, hword⟩ := hg.takesAs_literal_iff.mp h
    exact isToken_of_spells hvalue hne hspells hword
  · obtain ⟨-, hne, hmatch, -, hfree⟩ := (hg.takesAs_iff (reads_named e he)).mp h
    rw [atStart, matchLength?_anchored] at hmatch
    have hlang := lang_of_matchLength? hmatch
    rw [List.take_left] at hlang
    by_cases hname : e.1 = "IDENTIFIER"
    · obtain rfl : e = ("IDENTIFIER", .alt bare quoted) := by
        simp only [named, List.mem_cons, List.not_mem_nil, or_false] at he
        rcases he with rfl | rfl | rfl | rfl <;> simp_all
      refine isToken_of_identifier hne hlang hmatch fun hupper => ?_
      exact hfree rfl (hupper ▸ hreserved)
    · exact isToken_of_mem_named he hname hne hlang

/-- A directive behind a query does not change how its tokens are taken. -/
theorem takesAs_append (hg : g.IsFor collected root) (hx : x ∈ queryLexemes)
    (htail : ∀ c ∈ tail, isIdentChar c = true ∨ c = ' ') (h : g.TakesAs x tok (s ++ rest)) :
    g.TakesAs x tok (s ++ ' ' :: tail) := by
  obtain ⟨r, hr, hplain, hquotes⟩ := exists_reads_of_mem_queryLexemes hx
  have hspace : isWordChar ' ' = false := by decide
  refine hg.takesAs_congr hr hplain (fun n hn => Nat.le_of_not_lt fun hlt => ?_) hspace h
  have hlang := lang_of_matchLength? hn
  obtain ⟨k, rfl⟩ : ∃ k, n = (tok ++ s).length + (k + 1) :=
    ⟨n - (tok ++ s).length - 1, by omega⟩
  rw [List.take_length_add_append, List.take_succ_cons] at hlang
  rcases hquotes _ hlang with hbare | ⟨-, hlast⟩
  · exact absurd (hbare ' ' (by simp)).1 (by decide)
  · obtain ⟨c, hc⟩ := Option.isSome_iff_exists.mp
      (List.getLast?_isSome.mpr (List.cons_ne_nil ' ' (tail.take k)))
    have hmark := hlast c (by rwa [List.getLast?_append_of_ne_nil _ (List.cons_ne_nil _ _)])
    rcases List.mem_cons.mp (List.mem_of_getLast? hc) with rfl | hmem
    · exact absurd hmark (by decide)
    · rcases htail c (List.mem_of_mem_take hmem) with hident | rfl
      · rw [not_isQuoteMark_of_isIdentChar hident] at hmark
        cases hmark
      · exact absurd hmark (by decide)

end QueryGate.Shipped
