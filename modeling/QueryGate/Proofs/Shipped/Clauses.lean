import QueryGate.Eval.Expectation
import QueryGate.Proofs.Decimal.Natural
import QueryGate.Proofs.Shipped.Checked
import QueryGate.Proofs.Shipped.Quotes
import QueryGate.Proofs.Shipped.Readings

/-!
# Clauses of queries

What is looked for as the limit and the groups of a query, where the grammar reads a query with one
outermost SELECT (`SingleSelect`). The first number of the limit clause is found, if no LIMIT is
read in front of the clause or stands in quotes there, and the list of the group clause, if it has
no closing bracket in it (`clauses_of_singleSelect`). The first number is the count in two of the
three forms of the clause; in the form with a comma it is the offset (`exists_offset_found`).
-/

namespace QueryGate.Shipped

open Ebnf Regex Text Statement Eval

variable {g : Grammar} {text tok rest gap : List Char} {x : Lexeme} {value : String}
  {anyCase : Bool} {c : Char} {i j k l m stop : Nat} {takes : Lexeme → Nat → Nat → Prop}

/-! ## One outermost SELECT -/

/-- The keyword of limits. -/
def limitLexeme : Lexeme := .literal "LIMIT" true

/-- The keyword of offsets. -/
def offsetLexeme : Lexeme := .literal "OFFSET" true

/-- The sign between an offset and a count. -/
def commaLexeme : Lexeme := .literal "," false

/-- The keyword of groups. -/
def groupLexeme : Lexeme := .literal "GROUP" true

/-- The keyword behind that of groups. -/
def byLexeme : Lexeme := .literal "BY" true

/-- A number in a limit. -/
def intLexeme : Lexeme := .named "INT"

/-- A number. -/
def numberLexeme : Lexeme := .named "NUMBER"

/-- Lexemes of queries of numbers. -/
def clauseLexemes : List Lexeme := [selectLexeme, numberLexeme, groupLexeme, byLexeme, limitLexeme,
  intLexeme, offsetLexeme, commaLexeme, formatLexeme, jsonLexeme, separatorLexeme]

theorem mem_lexemes_of_mem_clauseLexemes (hx : x ∈ clauseLexemes) : x ∈ lexemes := by
  have hall : clauseLexemes.all lexemes.contains = true := by decide +kernel
  exact List.contains_iff_mem.mp (List.all_eq_true.mp hall x hx)

/-- What stands in front of the groups. -/
def beforeGroups : List Expr := [opt (.name "with_clause"), word "SELECT", opt (word "DISTINCT"),
  .name "select_list", opt (.name "from_clause"), opt (.name "where_clause")]

/-- What stands between the groups and the limit. -/
def behindGroups : List Expr := [opt (.name "having_clause"), opt (.name "order_by_clause")]

/-- What stands in front of the limit. -/
def beforeLimit : List Expr :=
  beforeGroups ++ opt (.name "group_by_clause") :: behindGroups

/-- What stands behind a query. -/
def behindQuery : List Expr := [.name "format_clause", opt (sign ";")]

/-- All of these stand in rules of the grammar. -/
theorem confined_parts : Confined ruleNames lexemes beforeLimit ∧
    Confined ruleNames lexemes behindQuery ∧ Confined ruleNames lexemes [.name "expr_list"] := by
  decide +kernel

theorem confined_beforeGroups : Confined ruleNames lexemes beforeGroups :=
  fun e he => confined_parts.1 e (List.mem_append_left _ he)

/-- A text is read as a query with one outermost SELECT : where its groups begin, where they end,
where its limit begins, where the directive begins, and where the text stops. -/
structure SingleSelect (takes : Lexeme → Nat → Nat → Prop)
    (groups order limit directive stop : Nat) : Prop where
  selects : Matches collected.rules takes beforeGroups 0 groups
  groups : Matches collected.rules takes [opt (.name "group_by_clause")] groups order
  orders : Matches collected.rules takes behindGroups order limit
  limits : Matches collected.rules takes [opt (.name "limit_clause")] limit directive
  ends : Matches collected.rules takes behindQuery directive stop

/-- These are the texts that begin with a statement which selects and end behind it. -/
theorem exists_singleSelect_iff :
    (∃ groups order limit directive, SingleSelect takes groups order limit directive stop) ↔
      Matches collected.rules takes
        ([opt (.name "with_clause"), .name "select_statement"] ++ behindQuery) 0 stop := by
  have hname : isTerminalName "select_statement" = false := by decide
  have hstatement : Matches collected.rules takes
      ([opt (.name "with_clause")] ++ .name "select_statement" :: behindQuery) 0 stop ↔
      Matches collected.rules takes (beforeGroups ++ ([opt (.name "group_by_clause")] ++
        (behindGroups ++ ([opt (.name "limit_clause")] ++ behindQuery)))) 0 stop := by
    rw [matches_append_iff]
    simp only [matches_name_seq_cons_iff nodup_rules hname select_mem_rules]
    rw [← matches_append_iff]
    rfl
  refine Iff.trans ?_ hstatement.symm
  simp only [matches_append_iff]
  constructor
  · rintro ⟨groups, order, limit, directive, h⟩
    exact ⟨groups, h.selects, order, h.groups, limit, h.orders, directive, h.limits, h.ends⟩
  · rintro ⟨groups, h₁, order, h₂, limit, h₃, directive, h₄, h₅⟩
    exact ⟨groups, order, limit, directive, h₁, h₂, h₃, h₄, h₅⟩

/-- They are derived from the start symbol. -/
theorem SingleSelect.matches_start {groups order limit directive : Nat}
    (h : SingleSelect takes groups order limit directive stop) :
    Matches collected.rules takes [.name "start"] 0 stop := by
  have hnames : isTerminalName "start" = false ∧ isTerminalName "query" = false := by decide
  obtain ⟨k, hselect, hends⟩ :=
    matches_append_iff.mp (exists_singleSelect_iff.mp ⟨_, _, _, _, h⟩)
  refine (matches_name_seq_cons_iff nodup_rules hnames.1 start_mem_rules).mpr ?_
  refine (matches_name_seq_cons_iff nodup_rules hnames.2 query_mem_rules).mpr ?_
  have hnone : Matches collected.rules takes
      (many [word "UNION", word "ALL", .name "select_statement"] :: behindQuery) k stop :=
    .rep (n := 0) (Nat.le_refl 0) (by simp) hends
  exact hselect.append hnone

theorem IsShipped.validate_of_singleSelect (hg : IsShipped g) {groups order limit directive : Nat}
    (h : SingleSelect (g.ReadsAs text) groups order limit directive stop)
    (hstop : stop ≤ text.length) (hend : ∀ c ∈ text.drop stop, blank.mem c = true) :
    validate recognize g text = .ok () :=
  validate_recognize_iff.mpr (hg.accepted_iff.mpr ⟨stop, hstop, hend, h.matches_start⟩)

/-! ## The directive -/

/-- The directive neither is nor quotes a LIMIT. -/
theorem IsShipped.readsPast_of_matches (hg : IsShipped g)
    (h : Matches collected.rules (g.ReadsAs text) behindQuery i j) :
    Matches collected.rules (ReadsPast g text ["LIMIT"]) behindQuery i j := by
  have hrules : ∀ e ∈ collected.rules, e.1 ∈ ["format_clause"] →
      Confined ["format_clause"] [formatLexeme, jsonLexeme, separatorLexeme] [e.2] := by
    decide +kernel
  have hlexemes : ∀ x ∈ [formatLexeme, jsonLexeme, separatorLexeme], ∃ value anyCase,
      x = .literal value anyCase ∧ (value.toList.all fun d => (spellings anyCase d).all
        (!isQuoteMark ·)) = true ∧ x ≠ limitLexeme := by
    simp only [List.forall_mem_cons]
    refine ⟨⟨_, _, rfl, ?_, ?_⟩, ⟨_, _, rfl, ?_, ?_⟩, ⟨_, _, rfl, ?_, ?_⟩, by simp⟩
    all_goals decide +kernel
  refine (h.restrict hrules (by decide +kernel)).imp fun x k m ⟨hx, hreads⟩ => ⟨hreads, ?_⟩
  obtain ⟨value, anyCase, rfl, hmarkless, hne⟩ := hlexemes x hx
  obtain ⟨gap, tok, hpiece, -, hgap, htok⟩ := hg.exists_extract hreads
  have hnone : (gap ++ tok).any isQuoteMark = false := by
    rw [List.any_eq_false, List.forall_mem_append]
    refine ⟨fun c hc => ?_, fun c hc => ?_⟩
    · rw [not_isQuoteMark_of_isWhite (isWhite_of_mem_blank (hgap c hc))]
      exact Bool.false_ne_true
    · obtain ⟨d, hd, hmem⟩ := exists_mem_of_spells (hg.isFor.spells_of_takesAs htok) hc
      simpa using List.all_eq_true.mp (List.all_eq_true.mp hmarkless d hd) c hmem
  have hne' : (Lexeme.literal value anyCase != .literal "LIMIT" true) = true := bne_iff_ne.mpr hne
  rw [hpiece, spares, List.all_cons, List.all_nil, hnone, hne']
  rfl

/-! ## The words of clauses -/

/-- No word goes on across a place in a text. -/
def Parted (text : List Char) (i : Nat) : Prop :=
  ∀ c ∈ (text.take i).getLast?, ∀ d ∈ (text.drop i).head?,
    isWordMember c = false ∨ isWordMember d = false

instance : Decidable (Parted text i) :=
  decidable_of_iff (((text.take i).getLast?.all fun c => (text.drop i).head?.all fun d =>
      !isWordMember c || !isWordMember d) = true) <| by
    simp only [Option.all_eq_true, Bool.or_eq_true, Bool.not_eq_true']
    exact Iff.rfl

theorem isGap_of_blank (hne : gap ≠ []) (hgap : ∀ c ∈ gap, blank.mem c = true) : IsGap gap where
  ne_nil := hne
  white := fun c hc => isWhite_of_mem_blank (hgap c hc)
  ends := fun c hc => (of_mem_blank_word (hgap c (List.mem_of_mem_head? hc))).2.1

/-- A word that is read where no other word goes on is found there, and not in the blanks in front
of it. -/
theorem IsShipped.exists_key (hg : IsShipped g) {w : String} (hw : isLettered w = true)
    (h : g.ReadsAs text (.literal w true) i k) (hparted : Parted text i) :
    ∃ gap key, text.drop i = gap ++ (key ++ text.drop k) ∧ (∀ c ∈ gap, blank.mem c = true) ∧
      sameLetters key w.toList = true ∧
      ∀ c ∈ (text.take i ++ gap).getLast?, isWordMember c = false := by
  obtain ⟨gap, key, -, htext, hgap, hkey⟩ := hg.exists_extract h
  have hsame := sameLetters_of_isLettered hw (hg.isFor.spells_of_takesAs hkey)
  refine ⟨gap, key, htext, hgap, hsame, fun c hc => ?_⟩
  by_cases hnil : gap = []
  · obtain ⟨d, key, rfl⟩ := List.exists_cons_of_ne_nil hkey.ne_nil
    rw [hnil, List.append_nil] at hc
    rw [hnil] at htext
    refine (hparted c hc d (by rw [htext]; rfl)).resolve_right fun hd => ?_
    rw [isWordMember_of_isIdentChar (isIdentChar_of_isLettered hw
      (hg.isFor.spells_of_takesAs hkey) d (List.mem_cons_self ..))] at hd
    cases hd
  · rw [List.getLast?_append_of_ne_nil _ hnil] at hc
    exact (of_mem_blank_word (hgap c (List.mem_of_getLast? hc))).2.1

/-- Blanks stand between a keyword and a token that begins with a character of words. -/
theorem IsShipped.exists_gap (hg : IsShipped g)
    (hkeyword : (Lexeme.literal value anyCase).isKeyword = true)
    (h : g.ReadsAs text (.literal value anyCase) i k) (hx : g.ReadsAs text x k m)
    (hword : ∀ tok rest, g.TakesAs x tok rest → ∀ c ∈ tok.head?, isWordChar c = true) :
    ∃ gap tok, text.extract k m = gap ++ tok ∧ text.drop k = gap ++ (tok ++ text.drop m) ∧
      IsGap gap ∧ g.TakesAs x tok (text.drop m) := by
  obtain ⟨_, _, -, -, -, hkey⟩ := hg.exists_extract h
  obtain ⟨gap, tok, hpiece, htext, hgap, htok⟩ := hg.exists_extract hx
  refine ⟨gap, tok, hpiece, htext, isGap_of_blank ?_ hgap, htok⟩
  rintro rfl
  obtain ⟨c, tok, rfl⟩ := List.exists_cons_of_ne_nil htok.ne_nil
  have hnot := (hg.isFor.takesAs_literal_iff.mp hkey).2.2.2 hkeyword
  rw [htext] at hnot
  have hc : isWordChar c = false := hnot
  rw [hword _ _ htok c rfl] at hc
  cases hc

/-! ## The clauses -/

/-- The number that is read between two places of a text. -/
def numberAt (text : List Char) (k m : Nat) : Nat :=
  Decimal.digitsValue (trimStart (text.extract k m))

/-- A limit clause is read, with its first number and with its count. -/
inductive LimitRead (takes : Lexeme → Nat → Nat → Prop) (text : List Char) (i j : Nat) :
    Nat → Nat → Prop
  /-- The count, and an offset behind it if there is one. -/
  | counted {k m : Nat} (hkey : takes limitLexeme i k) (hcount : takes intLexeme k m)
      (hoffset : m = j ∨ ∃ l, takes offsetLexeme m l ∧ takes intLexeme l j) :
      LimitRead takes text i j (numberAt text k m) (numberAt text k m)
  /-- An offset, and the count behind a comma. -/
  | skipping {k m l : Nat} (hkey : takes limitLexeme i k) (hoffset : takes intLexeme k m)
      (hcomma : takes commaLexeme m l) (hcount : takes intLexeme l j) :
      LimitRead takes text i j (numberAt text k m) (numberAt text l j)

/-- These are the limit clauses of the grammar. -/
theorem exists_limitRead_iff : (∃ first count, LimitRead takes text i j first count) ↔
    Matches collected.rules takes [.name "limit_clause"] i j := by
  have hlimit : ("limit_clause", .alt [.seq [word "LIMIT", .name "INT",
      opt (.seq [word "OFFSET", .name "INT"])], .seq [word "LIMIT", .name "INT", sign ",",
      .name "INT"]]) ∈ collected.rules := List.mem_reverse.mpr (by simp [rules])
  have hname : isTerminalName "limit_clause" = false := by decide
  have hint : (Expr.name "INT").lexeme? = some intLexeme := by decide
  have hoffset : ∀ m, Matches collected.rules takes
      [opt (.seq [word "OFFSET", .name "INT"])] m j ↔
      m = j ∨ ∃ l, takes offsetLexeme m l ∧ takes intLexeme l j := fun m => by
    rw [opt, matches_optional_cons_iff, matches_nil_iff, matches_seq_cons_iff]
    simp only [List.cons_append, List.nil_append, matches_lexeme_cons_iff hint,
      matches_lexeme_cons_iff (x := offsetLexeme) (e := word "OFFSET") rfl, matches_nil_iff,
      exists_eq_right]
  rw [matches_name_cons_iff nodup_rules hname hlimit]
  simp only [matches_nil_iff, exists_eq_right, matches_alt_cons_iff, List.mem_cons,
    List.not_mem_nil, or_false, exists_eq_or_imp, exists_eq_left, matches_seq_cons_iff,
    List.append_nil, matches_lexeme_cons_iff (x := limitLexeme) (e := word "LIMIT") rfl,
    matches_lexeme_cons_iff hint, hoffset,
    matches_lexeme_cons_iff (x := commaLexeme) (e := sign ",") rfl]
  constructor
  · rintro ⟨_, _, h⟩
    cases h with
    | counted hkey hcount hoffset => exact Or.inl ⟨_, hkey, _, hcount, hoffset⟩
    | skipping hkey hoffset hcomma hcount =>
      exact Or.inr ⟨_, hkey, _, hoffset, _, hcomma, hcount⟩
  · rintro (⟨k, hkey, m, hcount, hrest⟩ | ⟨k, hkey, m, hskip, l, hcomma, hcount⟩)
    · exact ⟨_, _, .counted hkey hcount hrest⟩
    · exact ⟨_, _, .skipping hkey hskip hcomma hcount⟩

/-- A group clause is read, with the place where its list begins. -/
def GroupsRead (takes : Lexeme → Nat → Nat → Prop) (i l j : Nat) : Prop :=
  ∃ k, takes groupLexeme i k ∧ takes byLexeme k l ∧
    Matches collected.rules takes [.name "expr_list"] l j

/-- These are the group clauses of the grammar. -/
theorem exists_groupsRead_iff : (∃ l, GroupsRead takes i l j) ↔
    Matches collected.rules takes [.name "group_by_clause"] i j := by
  have hgroup : ("group_by_clause", .seq [word "GROUP", word "BY", .name "expr_list"]) ∈
      collected.rules := List.mem_reverse.mpr (by simp [rules])
  rw [matches_name_seq_cons_iff nodup_rules (by decide) hgroup]
  simp only [GroupsRead, List.cons_append, List.nil_append,
    matches_lexeme_cons_iff (x := groupLexeme) (e := word "GROUP") rfl,
    matches_lexeme_cons_iff (x := byLexeme) (e := word "BY") rfl]
  constructor
  · rintro ⟨l, k, hgroup, hby, hlist⟩
    exact ⟨k, hgroup, l, hby, hlist⟩
  · rintro ⟨k, hgroup, l, hby, hlist⟩
    exact ⟨l, k, hgroup, hby, hlist⟩

/-! ## Limits -/

theorem isDigit_of_takesAs (hg : IsShipped g) (h : g.TakesAs intLexeme tok rest) :
    ∀ c ∈ tok, c.isDigit = true := by
  have hint : ("INT", Regex.plus true (.chars digit)) ∈ named := by simp [named]
  obtain ⟨-, -, hmatch, -, -⟩ := (hg.isFor.takesAs_iff (reads_named _ hint)).mp h
  rw [atStart, matchLength?_anchored] at hmatch
  have hlang := lang_of_matchLength? hmatch
  rw [List.take_left] at hlang
  intro c hc
  obtain ⟨cls, hcls, hmem⟩ := hlang.exists_mem_alphabet c hc
  obtain rfl : cls = digit := List.mem_singleton.mp hcls
  exact isDigit_iff.mpr (mem_digit_iff.mp hmem)

/-- Whether a quoted text begins with no digit. -/
def beginsWithoutDigit (value : String) (anyCase : Bool) : Bool :=
  value.toList.head?.all fun d => (spellings anyCase d).all fun c =>
    decide (c.toNat < 128) && !c.isDigit

/-- A number ends where such a text is read. -/
theorem IsShipped.not_isDecimalDigit (hg : IsShipped g)
    (hvalue : beginsWithoutDigit value anyCase = true)
    (h : g.ReadsAs text (.literal value anyCase) k m) :
    ∀ c ∈ (text.drop k).head?, isDecimalDigit c = false := by
  obtain ⟨gap, tok, -, htext, hgap, htok⟩ := hg.exists_extract h
  intro c hc
  rw [htext] at hc
  cases gap with
  | cons d gap =>
    obtain rfl := Option.some.inj hc
    exact (of_mem_blank_word (hgap d (List.mem_cons_self ..))).2.2
  | nil =>
    have hspells := hg.isFor.spells_of_takesAs htok
    rw [beginsWithoutDigit] at hvalue
    generalize value.toList = ds at hspells hvalue
    cases hspells with
    | nil => exact absurd rfl htok.ne_nil
    | @cons d e ds tok hhead _ =>
      obtain rfl : e = c := Option.some.inj hc
      have hspelled := List.all_eq_true.mp hvalue e (mem_literalClass_iff.mp hhead)
      simp only [Bool.and_eq_true, decide_eq_true_eq, Bool.not_eq_true'] at hspelled
      have hlt : e.val < 128 := UInt32.lt_iff_toNat_lt.mpr hspelled.1
      rw [isDecimalDigit, if_pos hlt, hspelled.2]

/-- The first number of the limit clause is found, where LIMIT is not to be found in front of
it. -/
theorem IsShipped.limitValue?_eq_some_iff (hg : IsShipped g) {n : Nat}
    (hfront : Matches collected.rules (ReadsPast g text ["LIMIT"]) beforeLimit 0 i)
    (hparted : Parted text i) (hkey : g.ReadsAs text limitLexeme i k)
    (hnumber : g.ReadsAs text intLexeme k m)
    (hnext : ∀ c ∈ (text.drop m).head?, isDecimalDigit c = false) (hn : n ≤ Decimal.maxWord) :
    limitValue? text = some n ↔ numberAt text k m = n := by
  obtain ⟨gap, key, hbehind, hgap, hsame, hprev⟩ :=
    hg.exists_key (w := "LIMIT") (by decide) hkey hparted
  obtain ⟨blanks, digits, hpiece, htext, hblanks, htok⟩ := hg.exists_gap (by decide) hkey hnumber
    fun tok rest htok c hc => isWordChar_of_isIdentChar (isIdentChar_of_isUpper_or_isDigit
      (Or.inr (Or.inl (isDigit_of_takesAs hg htok c (List.mem_of_mem_head? hc)))))
  have hdigits := isDigit_of_takesAs hg htok
  rw [htext] at hbehind
  have hall : text = (text.take i ++ gap) ++ (key ++ (blanks ++ (digits ++ text.drop m))) := by
    rw [List.append_assoc, ← hbehind, List.take_append_drop]
  have habsent : Absent (isWordAt "LIMIT".toList) (key ++ (blanks ++ (digits ++ text.drop m))) none
      (text.take i ++ gap) := by
    refine absent_append_iff.mpr ⟨?_, (isSought_of_mem_sought (by decide)).absent_of_blank hgap⟩
    rw [← hbehind, ← extract_zero]
    exact hg.absent_of_matches (by decide) (by decide) confined_parts.1 hfront
  have hvalue := limitValue?_append habsent
    (limitDigits?_eq_some hsame hprev hblanks htok.ne_nil hdigits hnext)
  rw [← hall] at hvalue
  have hhead : ∀ c ∈ digits.head?, isWhite c = false := fun c hc =>
    not_isWhite_of_isIdentChar (isIdentChar_of_isUpper_or_isDigit
      (Or.inr (Or.inl (hdigits c (List.mem_of_mem_head? hc)))))
  rw [hvalue, Decimal.toOption_readNatural htok.ne_nil hdigits hn, numberAt, hpiece,
    trimStart_append hblanks.white hhead]

/-- No limit is found in a query without one, where LIMIT is not to be found in front of the
directive. -/
theorem IsShipped.limitValue?_eq_none (hg : IsShipped g)
    (hfront : Matches collected.rules (ReadsPast g text ["LIMIT"]) beforeLimit 0 i)
    (hends : Matches collected.rules (g.ReadsAs text) behindQuery i stop)
    (hend : ∀ c ∈ text.drop stop, blank.mem c = true) : limitValue? text = none := by
  have hall : Matches collected.rules (ReadsPast g text ["LIMIT"]) (beforeLimit ++ behindQuery) 0
      stop := hfront.append (hg.readsPast_of_matches hends)
  have habsent : Absent (isWordAt "LIMIT".toList) (text.drop stop) none (text.take stop) := by
    rw [← extract_zero]
    exact hg.absent_of_matches (by decide) (by decide)
      (confined_append confined_parts.1 confined_parts.2.1) hall
  refine Eval.limitValue?_eq_none ?_
  rw [← List.take_append_drop stop text, absent_append_iff, List.append_nil]
  exact ⟨habsent, (isSought_of_mem_sought (by decide)).absent_of_blank hend⟩

/-! ## Groups -/

/-- What goes on behind a keyword is no word. -/
theorem IsShipped.not_isWordMember (hg : IsShipped g)
    (hkeyword : (Lexeme.literal value anyCase).isKeyword = true)
    (h : g.ReadsAs text (.literal value anyCase) i k) (hx : x ∈ lexemes)
    (hreads : g.ReadsAs text x k m) : ∀ c ∈ (text.drop k).head?, isWordMember c = false := by
  obtain ⟨_, _, -, -, -, hkey⟩ := hg.exists_extract h
  obtain ⟨gap, tok, -, htext, hgap, htok⟩ := hg.exists_extract hreads
  intro c hc
  have hnot := (hg.isFor.takesAs_literal_iff.mp hkey).2.2.2 hkeyword
  rw [Option.mem_def.mp hc, Option.any_some] at hnot
  rw [htext] at hc
  cases gap with
  | cons d gap =>
    obtain rfl := Option.some.inj hc
    exact (of_mem_blank_word (hgap d (List.mem_cons_self ..))).2.1
  | nil =>
    rw [List.nil_append, List.head?_append_of_ne_nil _ htok.ne_nil] at hc
    refine Bool.eq_false_iff.mpr fun hmember => ?_
    rw [isWordChar_of_takesAs hg.isFor hx htok c hc hmember] at hnot
    cases hnot

/-- What is matched by more than nothing begins with a lexeme that is read. -/
theorem exists_readsAs_of_matches {words : List String} {es : List Expr}
    (hconfined : Confined ruleNames lexemes es) (hes : ∃ e ∈ es, e.isNullable = false)
    (h : Matches collected.rules (ReadsPast g text words) es i j) :
    ∃ x ∈ lexemes, ∃ k, g.ReadsAs text x i k := by
  have hlt : i < j := h.lt (fun x k m hx => by
    obtain ⟨t, -, hreads⟩ := hx.1
    exact hreads.lt) not_nullable_of_mem_rules hes
  rcases Relation.ReflTransGen.cases_head
    (h.restrict confined_of_mem_collected hconfined).reachable with rfl | ⟨k, ⟨x, hx, hreads⟩, -⟩
  · exact absurd hlt (Nat.lt_irrefl i)
  · exact ⟨x, hx, k, hreads.1⟩

/-- Where GROUP is not to be found in front of the group clause, and none of the words behind groups
in its list, the list is found if no bracket is closed in it. -/
theorem IsShipped.exists_groupClause?_iff (hg : IsShipped g)
    (hfront : Matches collected.rules (ReadsPast g text ["GROUP"]) beforeGroups 0 i)
    (hparted : Parted text i) (hkey : g.ReadsAs text groupLexeme i k)
    (hby : g.ReadsAs text byLexeme k l)
    (hlist : Matches collected.rules (ReadsPast g text groupEnds) [.name "expr_list"] l j) :
    (∃ clause, groupClause? text = some clause ∧ lower (text.extract l j) <:+: clause) ↔
      ')' ∉ text.extract l j := by
  obtain ⟨gap, key, hbehind, hgap, hsame, hprev⟩ :=
    hg.exists_key (w := "GROUP") (by decide) hkey hparted
  obtain ⟨blanks, key', -, htext, hblanks, htok⟩ := hg.exists_gap (by decide) hkey hby
    fun tok rest htok c hc => isWordChar_of_isIdentChar (isIdentChar_of_isLettered (by decide)
      (hg.isFor.spells_of_takesAs htok) c (List.mem_of_mem_head? hc))
  have hsame' : sameLetters key' "BY".toList = true :=
    sameLetters_of_isLettered (by decide) (hg.isFor.spells_of_takesAs htok)
  rw [htext] at hbehind
  have hall : text = (text.take i ++ gap) ++ (key ++ (blanks ++ (key' ++ text.drop l))) := by
    rw [List.append_assoc, ← hbehind, List.take_append_drop]
  have habsent : Absent (isWordAt "GROUP".toList) (key ++ (blanks ++ (key' ++ text.drop l))) none
      (text.take i ++ gap) := by
    refine absent_append_iff.mpr ⟨?_, (isSought_of_mem_sought (by decide)).absent_of_blank hgap⟩
    rw [← hbehind, ← extract_zero]
    exact hg.absent_of_matches (by decide) (by decide) confined_beforeGroups hfront
  obtain ⟨x, hx, m, hreads⟩ := exists_readsAs_of_matches confined_parts.2.2
    ⟨_, List.mem_singleton.mpr rfl, rfl⟩ hlist
  have hclause := groupClause?_append habsent (phrase?_eq_some hsame hprev hblanks hsame'
    htok.ne_nil (by decide) (hg.not_isWordMember (by decide) hby hx hreads))
  rw [← hall] at hclause
  constructor
  · rintro ⟨_, hfound, hwithin⟩ hbracket
    obtain rfl := Option.some.inj (hclause.symm.trans hfound)
    have hlower : ')'.toLower ∈ lower (text.extract l j) := List.mem_map_of_mem hbracket
    exact not_mem_lower_upTo (hwithin.subset hlower)
  intro hbracket
  refine ⟨_, hclause, List.IsPrefix.isInfix ?_⟩
  have hle : l ≤ j := hlist.le fun _ _ _ hx => hx.le
  rw [extract_append_drop hle]
  refine isPrefix_upTo (absent_endsGroups hbracket fun w hw => ?_)
  exact hg.absent_of_matches (List.mem_cons_of_mem _ hw) hw confined_parts.2.2 hlist

/-! ## What is found -/

theorem failure?_limitEquals_eq_none_iff {n : Nat} {result : Option QueryResult} :
    (Expectation.limitEquals n).failure? text result = none ↔ limitValue? text = some n := by
  simp [Expectation.failure?, Expectation.holds]

/-- A number ends where its limit clause goes on, and where the directive begins. -/
theorem IsShipped.exists_number (hg : IsShipped g) {first count : Nat}
    (h : LimitRead (g.ReadsAs text) text i j first count)
    (hends : Matches collected.rules (g.ReadsAs text) behindQuery j stop) :
    ∃ k m, g.ReadsAs text limitLexeme i k ∧ g.ReadsAs text intLexeme k m ∧
      first = numberAt text k m ∧ ∀ c ∈ (text.drop m).head?, isDecimalDigit c = false := by
  cases h with
  | @counted k m hkey hcount hoffset =>
    refine ⟨k, m, hkey, hcount, rfl, ?_⟩
    rcases hoffset with rfl | ⟨l, hoffset, -⟩
    · have hclause : ("format_clause", .seq [word "FORMAT", word "JSON"]) ∈ collected.rules :=
        List.mem_reverse.mpr (List.mem_cons_of_mem _ (List.mem_cons_self ..))
      obtain ⟨l, hformat, -⟩ := (matches_lexeme_cons_iff (x := formatLexeme) rfl).mp
        ((matches_name_seq_cons_iff nodup_rules (by decide) hclause).mp hends)
      exact hg.not_isDecimalDigit (by decide) hformat
    · exact hg.not_isDecimalDigit (by decide) hoffset
  | @skipping k m l hkey hoffset hcomma hcount =>
    exact ⟨k, m, hkey, hoffset, rfl, hg.not_isDecimalDigit (by decide) hcomma⟩

/-- Where the grammar reads a query with one outermost SELECT, the query passes the gate, and

* if LIMIT is not to be found in front of the limit, no limit is found where there is none, and
  where there is one, its first number;
* if GROUP is not to be found in front of the groups, and no word at which groups end in their
  list, the list is found where no bracket is closed in it. -/
theorem clauses_of_singleSelect {groups order limit directive : Nat}
    (hshipped : Grammar.shipped = .ok g)
    (h : SingleSelect (g.ReadsAs text) groups order limit directive stop)
    (hstop : stop ≤ text.length) (hend : ∀ c ∈ text.drop stop, blank.mem c = true) :
    validate recognize g text = .ok () ∧
    (limit = directive ∨
      ∃ first count, LimitRead (g.ReadsAs text) text limit directive first count) ∧
    (groups = order ∨ ∃ l, GroupsRead (g.ReadsAs text) groups l order) ∧
    (Matches collected.rules (ReadsPast g text ["LIMIT"]) beforeLimit 0 limit →
      (limit = directive → ∀ n result,
        (Expectation.limitEquals n).failure? text result ≠ none) ∧
      ∀ first count, LimitRead (g.ReadsAs text) text limit directive first count →
        Parted text limit → ∀ n ≤ Decimal.maxWord, ∀ result,
          ((Expectation.limitEquals n).failure? text result = none ↔ first = n)) ∧
    (Matches collected.rules (ReadsPast g text ["GROUP"]) beforeGroups 0 groups →
      ∀ l, GroupsRead (g.ReadsAs text) groups l order → Parted text groups →
        Matches collected.rules (ReadsPast g text groupEnds) [.name "expr_list"] l order →
          ((∃ clause, groupClause? text = some clause ∧
            lower (text.extract l order) <:+: clause) ↔ ')' ∉ text.extract l order)) := by
  have hg := isShipped_of_shipped hshipped
  refine ⟨hg.validate_of_singleSelect h hstop hend, ?_, ?_, fun hfront => ⟨?_, ?_⟩, ?_⟩
  · rw [exists_limitRead_iff, ← matches_nil_iff, ← matches_optional_cons_iff]
    exact h.limits
  · rw [exists_groupsRead_iff, ← matches_nil_iff, ← matches_optional_cons_iff]
    exact h.groups
  · rintro rfl n result
    rw [Ne, failure?_limitEquals_eq_none_iff, hg.limitValue?_eq_none hfront h.ends hend]
    exact nofun
  · intro first count hlimit hparted n hn result
    obtain ⟨k, m, hkey, hnumber, rfl, hnext⟩ := hg.exists_number hlimit h.ends
    rw [failure?_limitEquals_eq_none_iff]
    exact hg.limitValue?_eq_some_iff hfront hparted hkey hnumber hnext hn
  · rintro hfront l ⟨k, hkey, hby, -⟩ hparted hlist
    exact hg.exists_groupClause?_iff hfront hparted hkey hby hlist

/-- A number or a word of a clause is read where it is computed to be. -/
theorem IsShipped.readsAs_clause (hg : IsShipped g) (hx : x ∈ clauseLexemes)
    (h : (readAll? [] [x] (text.drop i)).map (i + ·) = some j) : g.ReadsAs text x i j :=
  hg.readsAs_of_readAll? (mem_lexemes_of_mem_clauseLexemes hx) h

/-- Expressions match numbers and words of clauses that they are computed to derive. -/
theorem IsShipped.matches_clause (hg : IsShipped g) {es : List Expr}
    (words : List String) (fuel : Nat) (xs : List Lexeme)
    (hxs : xs.all clauseLexemes.contains = true)
    (hread : (readAll? words xs (text.drop i)).map (i + ·) = some j)
    (hderives : derives collected.rules fuel es xs = true) :
    Matches collected.rules (ReadsPast g text words) es i j :=
  hg.matches_of_readAll? words fuel xs (fun x hx => mem_lexemes_of_mem_clauseLexemes
    (List.contains_iff_mem.mp (List.all_eq_true.mp hxs x hx))) hread hderives

/-- A query with groups and a limit. -/
def groupedText : List Char :=
  "SELECT 1 GROUP BY 2, 3 LIMIT 5 OFFSET 10 FORMAT JSON;".toList

theorem clauses_of_singleSelect_grouped : ∃ g, Grammar.shipped = .ok g ∧
    validate recognize g groupedText = .ok () ∧
    (∀ n ≤ Decimal.maxWord,
      ((Expectation.limitEquals n).failure? groupedText none = none ↔ 5 = n)) ∧
    ∃ clause, groupClause? groupedText = some clause ∧ " 2, 3".toList <:+: clause := by
  obtain ⟨g, hshipped, hfor, hignored⟩ := exists_shipped
  have hg : IsShipped g := ⟨hfor, hignored⟩
  have hselect : SingleSelect (g.ReadsAs groupedText) 8 22 22 40 53 := by
    constructor <;> apply matches_readsAs
    · refine hg.matches_clause [] 60 [selectLexeme, numberLexeme] ?_ ?_ ?_ <;>
        decide +kernel
    · refine hg.matches_clause [] 60 [groupLexeme, byLexeme, numberLexeme, commaLexeme,
        numberLexeme] ?_ ?_ ?_ <;> decide +kernel
    · refine hg.matches_clause [] 5 [] ?_ ?_ ?_ <;> decide +kernel
    · refine hg.matches_clause [] 20 [limitLexeme, intLexeme, offsetLexeme, intLexeme]
        ?_ ?_ ?_ <;> decide +kernel
    · refine hg.matches_clause [] 20 [formatLexeme, jsonLexeme, separatorLexeme]
        ?_ ?_ ?_ <;> decide +kernel
  have hlimit : LimitRead (g.ReadsAs groupedText) groupedText 22 40 5 5 := by
    have h : LimitRead (g.ReadsAs groupedText) groupedText 22 40 (numberAt groupedText 28 30)
        (numberAt groupedText 28 30) :=
      .counted (hg.readsAs_clause (by decide +kernel) (by decide +kernel))
        (hg.readsAs_clause (by decide +kernel) (by decide +kernel))
        (Or.inr ⟨37, hg.readsAs_clause (by decide +kernel) (by decide +kernel),
          hg.readsAs_clause (by decide +kernel) (by decide +kernel)⟩)
    have hnumber : numberAt groupedText 28 30 = 5 := by decide +kernel
    rwa [hnumber] at h
  have hlimitless : Matches collected.rules (ReadsPast g groupedText ["LIMIT"]) beforeLimit 0
      22 := by
    refine hg.matches_clause _ 110 [selectLexeme, numberLexeme, groupLexeme, byLexeme,
      numberLexeme, commaLexeme, numberLexeme] ?_ ?_ ?_ <;> decide +kernel
  have hgroupless : Matches collected.rules (ReadsPast g groupedText ["GROUP"]) beforeGroups 0
      8 := by
    refine hg.matches_clause _ 60 [selectLexeme, numberLexeme] ?_ ?_ ?_ <;> decide +kernel
  have hlist : Matches collected.rules (ReadsPast g groupedText groupEnds) [.name "expr_list"] 17
      22 := by
    refine hg.matches_clause _ 60 [numberLexeme, commaLexeme, numberLexeme] ?_ ?_ ?_ <;>
      decide +kernel
  obtain ⟨hvalid, -, -, hlimits, hgroups⟩ :=
    clauses_of_singleSelect hshipped hselect (by decide +kernel)
      (List.all_eq_true.mp (by decide +kernel))
  obtain ⟨clause, hclause, hwithin⟩ := (hgroups hgroupless 17
    ⟨14, hg.readsAs_clause (by decide +kernel) (by decide +kernel),
      hg.readsAs_clause (by decide +kernel) (by decide +kernel), matches_readsAs hlist⟩
    (by decide +kernel) hlist).mpr (by decide +kernel)
  have hpiece : lower (groupedText.extract 17 22) = " 2, 3".toList := by decide +kernel
  exact ⟨g, hshipped, hvalid, fun n hn => (hlimits hlimitless).2 5 5 hlimit
    (by decide +kernel) n hn none, clause, hclause, hpiece ▸ hwithin⟩

/-- A query with an offset in front of its count. -/
def skippingText : List Char :=
  "SELECT 1 LIMIT 5, 10 FORMAT JSON".toList

/-- Of an offset and a count behind a comma, the offset is found. -/
theorem exists_offset_found : ∃ g, Grammar.shipped = .ok g ∧
    validate recognize g skippingText = .ok () ∧
    SingleSelect (g.ReadsAs skippingText) 8 8 8 20 32 ∧
    LimitRead (g.ReadsAs skippingText) skippingText 8 20 5 10 ∧
    (Expectation.limitEquals 10).failure? skippingText none =
      some "LimitEquals(10) not satisfied" ∧
    (Expectation.limitEquals 5).failure? skippingText none = none := by
  obtain ⟨g, hshipped, hfor, hignored⟩ := exists_shipped
  have hg : IsShipped g := ⟨hfor, hignored⟩
  have hselect : SingleSelect (g.ReadsAs skippingText) 8 8 8 20 32 := by
    constructor <;> apply matches_readsAs
    · refine hg.matches_clause [] 60 [selectLexeme, numberLexeme] ?_ ?_ ?_ <;>
        decide +kernel
    · refine hg.matches_clause [] 5 [] ?_ ?_ ?_ <;> decide +kernel
    · refine hg.matches_clause [] 5 [] ?_ ?_ ?_ <;> decide +kernel
    · refine hg.matches_clause [] 20 [limitLexeme, intLexeme, commaLexeme, intLexeme]
        ?_ ?_ ?_ <;> decide +kernel
    · refine hg.matches_clause [] 20 [formatLexeme, jsonLexeme] ?_ ?_ ?_ <;>
        decide +kernel
  have hlimit : LimitRead (g.ReadsAs skippingText) skippingText 8 20 5 10 := by
    have h : LimitRead (g.ReadsAs skippingText) skippingText 8 20 (numberAt skippingText 14 16)
        (numberAt skippingText 17 20) :=
      .skipping (hg.readsAs_clause (by decide +kernel) (by decide +kernel))
        (hg.readsAs_clause (by decide +kernel) (by decide +kernel))
        (hg.readsAs_clause (by decide +kernel) (by decide +kernel))
        (hg.readsAs_clause (by decide +kernel) (by decide +kernel))
    have hnumbers : numberAt skippingText 14 16 = 5 ∧ numberAt skippingText 17 20 = 10 := by
      decide +kernel
    rwa [hnumbers.1, hnumbers.2] at h
  have hvalid := hg.validate_of_singleSelect hselect (by decide +kernel)
    (List.all_eq_true.mp (by decide +kernel))
  exact ⟨g, hshipped, hvalid, hselect, hlimit, by decide +kernel, by decide +kernel⟩

end QueryGate.Shipped
