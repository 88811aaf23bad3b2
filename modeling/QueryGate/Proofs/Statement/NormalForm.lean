import QueryGate.Proofs.Statement.Comments
import QueryGate.Proofs.Statement.Directives

/-!
# The form of normalized statements

What `normalize` lets pass is a bare statement (`IsStatement`) with one directive behind it
(`exists_isStatement_of_normalize`), and such a text is left as it is
(`IsStatement.normalize_withFormat`). From these two :

* `normalize_query_eq_self` : normalizing is idempotent;
* `normalize_query_shape` : what the statement and the whole query look like.
-/

namespace QueryGate

open Text Statement

namespace Statement

variable {s t b : List Char} {c : Char}

/-- A read-only statement, with nothing at its end that could be taken off and neither comments
nor separators in it. -/
structure IsStatement (b : List Char) : Prop extends IsBare b where
  ne_nil : b ≠ []
  head : ∀ c ∈ b.head?, isWhite c = false
  marks : ∀ mark ∈ [[';'], lineOpener, blockOpener], ¬OccursOutside mark b
  leads : readOnlyLeaders.any (sameLetters (leader b)) = true

theorem refusal?_eq_none_iff : refusal? b = none ↔ b ≠ [] ∧ ¬OccursOutside [';'] b ∧
    readOnlyLeaders.any (sameLetters (leader b)) = true := by
  unfold refusal?
  rcases hb : b with _ | ⟨c, b'⟩
  · simp
  rw [← hb, OccursOutside, ← separator?_eq_none_iff]
  cases separator? .outside b with
  | some offset => simp [hb]
  | none =>
    by_cases hl : readOnlyLeaders.any (sameLetters (leader b)) = true
    · simp [hb ▸ hl, hb]
    · simp only [hl]
      split_ifs <;> simp_all

theorem isStatement_of_withoutTail (hmarks : ∀ mark ∈ [lineOpener, blockOpener],
    ¬OccursOutside mark s) (htail : withoutTail s = some b) (href : refusal? b = none) :
    IsStatement b := by
  obtain ⟨hbare, hpre⟩ := isBare_of_stripTail htail
  obtain ⟨hne, hsep, hleads⟩ := refusal?_eq_none_iff.mp href
  refine ⟨hbare, hne, fun c => not_isWhite_of_mem_head?_of_prefix_trim hpre, ?_, hleads⟩
  intro mark hmark hoccurs
  rcases List.mem_cons.mp hmark with rfl | hmark
  · exact hsep hoccurs
  -- what stands outside the quotes of `b` stands outside those of `s`
  obtain ⟨t, ht⟩ := hpre.trans (isPrefix_trimEnd (trimStart s))
  obtain ⟨w, hw, hwhite⟩ := exists_eq_append_trimStart s
  have hquote : Quote.outside.after w = .outside :=
    Quote.after_outside_of_forall_not_isQuoteMark fun c hc =>
      not_isQuoteMark_of_isWhite (hwhite c hc)
  refine hmarks mark hmark ?_
  rw [hw, ← ht]
  refine OccursFrom.append_left ?_
  rw [hquote]
  exact hoccurs.append_right t

/-! ## A statement with its directive -/

theorem leader_append (hne : leader s ≠ []) (ht : ∀ c ∈ t.head?, isIdentChar c = false) :
    leader (s ++ t) = leader s := by
  unfold leader at hne ⊢
  rw [List.dropWhile_append]
  split_ifs with hnil
  · rw [List.isEmpty_iff.mp hnil] at hne
    exact absurd rfl hne
  · rw [List.takeWhile_append]
    split_ifs with hall
    · have hstop : t.takeWhile isIdentChar = [] := by
        cases t with
        | nil => rfl
        | cons c t => simp [ht c rfl]
      rw [hstop, List.append_nil]
      exact (List.takeWhile_prefix _).eq_of_length hall |>.symm
    · rfl

variable {format : List Char}

theorem withFormat_eq (format b : List Char) :
    withFormat format b = b ++ [' '] ++ (formatKeyword ++ [' '] ++ format) := by
  simp [withFormat]

/-- The directive that is put behind a statement. -/
def appendedDirective (hne : format ≠ []) (hf : ∀ c ∈ format, isIdentChar c = true) :
    Directive (formatKeyword ++ [' '] ++ format) where
  keyword := formatKeyword
  space := [' ']
  name := format
  eq_append := rfl
  keyword_eq := by decide
  space_ne_nil := by simp
  space_white := List.forall_mem_singleton.mpr (by decide)
  space_last := by simp; decide
  name_ne_nil := hne
  name_ident := hf

theorem isIdentChar_or_eq_space_of_mem_directive (hf : ∀ c ∈ format, isIdentChar c = true)
    (hc : c ∈ [' '] ++ (formatKeyword ++ [' '] ++ format)) : isIdentChar c = true ∨ c = ' ' := by
  have hkeyword : formatKeyword.all isIdentChar = true := by decide
  simp only [List.mem_append, List.mem_singleton] at hc
  rcases hc with rfl | (hc | rfl) | hc
  · exact Or.inr rfl
  · exact Or.inl (List.all_eq_true.mp hkeyword c hc)
  · exact Or.inr rfl
  · exact Or.inl (hf c hc)

/-- The directive adds neither comments nor separators, whatever quotes are open in front of it. -/
theorem IsStatement.not_occursOutside_withFormat (hb : IsStatement b)
    (hf : ∀ c ∈ format, isIdentChar c = true) :
    ∀ mark ∈ [[';'], lineOpener, blockOpener], ¬OccursOutside mark (withFormat format b) := by
  intro mark hmark hoccurs
  have hall : ∀ mark ∈ [[';'], lineOpener, blockOpener],
      mark ≠ [] ∧ mark.all (fun c => !isIdentChar c && c != ' ') = true := by decide
  have hchars := hall mark hmark
  rw [withFormat_eq, List.append_assoc] at hoccurs
  refine hb.marks mark hmark (hoccurs.of_append hchars.1 fun c hc ht => ?_)
  have hcls := List.all_eq_true.mp hchars.2 c hc
  rcases isIdentChar_or_eq_space_of_mem_directive hf ht with hident | rfl
  · simp [hident] at hcls
  · simp at hcls

theorem IsStatement.leader_withFormat (hb : IsStatement b) :
    leader (withFormat format b) = leader b := by
  rw [withFormat_eq, List.append_assoc]
  refine leader_append ?_ (by simp; decide)
  intro hnil
  have hleads := hb.leads
  rw [hnil] at hleads
  exact absurd hleads (by decide)

theorem IsStatement.withoutTail_withFormat (hb : IsStatement b) (hne : format ≠ [])
    (hf : ∀ c ∈ format, isIdentChar c = true) :
    withoutTail (withFormat format b) = some b := by
  have htrim : trim (withFormat format b) = withFormat format b := by
    refine trim_eq_self (fun c hc => ?_) fun c hc => ?_
    · rw [withFormat_eq, List.append_assoc, List.head?_append_of_ne_nil _ hb.ne_nil] at hc
      exact hb.head c hc
    · rw [withFormat_eq, ← List.append_assoc, List.getLast?_append_of_ne_nil _ hne] at hc
      exact not_isWhite_of_isIdentChar (hf c (List.mem_of_getLast? hc))
  rw [withoutTail, htrim, withFormat_eq]
  exact stripTail_append_directive hb.toIsBare (appendedDirective hne hf) (by simp)
    (List.forall_mem_singleton.mpr (by decide))

end Statement

namespace Normalizer

variable {n : Normalizer} {text q b : List Char}

theorem normalize_eq_query_iff : n.normalize text = .query q ↔
    ∃ b, withoutTail (withoutComments text) = some b ∧ refusal? b = none ∧
      q = withFormat n.format b := by
  unfold normalize
  cases withoutTail (withoutComments text) with
  | none => simp
  | some b =>
    cases h : refusal? b with
    | some why => simp [h]
    | none => simp [h, eq_comm]

theorem exists_isStatement_of_normalize (h : n.normalize text = .query q) :
    ∃ b, IsStatement b ∧ q = withFormat n.format b := by
  obtain ⟨b, htail, href, rfl⟩ := normalize_eq_query_iff.mp h
  exact ⟨b, isStatement_of_withoutTail
    (fun _ hm => not_occursOutside_withoutComments hm text) htail href, rfl⟩

theorem normalize_withFormat (hb : IsStatement b) (hne : n.format ≠ [])
    (hf : ∀ c ∈ n.format, isIdentChar c = true) :
    n.normalize (withFormat n.format b) = .query (withFormat n.format b) := by
  have hmarks := hb.not_occursOutside_withFormat hf
  have hcomments : withoutComments (withFormat n.format b) = withFormat n.format b :=
    withoutComments_eq_self fun mark hm => hmarks mark (List.mem_cons_of_mem _ hm)
  refine normalize_eq_query_iff.mpr ⟨b, ?_, ?_, rfl⟩
  · rw [hcomments]
    exact hb.withoutTail_withFormat hne hf
  · exact refusal?_eq_none_iff.mpr ⟨hb.ne_nil, hb.marks _ (by simp), hb.leads⟩

/-- Normalizing is idempotent : a normalized query is left as it is, down to the character. -/
theorem normalize_query_eq_self {format : String} (hne : format ≠ "")
    (hf : ∀ c ∈ format.toList, isIdentChar c = true)
    (h : (ofFormat format).normalize text = .query q) :
    (ofFormat format).normalize q = .query q := by
  obtain ⟨b, hb, rfl⟩ := exists_isStatement_of_normalize h
  refine normalize_withFormat hb ?_ ?_
  · simpa [ofFormat, upper] using hne
  · intro c hc
    obtain ⟨d, hd, rfl⟩ := List.mem_map.mp hc
    exact isIdentChar_toUpper (hf d hd)

/-- Directives behind quotes that are never closed are taken off and put back too. -/
theorem normalize_query_eq_self_open_quotes :
    (ofFormat "Csv_2").normalize "with x as (select 1) select 'é -- FORMAT a ; FORMAT b;".toList =
        .query "with x as (select 1) select 'é -- FORMAT CSV_2".toList ∧
      (ofFormat "Csv_2").normalize "with x as (select 1) select 'é -- FORMAT CSV_2".toList =
        .query "with x as (select 1) select 'é -- FORMAT CSV_2".toList := by
  have h : (ofFormat "Csv_2").normalize
      "with x as (select 1) select 'é -- FORMAT a ; FORMAT b;".toList =
        .query "with x as (select 1) select 'é -- FORMAT CSV_2".toList := by decide +kernel
  have hident : "Csv_2".toList.all isIdentChar = true := by decide
  exact ⟨h, normalize_query_eq_self (by decide) (List.all_eq_true.mp hident) h⟩

/-- A normalized query is a bare statement with the directive behind it, begins with a read-only
word, and has neither separators nor comments outside its quotes. -/
theorem normalize_query_shape {format : String}
    (hf : ∀ c ∈ format.toList, c.isUpper = true ∨ c.isDigit = true ∨ c = '_')
    (h : (ofFormat format).normalize text = .query q) :
    (∃ b, q = b ++ " FORMAT ".toList ++ format.toList ∧ b ≠ [] ∧
        (∀ c ∈ b.head?, isWhite c = false) ∧ (∀ c ∈ b.getLast?, c ≠ ';' ∧ isWhite c = false) ∧
        endingOf b = .other) ∧
      (∃ word ∈ readOnlyLeaders, sameLetters (leader q) word = true) ∧
      ∀ mark ∈ [";", "--", "/*"], ¬OccursOutside mark.toList q := by
  obtain ⟨b, hb, rfl⟩ := exists_isStatement_of_normalize h
  have hident : ∀ c ∈ format.toList, isIdentChar c = true := by
    intro c hc
    rcases hf c hc with hc | hc | rfl
    · exact isIdentChar_iff.mpr (Or.inr (Or.inl (isUpper_iff.mp hc)))
    · exact isIdentChar_iff.mpr (Or.inl (isDigit_iff.mp hc))
    · decide
  have hformat : (ofFormat format).format = format.toList :=
    upper_eq_self fun c hc => toNat_lt_of_isUpper_or_isDigit (hf c hc)
  rw [hformat]
  refine ⟨⟨b, ?_, hb.ne_nil, hb.head, hb.last, hb.ending⟩, ?_, ?_⟩
  · rw [withFormat_eq]
    simp [formatKeyword]
  · rw [hb.leader_withFormat]
    exact List.any_eq_true.mp hb.leads
  · intro mark hmark
    refine hb.not_occursOutside_withFormat hident mark.toList ?_
    revert mark
    decide

/-- Quotes hide separators and comments, and parentheses stand in front of the first word. -/
theorem normalize_query_shape_nested :
    (ofFormat "CSV").normalize "((select ';--') union all (select 1)) /* ; */ format json;".toList =
        .query "((select ';--') union all (select 1)) FORMAT CSV".toList ∧
      ∀ mark ∈ [";", "--", "/*"], ¬OccursOutside mark.toList
        "((select ';--') union all (select 1)) FORMAT CSV".toList := by
  have h : (ofFormat "CSV").normalize
      "((select ';--') union all (select 1)) /* ; */ format json;".toList =
        .query "((select ';--') union all (select 1)) FORMAT CSV".toList := by decide +kernel
  have hupper : "CSV".toList.all Char.isUpper = true := by decide
  exact ⟨h, (normalize_query_shape (fun c hc => Or.inl (List.all_eq_true.mp hupper c hc)) h).2.2⟩

end Normalizer

end QueryGate
