import QueryGate.Proofs.Shipped.Checked
import QueryGate.Proofs.Shipped.Quotes

/-!
# Accepted texts and the normalizer

Where the grammar and the normalizer read an accepted text alike, and there are no comments in it,
the normalizer finds a statement (`exists_normalize_eq_query`).

Keywords are read in any case, with the letters that fold to ASCII ones. The normalizer does not
know these : it refuses some accepted texts, and cannot go on with others
(`exists_accepted_not_query`).
-/

namespace QueryGate.Shipped

open Ebnf Regex Text Statement Quote

variable {g : Grammar} {text tok rest b : List Char} {value : String} {j : Nat} {c : Char}

/-- A query begins with one of its leading keywords. -/
theorem IsShipped.exists_leader (hg : IsShipped g)
    (h : Matches collected.rules (g.ReadsAs text) [.name "query"] 0 j) :
    ∃ value ∈ ["SELECT", "WITH"], ∃ lead word rest, text = lead ++ word ++ rest ∧
      (lead ++ word).length ≤ j ∧ (∀ c ∈ lead, blank.mem c = true) ∧
      .literal value true ∈ queryLexemes ∧ g.TakesAs (.literal value true) word rest := by
  have hwithin := (matches_step h).within (fun _ _ _ hstep => hstep.le) (Nat.le_refl j)
  obtain ⟨value, hvalue, k, hstep, hk⟩ : ∃ value ∈ ["SELECT", "WITH"],
      ∃ k, Step g text (.literal value true) 0 k ∧ k ≤ j := by
    rcases matches_query_cases hwithin with ⟨k, hwith⟩ | ⟨k, -, hselect, -, -⟩
    · exact ⟨"WITH", by simp, k, hwith⟩
    · exact ⟨"SELECT", by simp, k, hselect⟩
  obtain ⟨lead, word, rest, htext, hlead, -, hword, rfl, -, -⟩ := hg.exists_of_readsAs hstep.2
  rw [Nat.zero_add] at hk
  exact ⟨value, hvalue, lead, word, rest, htext, hk, hlead, hstep.1, hword⟩

/-- A leading keyword without characters of several bytes is one for statements too. -/
theorem sameLetters_of_spells (hvalue : value ∈ ["SELECT", "WITH"])
    (h : Spells true value.toList tok) (hnarrow : Everywhere Narrow .outside tok) :
    sameLetters tok value.toList = true ∧ ∀ c ∈ tok, isIdentChar c = true := by
  have hall : (["SELECT", "WITH"].all fun value => value.toList.all fun d =>
      (spellings true d).all fun c => !isQuoteMark c && (1 < c.utf8Size || c.isAlpha) &&
        (!c.isAlpha || c.toLower == d.toLower)) = true := by decide +kernel
  have hspelling : ∀ d ∈ value.toList, ∀ c ∈ spellings true d, (isQuoteMark c = false ∧
      (1 < c.utf8Size ∨ c.isAlpha = true)) ∧ (c.isAlpha = false ∨ c.toLower = d.toLower) := by
    intro d hd c hc
    simpa using List.all_eq_true.mp (List.all_eq_true.mp (List.all_eq_true.mp hall _ hvalue) d hd)
      c hc
  have hchars : ∀ c ∈ tok, isQuoteMark c = false ∧ (1 < c.utf8Size ∨ c.isAlpha = true) :=
    fun c hc => by
      obtain ⟨d, hd, hmem⟩ := exists_mem_of_spells h hc
      exact (hspelling d hd c hmem).1
  have hsize := hnarrow.forall_of_outside fun c hc => (hchars c hc).1
  have halpha : ∀ c ∈ tok, c.isAlpha = true := fun c hc =>
    (hchars c hc).2.resolve_left (Nat.not_lt.mpr (hsize c hc rfl))
  refine ⟨beq_iff_eq.mpr (lower_eq_of_spells (fun d hd c hc halpha => ?_) h halpha), fun c hc => ?_⟩
  · refine (hspelling d hd c hc).2.resolve_left fun hnot => ?_
    rw [halpha] at hnot
    cases hnot
  · rw [isIdentChar, Char.isAlphanum, halpha c hc, Bool.true_or, Bool.true_or]

/-- A text that begins with a word is led by it. -/
theorem leader_append_of_forall {word t : List Char} (hne : word ≠ [])
    (hword : ∀ c ∈ word, isIdentChar c = true) (ht : ∀ c ∈ t.head?, isIdentChar c = false) :
    leader (word ++ t) = word := by
  have hlead : leader word = word := by
    obtain ⟨c, word, rfl⟩ := List.exists_cons_of_ne_nil hne
    have hc := hword c (List.mem_cons_self ..)
    have hparen : c ≠ '(' := by
      rintro rfl
      exact absurd hc (by decide)
    rw [leader, List.dropWhile_cons_of_neg (by simp [hparen, not_isWhite_of_isIdentChar hc])]
    exact List.takeWhile_eq_self_iff.mpr hword
  rw [leader_append (by rwa [hlead]) ht, hlead]

/-- What is left of an accepted text without its tail begins with a leading keyword. -/
theorem IsShipped.exists_leader_of_withoutTail (hg : IsShipped g)
    (h : (recognize g text).accepted = true) (hb : withoutTail text = some b) :
    ∃ value ∈ ["SELECT", "WITH"], ∃ lead word t u, text = lead ++ b ++ u ∧ b = word ++ t ∧
      (∀ c ∈ lead, blank.mem c = true) ∧ word ≠ [] ∧ Spells true value.toList word ∧
      ∀ c ∈ t.head?, isIdentChar c = false := by
  obtain ⟨j, -, -, -, -, -, hquery, -, -, -, ⟨t, ht, -⟩, -⟩ := hg.exists_form_of_accepted h
  have hreserved : formatKeyword ∈ g.reserved := hg.isFor.mem_reserved ht (by decide)
  have hsettled := hg.settled_of_reachable hreserved (matches_step hquery).reachable
  obtain ⟨value, hvalue, lead, word, rest, htext, hj, hlead, hx, hword⟩ := hg.exists_leader hquery
  obtain ⟨-, hne, hspells, hkeyword⟩ := hg.isFor.takesAs_literal_iff.mp hword
  have hwhite : ∀ c ∈ lead, isWhite c = true := fun c hc => isWhite_of_mem_blank (hlead c hc)
  -- the query without the blanks in front of it
  obtain ⟨s, hs, hstart⟩ : ∃ s, text.take j = lead ++ s ∧ word <+: s := by
    refine ⟨word ++ rest.take (j - (lead ++ word).length), ?_, List.prefix_append _ _⟩
    rw [htext, List.take_append, List.take_of_length_le hj, List.append_assoc]
  have hsplit : text = lead ++ (s ++ text.drop j) := by
    rw [← List.append_assoc, ← hs, List.take_append_drop]
  have hfront : trimStart text = s ++ text.drop j := by
    conv_lhs => rw [hsplit]
    refine trimStart_append hwhite fun c hc => ?_
    obtain ⟨v, rfl⟩ := hstart
    rw [List.append_assoc, List.head?_append_of_ne_nil _ hne] at hc
    exact (isToken_of_takesAs hg.isFor hreserved hx hword).head c hc
  rw [hs] at hsettled
  replace hsettled := hsettled.of_append_left hwhite
  obtain ⟨t, htrim, ht⟩ := exists_dropEndWhile_append_eq (fun c hc => (hsettled.last c hc).2)
    (text.drop j)
  obtain ⟨v, rfl⟩ : word <+: b := by
    rw [withoutTail, trim, hfront, trimEnd, htrim] at hb
    exact hstart.trans (hsettled.isPrefix_of_stripTail (fun c => mem_head?_of_isPrefix ht) hb)
  obtain ⟨u, hu⟩ := (isBare_of_stripTail hb).2.trans (isPrefix_trimEnd _)
  rw [← hfront, ← hu] at hsplit
  refine ⟨value, hvalue, lead, word, v, u, by rw [List.append_assoc, ← hsplit], rfl, hlead, hne,
    hspells, fun c hc => ?_⟩
  have hkeywords : ∀ value ∈ ["SELECT", "WITH"], (Lexeme.literal value true).isKeyword = true := by
    decide
  obtain rfl : rest = v ++ u := by
    rw [htext, List.append_assoc, List.append_assoc] at hsplit
    exact List.append_cancel_left (List.append_cancel_left hsplit)
  have hnot := hkeyword (hkeywords value hvalue)
  rw [mem_head?_of_isPrefix (List.prefix_append v u) hc, Option.any_some] at hnot
  exact Bool.eq_false_iff.mpr fun hident => by
    rw [isWordChar_of_isIdentChar hident] at hnot
    cases hnot

/-- In front of the blanks and separators at its end an accepted text closes the quotes it opens. -/
theorem IsShipped.exists_keepsQuotes_of_accepted (hg : IsShipped g)
    (h : (recognize g text).accepted = true) (hread : Everywhere ReadAlike .outside text) :
    ∃ s rest, text = s ++ rest ∧ KeepsQuotes s ∧ ∀ c ∈ rest, (c == ';' || isWhite c) = true := by
  obtain ⟨j, gap, key, space, name, rest, hquery, htext, hgap, hspace, hkey, hname, hrest⟩ :=
    hg.exists_form_of_accepted h
  have hspellsKey := hg.isFor.spells_of_takesAs hkey
  have hspellsName := hg.isFor.spells_of_takesAs hname
  have hquoteless : isQuoteless "FORMAT" true = true ∧ isQuoteless "JSON" true = true := by
    decide +kernel
  have hreachable := (matches_step hquery).reachable
  refine ⟨text.take j ++ gap ++ key ++ space ++ name, rest, ?_, ?_, fun c hc => ?_⟩
  · simp only [List.append_assoc] at htext ⊢
    rw [← htext, List.take_append_drop]
  · exact ((((hg.keepsQuotes_of_reachable hread hreachable).append
      (keepsQuotes_of_blank hgap)).append (keepsQuotes_of_spells hquoteless.1 hspellsKey)).append
        (keepsQuotes_of_blank hspace)).append (keepsQuotes_of_spells hquoteless.2 hspellsName)
  · simpa using hrest c hc

/-- Where statements read an accepted text as the grammar does, and no comment is in it, the
normalizer finds a statement in the text. -/
theorem exists_normalize_eq_query (hshipped : Grammar.shipped = .ok g)
    (hvalid : validate recognize g text = .ok ())
    (hcomments : ∀ mark ∈ ["--", "/*"], ¬OccursOutside mark.toList text)
    (hread : Everywhere ReadAlike .outside text) :
    ∃ q, Normalizer.default.normalize text = .query q := by
  have hg := isShipped_of_shipped hshipped
  have haccepted := validate_recognize_iff.mp hvalid
  have hnarrow : Everywhere Narrow .outside text := hread.imp fun _ _ h => h.1
  obtain ⟨s, rest, htext, hs, hrest⟩ := hg.exists_keepsQuotes_of_accepted haccepted hread
  have hclosed : Quote.outside.after text = .outside := by
    rw [htext, after_append, hs.closed]
    refine after_outside_of_forall_not_isQuoteMark fun c hc => ?_
    rcases Bool.or_eq_true_iff.mp (hrest c hc) with hsep | hwhite
    · rw [beq_iff_eq.mp hsep]
      decide
    · exact not_isQuoteMark_of_isWhite hwhite
  obtain ⟨b, hb⟩ := Option.ne_none_iff_exists'.mp (withoutTail_ne_none hclosed hnarrow)
  obtain ⟨value, hvalue, lead, word, t, u, hall, rfl, hlead, hne, hspells, ht⟩ :=
    hg.exists_leader_of_withoutTail haccepted hb
  have hleadClosed := (keepsQuotes_of_blank hlead).closed
  have hsep : Everywhere Unseparated .outside (word ++ t) := by
    have hprefix : lead ++ (word ++ t) <+: s := by
      refine isPrefix_of_isPrefix_append (p := fun c => c == ';' || isWhite c) (u := rest)
        ⟨u, by rw [← htext, hall]⟩ (fun c hc => ?_) hrest
      rw [List.getLast?_append_of_ne_nil _ (by simp [hne])] at hc
      have hlast := (isBare_of_stripTail hb).1.last c hc
      simp [hlast.1, hlast.2]
    have hfront := hs.unseparated.of_isPrefix hprefix
    rw [everywhere_append_iff, hleadClosed] at hfront
    exact hfront.2
  have hword : Everywhere Narrow .outside word := by
    rw [hall, List.append_assoc, everywhere_append_iff, hleadClosed, List.append_assoc,
      everywhere_append_iff] at hnarrow
    exact hnarrow.2.1
  obtain ⟨hsame, hident⟩ := sameLetters_of_spells hvalue hspells hword
  refine ⟨_, Normalizer.normalize_eq_query_iff.mpr ⟨word ++ t, ?_, ?_, rfl⟩⟩
  · rw [withoutComments_eq_self_iff.mpr hcomments, hb]
  · refine refusal?_eq_none_iff.mpr ⟨by simp [hne],
      separator?_eq_none_iff.mp (separator?_eq_none_of_everywhere hsep), ?_⟩
    rw [leader_append_of_forall hne hident ht]
    have hleaders : ∀ value ∈ ["SELECT", "WITH"], value.toList ∈ readOnlyLeaders := by decide
    exact List.any_eq_true.mpr ⟨_, hleaders value hvalue, hsame⟩

theorem exists_normalize_eq_query_null : ∃ g, Grammar.shipped = .ok g ∧
    validate recognize g "\tselect null FORMAT\njson ; ".toList = .ok () ∧
      ∃ q, Normalizer.default.normalize "\tselect null FORMAT\njson ; ".toList = .query q := by
  obtain ⟨g, hshipped, hfor, hignored⟩ := exists_shipped
  have hg : IsShipped g := ⟨hfor, hignored⟩
  have hvalid : validate recognize g "\tselect null FORMAT\njson ; ".toList = .ok () := by
    refine validate_recognize_iff.mpr (hg.accepted_of_derives 80 [selectLexeme,
      .literal "NULL" true, formatLexeme, jsonLexeme, separatorLexeme] ?_ ?_ ?_) <;> decide +kernel
  exact ⟨g, hshipped, hvalid, exists_normalize_eq_query hshipped hvalid
    (withoutComments_eq_self_iff.mp (by decide +kernel)) (by decide +kernel)⟩

/-! ## Letters that fold to ASCII ones -/

/-- The long s stands for an S in keywords. In front of a statement it is refused, and in front of
the end the normalizer would have to cut it in two. -/
theorem exists_accepted_not_query : ∃ g, Grammar.shipped = .ok g ∧
    ((recognize g "ſELECT NULL FORMAT JSON".toList).accepted = true ∧
      Normalizer.default.normalize "ſELECT NULL FORMAT JSON".toList =
        .refused (.noKeyword "ſELECT NULL")) ∧
    (recognize g "SELECT NULL FORMAT JſON".toList).accepted = true ∧
      Normalizer.default.normalize "SELECT NULL FORMAT JſON".toList = .broken := by
  obtain ⟨g, hshipped, hfor, hignored⟩ := exists_shipped
  have hg : IsShipped g := ⟨hfor, hignored⟩
  refine ⟨g, hshipped, ⟨?_, by decide +kernel⟩, ?_, by decide +kernel⟩
  · refine hg.accepted_of_derives 53 [selectLexeme, .literal "NULL" true, formatLexeme, jsonLexeme]
      ?_ ?_ ?_ <;> decide +kernel
  · refine hg.accepted_of_derives 53 [selectLexeme, .literal "NULL" true, formatLexeme, jsonLexeme]
      ?_ ?_ ?_ <;> decide +kernel

end QueryGate.Shipped
